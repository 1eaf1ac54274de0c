import RealmModels.Writing.Basic

/-!
Blocks around a body: what is opened before it is closed after it in any case, also when the body
fails.
-/

namespace RealmModels.Writing

/-- Runs `body` and then `close`, even if `body` fails. A failure of `close` takes the place of one
of `body`. -/
def closing {σ α : Type} (body : EStateM Fault σ α) (close : EStateM Fault σ Unit) :
    EStateM Fault σ α := fun s =>
  match body s with
  | .ok a s =>
    match close s with
    | .ok _ s => .ok a s
    | .error e s => .error e s
  | .error e s =>
    match close s with
    | .ok _ s => .error e s
    | .error e s => .error e s

structure Block where
  enter : Writing Unit
  leave : Writing Unit

namespace Block

def around {α : Type} (b : Block) (body : Writing α) : Writing α := do
  b.enter
  closing body b.leave

def bare : Block := ⟨pure (), pure ()⟩

def indented : Block := ⟨deepen, dedent⟩

def enclosed (opening ending : String) : Block := ⟨openBlock opening, closeBlock ending⟩

def braces : Block := enclosed " \x7b" "\x7d"

def inScope (frame : Frame) : Block :=
  { enter := do
      push frame
      braces.enter
    leave := closing braces.leave (do let _ ← pop) }

end Block

end RealmModels.Writing
