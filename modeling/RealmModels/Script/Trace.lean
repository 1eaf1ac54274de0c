import RealmModels.Script.Step

namespace RealmModels

open Writing

structure Entry where
  label : String
  added : String
  level : Nat
  depth : Nat
  atBlockStart : Bool
  result : Except Fault Answer

structure Observed where
  session : Session
  entries : List Entry := []
  seen : String := ""

abbrev Tracing := EStateM Fault Observed

namespace Tracing

def onSession {α : Type} (w : Writing α) : Tracing α := fun o =>
  match w o.session with
  | .ok a s => .ok a { o with session := s }
  | .error e s => .error e { o with session := s }

def addition (before now : String) : String :=
  if before.toList.isPrefixOf now.toList then String.ofList (now.toList.drop before.length) else now

def record (label : String) (result : Except Fault Answer) : Tracing Unit :=
  modify fun o =>
    let p := o.session.printer
    { o with
      entries := o.entries ++
        [⟨label, addition o.seen p.output, p.level, p.depth, p.atBlockStart, result⟩]
      seen := p.output }

def observed (label : String) (action : Tracing Answer) : Tracing Unit := do
  let result ← tryCatch (do return .ok (← action)) fun e => return .error e
  record label result
  match result with
  | .ok _ => pure ()
  | .error e => throw e

mutual

def runStep (w : Workshop) : Step → Tracing Unit
  | .act label action => observed label (onSession (action.perform w))
  | .block label around body => observed label do
      onSession around.enter
      closing (runBody w body) (onSession around.leave)
      return .nothing

def runBody (w : Workshop) : List Step → Tracing Unit
  | [] => pure ()
  | step :: rest => do
    runStep w step
    runBody w rest

end

end Tracing

def Workshop.trace (w : Workshop) (steps : List Step) (s : Session) : Observed :=
  steps.foldl
    (fun o step =>
      match Tracing.runStep w step o with
      | .ok _ o | .error _ o => o)
    { session := s }

end RealmModels
