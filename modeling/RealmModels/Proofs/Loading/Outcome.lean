import Mathlib
import RealmModels.Loading

namespace RealmModels

namespace Loading

def Yields {α : Type} (x : Loading α) (r : Except LoadError α) : Prop :=
  ∀ j, ∃ j', x j = match r with
    | .ok a => .ok a j'
    | .error e => .error e j'

section

variable {α β : Type} {x : Loading α} {f : α → Loading β} {a : α} {r : Except LoadError β}
  {e : LoadError}

theorem yields_pure (a : α) : Yields (pure a : Loading α) (.ok a) := fun j => ⟨j, rfl⟩

theorem yields_throw (e : LoadError) : Yields (throw e : Loading α) (.error e) := fun j => ⟨j, rfl⟩

theorem yields_modify (f : Journal → Journal) : Yields (modify f : Loading Unit) (.ok ()) :=
  fun j => ⟨f j, rfl⟩

theorem yields_report (e : Log.Event) : Yields (report e) (.ok ()) := yields_modify _

theorem Yields.bind (hx : Yields x (.ok a)) (hf : Yields (f a) r) : Yields (x >>= f) r := by
  intro j
  obtain ⟨j₁, h₁⟩ := hx j
  obtain ⟨j₂, h₂⟩ := hf j₁
  refine ⟨j₂, ?_⟩
  change EStateM.bind x f j = _
  rw [EStateM.bind, h₁]
  exact h₂

theorem Yields.stop (hx : Yields x (.error e)) : Yields (x >>= f) (.error e) := by
  intro j
  obtain ⟨j₁, h₁⟩ := hx j
  refine ⟨j₁, ?_⟩
  change EStateM.bind x f j = _
  rw [EStateM.bind, h₁]

theorem Yields.bind_map {r : Except LoadError α} {g : α → β} (hx : Yields x r)
    (hf : ∀ a, Yields (f a) (.ok (g a))) : Yields (x >>= f) (r.map g) := by
  cases r with
  | ok a => exact hx.bind (hf a)
  | error e => exact hx.stop

theorem yields_fail (t : Log.LoadTrouble) : Yields (fail t : Loading α) (.error (.trouble t)) :=
  (yields_report _).bind (yields_throw _)

theorem Yields.unique {r r' : Except LoadError α} (h : Yields x r) (h' : Yields x r') : r = r' := by
  obtain ⟨j₁, h₁⟩ := h {}
  obtain ⟨j₂, h₂⟩ := h' {}
  rw [h₁] at h₂
  cases r <;> cases r' <;> cases h₂ <;> rfl

theorem yields_introspected (result : Json) (place : String) :
    Yields (introspected result place)
      ((GraphQL.Schema.ofIntrospection result).mapError fun e => .noResult e place) := by
  rw [introspected]
  cases GraphQL.Schema.ofIntrospection result with
  | ok s => exact yields_pure s
  | error e => exact yields_throw _

end

end Loading

end RealmModels
