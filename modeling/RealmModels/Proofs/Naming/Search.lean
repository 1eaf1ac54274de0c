import Mathlib
import RealmModels.Proofs.Naming.FreeName

/-!
The search for a free name, one candidate after the other. Nothing in it says how long it goes on; it
ends because its candidates differ, so that no more of them are taken than there are taken names.
-/

namespace RealmModels.Naming

structure Search where
  scope : Scope
  candidate : String
  number : ℕ

namespace Search

variable {name candidate : String} {s : Scope} {q r : Search} {i j k l n : ℕ}

def start (s : Scope) (name : String) : Search := ⟨s, name, 1⟩

def advance (name : String) (q : Search) : Search :=
  { q with candidate := name ++ toString q.number, number := q.number + 1 }

/-- A search goes on while its candidate is taken; it ends at `r` after so many rounds. -/
inductive Ends (name : String) : ℕ → Search → Search → Prop
  | free {q : Search} (h : q.candidate ∉ q.scope.taken) : Ends name 0 q q
  | taken {q r : Search} {k : ℕ} (h : q.candidate ∈ q.scope.taken)
      (hrest : Ends name k (q.advance name) r) : Ends name (k + 1) q r

theorem advance_scope (name : String) (q : Search) : (q.advance name).scope = q.scope := rfl

theorem Ends.scope_eq (h : Ends name k q r) : r.scope = q.scope := by
  induction h with
  | free hfree => rfl
  | taken htaken hrest ih => rw [ih, advance_scope]

theorem Ends.unique {t : Search} (h : Ends name k q r) (h' : Ends name l q t) : l = k ∧ t = r := by
  induction h generalizing l with
  | free hfree =>
    cases h' with
    | free => exact ⟨rfl, rfl⟩
    | taken htaken => exact absurd htaken hfree
  | taken htaken hrest ih =>
    cases h' with
    | free hfree => exact absurd htaken hfree
    | taken _ hrest' => exact (ih hrest').imp_left (congrArg (· + 1))

theorem ends_of_taken (hj : i + n = j) (hcandidate : candidate ∈ s.taken)
    (hbelow : ∀ m, i ≤ m → m < j → name ++ toString m ∈ s.taken)
    (hfree : name ++ toString j ∉ s.taken) :
    Ends name (n + 1) ⟨s, candidate, i⟩ ⟨s, name ++ toString j, j + 1⟩ := by
  induction n generalizing candidate i with
  | zero =>
    obtain rfl : i = j := hj
    exact .taken hcandidate (.free hfree)
  | succ n ih =>
    have hnext : name ++ toString i ∈ s.taken := hbelow i (le_refl i) (by omega)
    have hrest := ih (i := i + 1) (by omega) hnext fun m hm => hbelow m (by omega)
    exact .taken hcandidate hrest

theorem ends_start_of_mem (h : name ∈ s.taken) :
    ∃ j r, Ends name j (start s name) r ∧ r.candidate = name ++ toString j ∧
      j ≤ s.taken.toFinset.card ∧ freeName s.taken name = name ++ toString j ∧
      IsLeast {i | 1 ≤ i ∧ name ++ toString i ∉ s.taken} j := by
  obtain ⟨j, hpos, hcard, hname, hfree, hbelow⟩ := freeName_of_mem h
  obtain ⟨n, rfl⟩ : ∃ n, j = n + 1 := ⟨j - 1, by omega⟩
  have hends := ends_of_taken (Nat.add_comm 1 n) h hbelow hfree
  refine ⟨n + 1, _, hends, rfl, hcard, hname, ⟨hpos, hfree⟩, ?_⟩
  rintro i ⟨hi, hifree⟩
  exact Nat.le_of_not_lt fun hlt => hifree (hbelow i hi hlt)

end Search

/-- The search for a free name always ends, in one way only, with no more rounds than there are taken
names, and leaves the scope as it was. It ends at the name itself if that is free, and otherwise at the
name with the least number, counted from one, that makes it free. -/
theorem search_ends (s : Scope) (name : String) :
    ∃ k r, Search.Ends name k (.start s name) r ∧
      (∀ l t, Search.Ends name l (.start s name) t → l = k ∧ t = r) ∧
      k ≤ s.taken.toFinset.card ∧ r.scope = s ∧ r.candidate = freeName s.taken name ∧
      (name ∉ s.taken → r.candidate = name) ∧
      (name ∈ s.taken → ∃ j, IsLeast {i | 1 ≤ i ∧ name ++ toString i ∉ s.taken} j ∧
        r.candidate = name ++ toString j) := by
  by_cases h : name ∈ s.taken
  · obtain ⟨j, r, hends, hcandidate, hcard, hname, hleast⟩ := Search.ends_start_of_mem h
    exact ⟨j, r, hends, fun _ _ => hends.unique, hcard, hends.scope_eq, hcandidate.trans hname.symm,
      fun hfree => absurd h hfree, fun _ => ⟨j, hleast, hcandidate⟩⟩
  · have hends : Search.Ends name 0 (.start s name) (.start s name) := .free h
    exact ⟨0, _, hends, fun _ _ => hends.unique, Nat.zero_le _, rfl, (freeName_of_not_mem h).symm,
      fun _ => rfl, fun hmem => absurd hmem h⟩

example : freeName ["id1", "id", "id3"] "id" = "id2" := by decide

end RealmModels.Naming
