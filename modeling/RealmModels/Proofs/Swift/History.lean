import Mathlib
import RealmModels.Proofs.Swift.Names

namespace RealmModels.Swift

open Naming

def respond (s : Scope) : Request → Option String × Scope
  | .name spelling style => (some (give style spelling s).1, (give style spelling s).2)
  | .base spelling style => (some (base style spelling), s)
  | .take name => (none, s.take name)

def respondAll (s : Scope) : List Request → List (Option String) × Scope
  | [] => ([], s)
  | r :: rs =>
    ((respond s r).1 :: (respondAll (respond s r).2 rs).1, (respondAll (respond s r).2 rs).2)

theorem answer_naming (s : Scope) (r : Request) : s.answer naming r = .ok (respond s r) := by
  cases r with
  | name spelling style =>
    simp only [Scope.answer, name_naming]
    rfl
  | base spelling style => rfl
  | take name => rfl

theorem answers_naming (s : Scope) (rs : List Request) :
    s.answers naming rs = .ok (respondAll s rs) := by
  induction rs generalizing s with
  | nil => rfl
  | cons r rs ih =>
    simp only [Scope.answers, answer_naming]
    change ((respond s r).2.answers naming rs >>= _) = _
    rw [ih]
    rfl

theorem length_respondAll (s : Scope) (rs : List Request) :
    (respondAll s rs).1.length = rs.length := Scope.length_of_answers (answers_naming s rs)

theorem respondAll_keep {P : Scope → Prop} (hP : ∀ s r, P s → P (respond s r).2) {s : Scope}
    (rs : List Request) (hs : P s) : P (respondAll s rs).2 := by
  refine Scope.answers_keep (fun s r a t hr hs => ?_) (answers_naming s rs) hs
  have hresponse : respond s r = (a, t) := Except.ok.inj ((answer_naming s r).symm.trans hr)
  have hkept := hP s r hs
  rwa [hresponse] at hkept

theorem respondAll_append (s : Scope) (rs rs' : List Request) :
    (respondAll s (rs ++ rs')).2 = (respondAll (respondAll s rs).2 rs').2 := by
  induction rs generalizing s with
  | nil => rfl
  | cons r rs ih => exact ih (respond s r).2

theorem Distinct.respond {s : Scope} (h : Distinct s) (r : Request) : Distinct (respond s r).2 := by
  cases r with
  | name spelling style => exact h.give style spelling
  | base spelling style => exact h
  | take name => exact h.take name

theorem Avoids.respond {s : Scope} {key name : String} (h : Avoids s key name) (r : Request) :
    Avoids (respond s r).2 key name := by
  cases r with
  | name spelling style => exact h.give style spelling
  | base spelling style => exact h
  | take other => exact h.take other

theorem given_subset_respondAll (s : Scope) (rs : List Request) :
    s.given ⊆ (respondAll s rs).2.given := Scope.given_subset_of_answers (answers_naming s rs)

theorem mem_given_respondAll {s : Scope} {rs : List Request} {e : String × String}
    (h : e ∈ (respondAll s rs).2.given) :
    e ∈ s.given ∨ ∃ n c, .name n c ∈ rs ∧ e.1 = keyOf n c := by
  induction rs generalizing s with
  | nil => exact .inl h
  | cons r rs ih =>
    rcases ih h with h | ⟨n, c, hmem, he⟩
    · cases r with
      | name n c =>
        obtain ⟨-, hg⟩ | ⟨-, free, -, -, hg⟩ := give_cases c n s
        · exact .inl (by simpa only [respond, hg] using h)
        · simp only [respond, hg] at h
          rcases List.mem_cons.mp h with rfl | h
          · exact .inr ⟨n, c, List.mem_cons_self, rfl⟩
          · exact .inl h
      | base n c => exact .inl h
      | take name => exact .inl h
    · exact .inr ⟨n, c, List.mem_cons_of_mem _ hmem, he⟩

theorem mem_given_of_answer {s : Scope} {rs : List Request} {n : String} {c : Naming.Style}
    {a : Option String} (h : (.name n c, a) ∈ rs.zip (respondAll s rs).1) :
    ∃ name, a = some name ∧ (keyOf n c, name) ∈ (respondAll s rs).2.given :=
  Scope.mem_given_of_answers (answers_naming s rs) h

theorem avoids_of_take {before : List Request} (after : List Request) {n w : String} {c : Naming.Style}
    (h : .name n c ∉ before) :
    Avoids (respondAll .empty (before ++ .take w :: after)).2 (keyOf n c) w := by
  have htaken : Avoids ((respondAll .empty before).2.take w) (keyOf n c) w := by
    refine ⟨List.mem_cons_self, fun e he => ?_⟩
    rcases mem_given_respondAll he with he | ⟨m, d, hmem, hkey⟩
    · exact absurd he List.not_mem_nil
    · obtain ⟨rfl, rfl⟩ := keyOf_injective hkey
      exact absurd hmem h
  rw [respondAll_append]
  exact respondAll_keep (P := fun t => Avoids t (keyOf n c) w) (fun _ r ht => ht.respond r) after
    htaken

end RealmModels.Swift
