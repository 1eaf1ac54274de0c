import Mathlib
import RealmModels.Proofs.Naming.Requests
import RealmModels.Proofs.Swift.Escaping

namespace RealmModels.Swift

open Naming

def give (style : Naming.Style) (spelling : String) (s : Scope) : String × Scope :=
  match s.given? spelling style with
  | some known => (known, s)
  | none =>
    let free := freeName s.taken (base style spelling)
    (escapeIdentifier free,
      ⟨(keyOf spelling style, escapeIdentifier free) :: s.given, free :: s.taken⟩)

theorem name_naming (s : Scope) (style : Naming.Style) (spelling : String) :
    s.name naming style spelling = .ok (give style spelling s) := by
  cases h : s.given? spelling style with
  | some known => simp only [Scope.name, give, h]
  | none =>
    simp only [Scope.name, give, h, escaped_naming]
    rfl

theorem give_of_new {s : Scope} {spelling : String} {style : Naming.Style}
    (h : keyOf spelling style ∉ s.given.map Prod.fst) :
    give style spelling s =
      (escapeIdentifier (freeName s.taken (base style spelling)),
        ⟨(keyOf spelling style, escapeIdentifier (freeName s.taken (base style spelling))) :: s.given,
          freeName s.taken (base style spelling) :: s.taken⟩) := by
  cases hgiven : s.given? spelling style with
  | some known => exact absurd (List.mem_map_of_mem (Scope.given?_eq_some hgiven)) h
  | none => simp only [give, hgiven]

theorem give_cases (style : Naming.Style) (spelling : String) (s : Scope) :
    ((keyOf spelling style, (give style spelling s).1) ∈ s.given ∧ (give style spelling s).2 = s) ∨
    (keyOf spelling style ∉ s.given.map Prod.fst ∧
      ∃ free, free ∉ s.taken ∧ IsName free.toList ∧
        give style spelling s = (escapeIdentifier free,
          ⟨(keyOf spelling style, escapeIdentifier free) :: s.given, free :: s.taken⟩)) := by
  cases h : s.given? spelling style with
  | some known => exact .inl (by simpa only [give, h, and_true] using Scope.given?_eq_some h)
  | none =>
    have hfree := freeName_not_mem s.taken (base style spelling)
    have hname := isName_freeName s.taken (isName_base style spelling)
    exact .inr ⟨Scope.given?_eq_none h, _, hfree, hname, give_of_new (Scope.given?_eq_none h)⟩

theorem mem_given_give (style : Naming.Style) (spelling : String) (s : Scope) :
    (keyOf spelling style, (give style spelling s).1) ∈ (give style spelling s).2.given :=
  Scope.mem_given_of_name (name_naming s style spelling)

structure Distinct (s : Scope) : Prop where
  keys : (s.given.map Prod.fst).Nodup
  names : (s.given.map fun e => unquoted e.2).Nodup
  taken : ∀ e ∈ s.given, unquoted e.2 ∈ s.taken
  spelled : ∀ e ∈ s.given, IsName (unquoted e.2).toList

namespace Distinct

theorem apart {s : Scope} (h : Distinct s) : s.Apart unquoted := ⟨h.keys, h.names, h.taken⟩

theorem of_apart {s : Scope} (h : s.Apart unquoted) (hspelled : ∀ e ∈ s.given,
    IsName (unquoted e.2).toList) : Distinct s := ⟨h.keys, h.names, h.taken, hspelled⟩

theorem empty : Distinct .empty := of_apart .empty fun _ h => absurd h List.not_mem_nil

theorem give {s : Scope} (h : Distinct s) (style : Naming.Style) (spelling : String) :
    Distinct (give style spelling s).2 := by
  obtain ⟨-, he⟩ | ⟨hkey, free, hfree, hname, he⟩ := give_cases style spelling s
  · rwa [he]
  · have hplain : unquoted (escapeIdentifier free) = free := unquoted_escapeIdentifier hname
    rw [he]
    refine of_apart ?_ fun e he => ?_
    · have hcons := h.apart.cons hkey (hplain.symm ▸ hfree)
      rwa [hplain] at hcons
    · rcases List.mem_cons.mp he with rfl | he
      · rwa [hplain]
      · exact h.spelled e he

theorem take {s : Scope} (h : Distinct s) (name : String) : Distinct (s.take name) :=
  of_apart (h.apart.take name) h.spelled

theorem name_eq_iff {s : Scope} (h : Distinct s) {k l a b : String} (ha : (k, a) ∈ s.given)
    (hb : (l, b) ∈ s.given) : (a = b ↔ k = l) ∧ (unquoted a = unquoted b ↔ k = l) :=
  ⟨h.apart.name_eq_iff ha hb, h.apart.read_eq_iff ha hb⟩

end Distinct

structure Avoids (s : Scope) (key name : String) : Prop where
  taken : name ∈ s.taken
  given : ∀ a, (key, a) ∈ s.given → unquoted a ≠ name

namespace Avoids

theorem give {s : Scope} {key name : String} (h : Avoids s key name) (style : Naming.Style)
    (spelling : String) : Avoids (give style spelling s).2 key name := by
  obtain ⟨-, he⟩ | ⟨-, free, hfree, hname, he⟩ := give_cases style spelling s
  · rwa [he]
  · rw [he]
    refine ⟨List.mem_cons_of_mem _ h.taken, fun a ha => ?_⟩
    rcases List.mem_cons.mp ha with ha | ha
    · obtain ⟨-, rfl⟩ := Prod.mk.inj ha
      rw [unquoted_escapeIdentifier hname]
      exact fun hn => hfree (hn ▸ h.taken)
    · exact h.given a ha

theorem take {s : Scope} {key name : String} (h : Avoids s key name) (other : String) :
    Avoids (s.take other) key name := ⟨List.mem_cons_of_mem _ h.taken, h.given⟩

end Avoids

def Filled (s : Scope) : Prop := ∀ e ∈ s.given, e.2 ≠ ""

theorem Filled.give {s : Scope} (h : Filled s) (spelling : String) :
    Filled (give .camel spelling s).2 := by
  rw [Swift.give]
  split
  · exact h
  · intro e he
    rcases List.mem_cons.mp he with rfl | he
    · exact escapeIdentifier_ne (freeName_ne s.taken (base_camel_ne spelling))
    · exact h e he

end RealmModels.Swift
