import Mathlib
import RealmModels.Naming.Scope

namespace RealmModels.Naming

theorem keyOf_injective {n m : String} {c d : Style} (h : keyOf n c = keyOf m d) :
    n = m ∧ c = d := by
  have hl := congrArg (fun s => s.toList.reverse) h
  cases c <;> cases d <;> simp [keyOf, Style.word] at hl <;>
    exact ⟨String.toList_injective hl, rfl⟩

theorem keyOf_eq_iff {n m : String} {c d : Style} : keyOf n c = keyOf m d ↔ n = m ∧ c = d :=
  ⟨keyOf_injective, fun h => by rw [h.1, h.2]⟩

inductive Request where
  | name (spelling : String) (style : Style)
  | base (spelling : String) (style : Style)
  | take (name : String)
  deriving DecidableEq, Repr

namespace Scope

def answer (p : Policy) (s : Scope) : Request → Except EscapeError (Option String × Scope)
  | .name spelling style => do
    let (a, t) ← s.name p style spelling
    return (some a, t)
  | .base spelling style => .ok (some (Naming.base style spelling), s)
  | .take name => .ok (none, s.take name)

def answers (p : Policy) (s : Scope) :
    List Request → Except EscapeError (List (Option String) × Scope)
  | [] => .ok ([], s)
  | r :: rs => do
    let (a, t) ← s.answer p r
    let (as, u) ← t.answers p rs
    return (a :: as, u)

theorem given?_eq_some {s : Scope} {spelling known : String} {style : Style}
    (h : s.given? spelling style = some known) : (keyOf spelling style, known) ∈ s.given := by
  obtain ⟨e, he, rfl⟩ := Option.map_eq_some_iff.mp h
  have hkey : e.1 = keyOf spelling style := by simpa using List.find?_some he
  simpa only [← hkey] using List.mem_of_find?_eq_some he

theorem given?_eq_none {s : Scope} {spelling : String} {style : Style}
    (h : s.given? spelling style = none) : keyOf spelling style ∉ s.given.map Prod.fst := by
  rw [given?, Option.map_eq_none_iff, List.find?_eq_none] at h
  intro hmem
  obtain ⟨e, he, hkey⟩ := List.mem_map.mp hmem
  exact h e he (by simpa using hkey)

structure Apart (read : String → String) (s : Scope) : Prop where
  keys : (s.given.map Prod.fst).Nodup
  names : (s.given.map fun e => read e.2).Nodup
  taken : ∀ e ∈ s.given, read e.2 ∈ s.taken

namespace Apart

variable {read : String → String} {s : Scope}

theorem empty : Scope.empty.Apart read := ⟨.nil, .nil, fun _ h => absurd h List.not_mem_nil⟩

theorem take (h : s.Apart read) (name : String) : (s.take name).Apart read :=
  ⟨h.keys, h.names, fun e he => List.mem_cons_of_mem _ (h.taken e he)⟩

theorem cons (h : s.Apart read) {key name : String} (hkey : key ∉ s.given.map Prod.fst)
    (hfree : read name ∉ s.taken) :
    Apart read ⟨(key, name) :: s.given, read name :: s.taken⟩ := by
  constructor
  · rw [List.map_cons, List.nodup_cons]
    exact ⟨hkey, h.keys⟩
  · -- a new name was free, while those that were given are taken
    rw [List.map_cons, List.nodup_cons]
    refine ⟨fun hmem => ?_, h.names⟩
    obtain ⟨e, hgiven, he⟩ := List.mem_map.mp hmem
    exact hfree (he ▸ h.taken e hgiven)
  · intro e he
    rcases List.mem_cons.mp he with rfl | he
    · exact List.mem_cons_self
    · exact List.mem_cons_of_mem _ (h.taken e he)

theorem eq_of_key (h : s.Apart read) {e d : String × String} (he : e ∈ s.given) (hd : d ∈ s.given)
    (hkey : e.1 = d.1) : e = d := List.inj_on_of_nodup_map h.keys he hd hkey

theorem eq_of_read (h : s.Apart read) {e d : String × String} (he : e ∈ s.given) (hd : d ∈ s.given)
    (hname : read e.2 = read d.2) : e = d := List.inj_on_of_nodup_map h.names he hd hname

theorem read_eq_iff (h : s.Apart read) {k l a b : String} (ha : (k, a) ∈ s.given)
    (hb : (l, b) ∈ s.given) : read a = read b ↔ k = l := by
  constructor <;> intro heq
  · exact (Prod.mk.inj (h.eq_of_read ha hb heq)).1
  · rw [(Prod.mk.inj (h.eq_of_key ha hb heq)).2]

theorem name_eq_iff (h : s.Apart read) {k l a b : String} (ha : (k, a) ∈ s.given)
    (hb : (l, b) ∈ s.given) : a = b ↔ k = l := by
  constructor <;> intro heq
  · exact (h.read_eq_iff ha hb).mp (congrArg read heq)
  · exact (Prod.mk.inj (h.eq_of_key ha hb heq)).2

end Apart

section

variable {p : Policy} {s t u : Scope} {r : Request} {rs : List Request} {as : List (Option String)}

theorem name_cases {spelling a : String} {style : Style} (h : s.name p style spelling = .ok (a, t)) :
    ((keyOf spelling style, a) ∈ s.given ∧ t = s) ∨
    (keyOf spelling style ∉ s.given.map Prod.fst ∧
      p.escaped (freeName s.taken (base style spelling)) = .ok a ∧
      t = ⟨(keyOf spelling style, a) :: s.given, freeName s.taken (base style spelling) :: s.taken⟩) := by
  rw [name] at h
  cases hgiven : s.given? spelling style with
  | some known =>
    rw [hgiven] at h
    obtain ⟨rfl, rfl⟩ := Prod.mk.inj (Except.ok.inj h)
    exact .inl ⟨given?_eq_some hgiven, rfl⟩
  | none =>
    rw [hgiven] at h
    dsimp only at h
    cases hescaped : p.escaped (freeName s.taken (base style spelling)) with
    | error e =>
      rw [hescaped] at h
      cases h
    | ok final =>
      rw [hescaped] at h
      obtain ⟨rfl, rfl⟩ := Prod.mk.inj (Except.ok.inj h)
      exact .inr ⟨given?_eq_none hgiven, rfl, rfl⟩

theorem mem_given_of_name {spelling a : String} {style : Style}
    (h : s.name p style spelling = .ok (a, t)) : (keyOf spelling style, a) ∈ t.given := by
  obtain ⟨hmem, rfl⟩ | ⟨-, -, rfl⟩ := name_cases h
  · exact hmem
  · exact List.mem_cons_self

theorem answer_name_eq_ok_iff {n : String} {c : Style} {a : Option String} :
    s.answer p (.name n c) = .ok (a, t) ↔ ∃ name, a = some name ∧ s.name p c n = .ok (name, t) := by
  rw [answer]
  cases hname : s.name p c n with
  | error e => simp [bind, Except.bind]
  | ok given =>
    obtain ⟨name, t'⟩ := given
    change Except.ok (some name, t') = _ ↔ _
    simp [eq_comm]

theorem answers_cons_eq_ok_iff :
    s.answers p (r :: rs) = .ok (as, u) ↔
      ∃ a t bs, s.answer p r = .ok (a, t) ∧ t.answers p rs = .ok (bs, u) ∧ as = a :: bs := by
  rw [answers]
  cases hanswer : s.answer p r with
  | error e => simp [bind, Except.bind]
  | ok first =>
    obtain ⟨a, t⟩ := first
    change (t.answers p rs >>= fun rest => pure (a :: rest.1, rest.2)) = _ ↔ _
    cases hrest : t.answers p rs with
    | error e => simp [bind, Except.bind, hrest]
    | ok rest =>
      obtain ⟨bs, v⟩ := rest
      simp [bind, Except.bind, pure, Except.pure, hrest, eq_comm, and_comm, and_left_comm]

theorem answers_keep {P : Scope → Prop}
    (hP : ∀ s r a t, s.answer p r = .ok (a, t) → P s → P t)
    (h : s.answers p rs = .ok (as, u)) (hs : P s) : P u := by
  induction rs generalizing s as with
  | nil =>
    obtain ⟨-, rfl⟩ := Prod.mk.inj (Except.ok.inj h)
    exact hs
  | cons r rs ih =>
    obtain ⟨a, t, bs, hr, hrs, -⟩ := answers_cons_eq_ok_iff.mp h
    exact ih hrs (hP s r a t hr hs)

theorem given_subset_of_answer {a : Option String} (h : s.answer p r = .ok (a, t)) :
    s.given ⊆ t.given := by
  cases r with
  | name n c =>
    obtain ⟨name, -, hname⟩ := answer_name_eq_ok_iff.mp h
    obtain ⟨-, rfl⟩ | ⟨-, -, rfl⟩ := name_cases hname
    · exact List.Subset.refl _
    · exact List.subset_cons_self _ _
  | base n c =>
    obtain ⟨-, rfl⟩ := Prod.mk.inj (Except.ok.inj h)
    exact List.Subset.refl _
  | take name =>
    obtain ⟨-, rfl⟩ := Prod.mk.inj (Except.ok.inj h)
    exact List.Subset.refl _

theorem given_subset_of_answers (h : s.answers p rs = .ok (as, u)) : s.given ⊆ u.given :=
  answers_keep (P := fun t => s.given ⊆ t.given)
    (fun _ _ _ _ hr ht => List.Subset.trans ht (given_subset_of_answer hr)) h (List.Subset.refl _)

theorem length_of_answers (h : s.answers p rs = .ok (as, u)) : as.length = rs.length := by
  induction rs generalizing s as with
  | nil =>
    obtain ⟨rfl, -⟩ := Prod.mk.inj (Except.ok.inj h)
    rfl
  | cons r rs ih =>
    obtain ⟨a, t, bs, -, hrs, rfl⟩ := answers_cons_eq_ok_iff.mp h
    rw [List.length_cons, List.length_cons, ih hrs]

theorem mem_given_of_answers {n : String} {c : Style} {a : Option String}
    (h : s.answers p rs = .ok (as, u)) (hmem : (.name n c, a) ∈ rs.zip as) :
    ∃ name, a = some name ∧ (keyOf n c, name) ∈ u.given := by
  induction rs generalizing s as with
  | nil => exact absurd hmem List.not_mem_nil
  | cons r rs ih =>
    obtain ⟨b, t, bs, hr, hrs, rfl⟩ := answers_cons_eq_ok_iff.mp h
    rcases List.mem_cons.mp hmem with heq | hmem
    · obtain ⟨rfl, rfl⟩ := Prod.mk.inj heq
      obtain ⟨name, rfl, hname⟩ := answer_name_eq_ok_iff.mp hr
      exact ⟨name, rfl, given_subset_of_answers hrs (mem_given_of_name hname)⟩
    · exact ih hrs hmem

end

end Scope

end RealmModels.Naming
