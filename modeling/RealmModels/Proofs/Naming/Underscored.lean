import Mathlib
import RealmModels.Proofs.Naming.Escape
import RealmModels.Proofs.Naming.FreeName
import RealmModels.Proofs.Naming.Requests
import RealmModels.Proofs.Naming.Words

/-!
Names of which the reserved ones have an underscore behind them. A scope keeps its names apart before
they are escaped, and remembers only these, so that a reserved word can meet a name that ends in an
underscore of its own.
-/

namespace RealmModels.Naming

open Text

def plain : Policy := ⟨[], underscored⟩

/-- A reserved word has the same form with its underscore as another name that is not reserved. -/
def Collides (reserved : List String) (word name : String) : Prop :=
  word ∈ reserved ∧ name ∉ reserved ∧ name = word ++ "_"

theorem withUnderscore_eq_iff {reserved : List String} {u v : String} :
    withUnderscore reserved u = withUnderscore reserved v ↔
      u = v ∨ Collides reserved u v ∨ Collides reserved v u := by
  have hcancel : u ++ "_" = v ++ "_" ↔ u = v := by simp
  simp only [withUnderscore, Collides]
  by_cases hu : u ∈ reserved <;> by_cases hv : v ∈ reserved
  · simp [hu, hv]
  · have hne : u ≠ v := ne_of_mem_of_not_mem hu hv
    simp [hu, hv, hne, eq_comm]
  · have hne : v ≠ u := ne_of_mem_of_not_mem hv hu
    simp [hu, hv, hne.symm]
  · simp [hu, hv]

theorem lastIs_toString (k : ℕ) : lastIs Char.isDigit (toString k) = true := by
  have hne : Nat.toDigits 10 k ≠ [] := Nat.toDigits_ne_nil
  refine lastIs_iff.mpr ⟨(Nat.toDigits 10 k).getLast hne, ?_, ?_⟩
  · rw [Nat.toString_eq_ofList_toDigits, String.toList_ofList, List.getLast?_eq_some_getLast hne]
  · exact Nat.isDigit_of_mem_toDigits (by decide) (by decide) (List.getLast_mem hne)

theorem base_ne_underscored {style : Style} (hstyle : style ≠ .verbatim) (spelling : String)
    {word : String} (hword : ∃ c ∈ word.toList, isInWord c = true) :
    base style spelling ≠ word ++ "_" := by
  intro h
  have hlist : (base style spelling).toList = word.toList ++ ['_'] := by
    rw [h, String.toList_append]
    rfl
  have hmem : '_' ∈ (base style spelling).toList := by
    rw [hlist]
    exact List.mem_append_right _ List.mem_cons_self
  have hclean := isName_clean spelling.toList
  cases style with
  | verbatim => exact hstyle rfl
  | snake =>
    have hlast : (snake (clean spelling.toList)).getLast? = some '_' := by
      simp only [base, convert, String.toList_ofList] at hlist
      rw [hlist, List.getLast?_concat]
    exact absurd (not_of_getLast?_dropEndWhile hlast) (by decide)
  | pascal =>
    simp only [base, convert, String.toList_ofList] at hmem
    exact absurd (isAlphanum_of_mem_pascal hclean hmem) (by decide)
  | camel =>
    simp only [base, convert, String.toList_ofList] at hlist hmem
    by_cases hwords : words (clean spelling.toList) = []
    · obtain ⟨c, hc, hin⟩ := hword
      have hflat := flatten_words hclean.isAscii
      rw [hwords, List.flatten_nil, eq_comm, List.map_eq_nil_iff, List.filter_eq_nil_iff] at hflat
      rw [camel_of_words_nil hwords] at hlist
      exact hflat c (hlist ▸ List.mem_append_left _ hc) hin
    · exact absurd (isAlphanum_of_mem_camel hclean hwords hmem) (by decide)

theorem freeName_ne_underscored {style : Style} (hstyle : style ≠ .verbatim) (spelling : String)
    (taken : List String) {word : String} (hword : ∃ c ∈ word.toList, isInWord c = true) :
    freeName taken (base style spelling) ≠ word ++ "_" := by
  by_cases hmem : base style spelling ∈ taken
  · obtain ⟨k, -, -, hname, -, -⟩ := freeName_of_mem hmem
    rw [hname]
    intro h
    have hdigit := lastIs_append (base style spelling) (lastIs_toString k)
    rw [h] at hdigit
    obtain ⟨c, hc, hcdigit⟩ := lastIs_iff.mp hdigit
    have hunderscore : (word ++ "_").toList.getLast? = some '_' := by simp
    obtain rfl := Option.some.inj (hc.symm.trans hunderscore)
    exact absurd hcdigit (by decide)
  · rw [freeName_of_not_mem hmem]
    exact base_ne_underscored hstyle spelling hword

structure Scope.Plain (s : Scope) : Prop where
  apart : s.Apart id
  made : ∀ e ∈ s.given, ∃ n c taken, e = (keyOf n c, freeName taken (base c n))

namespace Scope

theorem plain_empty : Plain .empty := ⟨.empty, fun _ h => absurd h List.not_mem_nil⟩

theorem Plain.answer {s t : Scope} {r : Request} {a : Option String}
    (h : s.answer plain r = .ok (a, t)) (hs : s.Plain) : t.Plain := by
  cases r with
  | name n c =>
    obtain ⟨name, -, hname⟩ := answer_name_eq_ok_iff.mp h
    obtain ⟨-, rfl⟩ | ⟨hkey, hfree, rfl⟩ := name_cases hname
    · exact hs
    · obtain rfl := Except.ok.inj hfree
      refine ⟨hs.apart.cons hkey (freeName_not_mem s.taken (base c n)), fun e he => ?_⟩
      rcases List.mem_cons.mp he with rfl | he
      · exact ⟨n, c, s.taken, rfl⟩
      · exact hs.made e he
  | base n c =>
    obtain ⟨-, rfl⟩ := Prod.mk.inj (Except.ok.inj h)
    exact hs
  | take name =>
    obtain ⟨-, rfl⟩ := Prod.mk.inj (Except.ok.inj h)
    exact ⟨hs.apart.take name, hs.made⟩

theorem Plain.freeName_of_mem {s : Scope} (h : s.Plain) {n name : String} {c : Style}
    (hmem : (keyOf n c, name) ∈ s.given) : ∃ taken, name = freeName taken (Naming.base c n) := by
  obtain ⟨m, d, taken, he⟩ := h.made _ hmem
  obtain ⟨hkey, rfl⟩ := Prod.mk.inj he
  obtain ⟨rfl, rfl⟩ := keyOf_injective hkey
  exact ⟨taken, rfl⟩

def mapGiven (f : String → String) (s : Scope) : Scope :=
  { s with given := s.given.map (Prod.map id f) }

theorem given?_mapGiven (f : String → String) (s : Scope) (spelling : String) (style : Style) :
    (s.mapGiven f).given? spelling style = (s.given? spelling style).map f := by
  simp only [given?, mapGiven, List.find?_map, Option.map_map]
  rfl

end Scope

def Request.rewrite (f : String → String) : Request → Option String → Option String
  | .name _ _, a => a.map f
  | _, a => a

namespace Scope

variable {p : Policy} {f : String → String}

theorem name_mapGiven (hp : ∀ name, p.escaped name = .ok (f name)) {s t : Scope} {n name : String}
    {c : Style} (h : s.name plain c n = .ok (name, t)) :
    (s.mapGiven f).name p c n = .ok (f name, t.mapGiven f) := by
  rw [Scope.name] at h ⊢
  rw [given?_mapGiven]
  cases hgiven : s.given? n c with
  | some known =>
    rw [hgiven] at h
    obtain ⟨rfl, rfl⟩ := Prod.mk.inj (Except.ok.inj h)
    rfl
  | none =>
    rw [hgiven] at h
    obtain ⟨rfl, rfl⟩ := Prod.mk.inj (Except.ok.inj h)
    simp only [Option.map_none, hp]
    rfl

theorem answer_mapGiven (hp : ∀ name, p.escaped name = .ok (f name)) {s t : Scope} {r : Request}
    {a : Option String} (h : s.answer plain r = .ok (a, t)) :
    (s.mapGiven f).answer p r = .ok (r.rewrite f a, t.mapGiven f) := by
  cases r with
  | name n c =>
    obtain ⟨name, rfl, hname⟩ := answer_name_eq_ok_iff.mp h
    exact answer_name_eq_ok_iff.mpr ⟨f name, rfl, name_mapGiven hp hname⟩
  | base n c =>
    obtain ⟨rfl, rfl⟩ := Prod.mk.inj (Except.ok.inj h)
    rfl
  | take name =>
    obtain ⟨rfl, rfl⟩ := Prod.mk.inj (Except.ok.inj h)
    rfl

theorem answers_mapGiven (hp : ∀ name, p.escaped name = .ok (f name)) {s u : Scope}
    {rs : List Request} {as : List (Option String)} (h : s.answers plain rs = .ok (as, u)) :
    (s.mapGiven f).answers p rs = .ok (List.zipWith (Request.rewrite f) rs as, u.mapGiven f) := by
  induction rs generalizing s as with
  | nil =>
    obtain ⟨rfl, rfl⟩ := Prod.mk.inj (Except.ok.inj h)
    rfl
  | cons r rs ih =>
    obtain ⟨a, t, bs, hr, hrs, rfl⟩ := answers_cons_eq_ok_iff.mp h
    exact answers_cons_eq_ok_iff.mpr ⟨_, _, _, answer_mapGiven hp hr, ih hrs, rfl⟩

theorem exists_answer_plain (s : Scope) (r : Request) : ∃ a t, s.answer plain r = .ok (a, t) := by
  cases r with
  | name n c =>
    have hname : ∃ name t, s.name plain c n = .ok (name, t) := by
      rw [Scope.name]
      cases s.given? n c with
      | some known => exact ⟨known, s, rfl⟩
      | none => exact ⟨_, _, rfl⟩
    obtain ⟨name, t, hname⟩ := hname
    exact ⟨some name, t, answer_name_eq_ok_iff.mpr ⟨name, rfl, hname⟩⟩
  | base n c => exact ⟨_, _, rfl⟩
  | take name => exact ⟨_, _, rfl⟩

theorem exists_answers_plain (s : Scope) (rs : List Request) :
    ∃ as u, s.answers plain rs = .ok (as, u) := by
  induction rs generalizing s with
  | nil => exact ⟨[], s, rfl⟩
  | cons r rs ih =>
    obtain ⟨a, t, hr⟩ := exists_answer_plain s r
    obtain ⟨bs, u, hrs⟩ := ih t
    exact ⟨a :: bs, u, answers_cons_eq_ok_iff.mpr ⟨a, t, bs, hr, hrs, rfl⟩⟩

theorem exists_of_answers {s u : Scope} {rs : List Request} {as : List (Option String)}
    (h : s.answers p rs = .ok (as, u)) {i : ℕ} {n : String} {c : Style}
    (hi : rs[i]? = some (.name n c)) :
    ∃ name, as[i]? = some (some name) ∧ (keyOf n c, name) ∈ u.given := by
  obtain ⟨hlt, hr⟩ := List.getElem?_eq_some_iff.mp hi
  have hlt' : i < as.length := by rwa [length_of_answers h]
  have ha : as[i]? = some as[i] := List.getElem?_eq_getElem hlt'
  have hzip : (rs.zip as)[i]? = some (Request.name n c, as[i]) :=
    List.getElem?_zip_eq_some.mpr ⟨hi, ha⟩
  obtain ⟨name, hname, hgiven⟩ := mem_given_of_answers h (List.mem_of_getElem? hzip)
  exact ⟨name, by rw [ha, hname], hgiven⟩

end Scope

/-- Reserved words with an underscore behind them: whatever is asked for, the names are those of a
scope that escapes nothing, written with their underscores. Names for different spellings or styles
are different there, and here they are the same just if a reserved word meets a name that has its
underscore already. That takes a name that stays as it was spelled, or a reserved word without any
letter or digit. -/
theorem underscored_names_eq_iff (reserved : List String) (rs : List Request) :
    ∃ plains names scope scope',
      Scope.empty.answers plain rs = .ok (plains, scope) ∧
      Scope.empty.answers ⟨reserved, underscored⟩ rs = .ok (names, scope') ∧
      ∀ (i j : ℕ) (n m : String) (c d : Style),
        rs[i]? = some (.name n c) → rs[j]? = some (.name m d) →
        ∃ u v, plains[i]? = some (some u) ∧ plains[j]? = some (some v) ∧
          names[i]? = some (some (withUnderscore reserved u)) ∧
          names[j]? = some (some (withUnderscore reserved v)) ∧
          (u = v ↔ n = m ∧ c = d) ∧
          (withUnderscore reserved u = withUnderscore reserved v ↔
            (n = m ∧ c = d) ∨ Collides reserved u v ∨ Collides reserved v u) ∧
          (c ≠ .verbatim → d ≠ .verbatim →
            (∀ word ∈ reserved, ∃ ch ∈ word.toList, isInWord ch = true) →
            (withUnderscore reserved u = withUnderscore reserved v ↔ n = m ∧ c = d)) := by
  obtain ⟨plains, scope, hplain⟩ := Scope.exists_answers_plain .empty rs
  have hescaped := Scope.answers_mapGiven (escaped_underscored reserved) hplain
  have hkept : scope.Plain :=
    Scope.answers_keep (fun _ _ _ _ hr hs => hs.answer hr) hplain Scope.plain_empty
  refine ⟨plains, _, scope, _, hplain, hescaped, fun i j n m c d hi hj => ?_⟩
  obtain ⟨u, hu, hgivenu⟩ := Scope.exists_of_answers hplain hi
  obtain ⟨v, hv, hgivenv⟩ := Scope.exists_of_answers hplain hj
  have huv : u = v ↔ n = m ∧ c = d := (hkept.apart.name_eq_iff hgivenu hgivenv).trans keyOf_eq_iff
  have heq : withUnderscore reserved u = withUnderscore reserved v ↔
      (n = m ∧ c = d) ∨ Collides reserved u v ∨ Collides reserved v u := by
    rw [withUnderscore_eq_iff, huv]
  refine ⟨u, v, hu, hv, ?_, ?_, huv, heq, fun hc hd hwords => ?_⟩
  · rw [List.getElem?_zipWith, hi, hu]
    rfl
  · rw [List.getElem?_zipWith, hj, hv]
    rfl
  · obtain ⟨taken, hfreeu⟩ := hkept.freeName_of_mem hgivenu
    obtain ⟨taken', hfreev⟩ := hkept.freeName_of_mem hgivenv
    have hnone : ¬(Collides reserved u v ∨ Collides reserved v u) := by
      rintro (⟨hmem, -, hcollide⟩ | ⟨hmem, -, hcollide⟩)
      · exact freeName_ne_underscored hd m taken' (hwords u hmem) (hfreev ▸ hcollide)
      · exact freeName_ne_underscored hc n taken (hwords v hmem) (hfreeu ▸ hcollide)
    rw [heq, or_iff_left hnone]

theorem camel_names_of_class_differ :
    ∃ names scope, Scope.empty.answers ⟨["class"], underscored⟩
        [.name "class" .camel, .name "class_" .camel] = .ok (names, scope) ∧
      names[0]? ≠ names[1]? := by
  obtain ⟨plains, names, -, scope, -, hrun, hnames⟩ :=
    underscored_names_eq_iff ["class"] [.name "class" .camel, .name "class_" .camel]
  obtain ⟨u, v, -, -, hu, hv, -, -, hdiffer⟩ := hnames 0 1 _ _ _ _ rfl rfl
  have hletter : ∀ word ∈ ["class"], ∃ ch ∈ word.toList, isInWord ch = true := by
    intro word hword
    obtain rfl := List.mem_singleton.mp hword
    exact ⟨'c', List.mem_cons_self, by decide⟩
  refine ⟨names, scope, hrun, fun hsame => ?_⟩
  rw [hu, hv] at hsame
  have hpair := (hdiffer (by decide) (by decide) hletter).mp (Option.some.inj (Option.some.inj hsame))
  exact absurd hpair (by decide)

theorem verbatim_names_of_class_same :
    ∃ scope, Scope.empty.answers ⟨["class"], underscored⟩
        [.name "class" .verbatim, .name "class_" .verbatim] =
      .ok ([some "class_", some "class_"], scope) := ⟨_, rfl⟩

end RealmModels.Naming
