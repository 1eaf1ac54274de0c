import Mathlib
import RealmModels.Proofs.Naming.Words
import RealmModels.Proofs.Swift.FullName
import RealmModels.Proofs.Swift.History

namespace RealmModels.GraphQL

open Naming

theorem isNameChar_of_isNameContinue {c : Char} (h : isNameContinue c = true) :
    isNameChar c = true := by
  simp only [isNameContinue, isNameStart, Bool.or_eq_true, Bool.and_eq_true, decide_eq_true_eq,
    Char.le_def] at h
  simp only [isNameChar, Char.isAlphanum, Char.isAlpha, Char.isUpper, Char.isLower,
    Bool.or_eq_true, Bool.and_eq_true, decide_eq_true_eq, ge_iff_le]
  tauto

theorem isNameContinue_of_isAlphanum {c : Char} (h : c.isAlphanum = true) :
    isNameContinue c = true :=
  of_ascii (P := fun c => c.isAlphanum = true → isNameContinue c = true) (by decide)
    (by simp [isNameChar, h]) h

theorem isNameStart_iff_of_isNameContinue {c : Char} (h : isNameContinue c = true) :
    isNameStart c = true ↔ c.isDigit = false :=
  of_ascii (P := fun c => isNameContinue c = true → (isNameStart c = true ↔ c.isDigit = false))
    (by decide) (isNameChar_of_isNameContinue h) h

theorem isName_of_cons {name : String} {c : Char} {cs : List Char} (h : name.toList = c :: cs) :
    isName name = true ↔ isNameStart c = true ∧ ∀ d ∈ cs, isNameContinue d = true := by
  simp [isName, h]

theorem exists_cons_of_isName {name : String} (h : isName name = true) :
    ∃ c cs, name.toList = c :: cs ∧ c.isDigit = false ∧ ∀ d ∈ c :: cs, isNameContinue d = true := by
  have hne : name.toList ≠ [] := by
    intro hnil
    simp [isName, hnil] at h
  obtain ⟨c, cs, hcs⟩ := List.exists_cons_of_ne_nil hne
  have hcontinues := isNameContinue_of_isName h
  rw [hcs] at hcontinues
  have hstart := ((isName_of_cons hcs).mp h).1
  exact ⟨c, cs, hcs, (isNameStart_iff_of_isNameContinue (hcontinues c List.mem_cons_self)).mp hstart,
    hcontinues⟩

theorem hyphenless_of_continues {cs : List Char} (h : ∀ c ∈ cs, isNameContinue c = true) :
    IsName cs ∧ '-' ∉ cs :=
  ⟨fun c hc => isNameChar_of_isNameContinue (h c hc), fun hmem => absurd (h _ hmem) (by decide)⟩

theorem isName_iff_of_continues {name : String} {c : Char} (hc : name.toList.head? = some c)
    (h : ∀ d ∈ name.toList, isNameContinue d = true) :
    isName name = true ↔ c.isDigit = false := by
  obtain ⟨cs, hcs⟩ := List.head?_eq_some_iff.mp hc
  rw [hcs] at h
  obtain ⟨hstart, hrest⟩ := List.forall_mem_cons.mp h
  rw [isName_of_cons hcs, isNameStart_iff_of_isNameContinue hstart]
  exact and_iff_left hrest

end RealmModels.GraphQL

namespace RealmModels.Swift

open GraphQL Naming

def leadsWithDigit (name : String) : Bool :=
  (name.toList.dropWhile (· == '_')).head?.any Char.isDigit

def Made (s : Scope) : Prop :=
  ∀ e ∈ s.given, ∃ spelling style taken,
    e = (keyOf spelling style, escapeIdentifier (freeName taken (base style spelling)))

namespace Made

variable {s : Scope}

theorem empty : Made .empty := fun _ h => absurd h List.not_mem_nil

theorem give (h : Made s) (style : Naming.Style) (spelling : String) :
    Made (give style spelling s).2 := by
  rw [Swift.give]
  split
  · exact h
  · intro e he
    rcases List.mem_cons.mp he with rfl | he
    · exact ⟨spelling, style, s.taken, rfl⟩
    · exact h e he

theorem respond (h : Made s) (r : Request) : Made (respond s r).2 := by
  cases r with
  | name spelling style => exact h.give style spelling
  | base spelling style => exact h
  | take name => exact h

theorem given_eq (h : Made s) (style : Naming.Style) (spelling : String) :
    ∃ taken, (Swift.give style spelling s).1 =
      escapeIdentifier (freeName taken (base style spelling)) := by
  obtain ⟨n, c, taken, heq⟩ := h.give style spelling _ (mem_given_give style spelling s)
  obtain ⟨hkey, hname⟩ := Prod.mk.inj heq
  obtain ⟨rfl, rfl⟩ := keyOf_injective hkey
  exact ⟨taken, hname⟩

end Made

variable {name spelling : String}

theorem isName_numbered_iff (h : name ≠ "") (j : ℕ) :
    GraphQL.isName (name ++ toString j) = true ↔ GraphQL.isName name = true := by
  obtain ⟨c, cs, hname⟩ := List.exists_cons_of_ne_nil (l := name.toList) (by simpa using h)
  have hdigits : ∀ d ∈ (toString j).toList, isNameContinue d = true := by
    intro d hd
    rw [Nat.toString_eq_ofList_toDigits, String.toList_ofList] at hd
    have hdigit := Nat.isDigit_of_mem_toDigits (by decide) (by decide) hd
    rw [isNameContinue, hdigit, Bool.or_true]
  have hnumbered : (name ++ toString j).toList = c :: (cs ++ (toString j).toList) := by
    rw [String.toList_append, hname, List.cons_append]
  rw [isName_of_cons hnumbered, isName_of_cons hname, List.forall_mem_append]
  exact and_congr_right' (and_iff_left hdigits)

theorem isName_freeName_iff (h : name ≠ "") (taken : List String) :
    GraphQL.isName (freeName taken name) = true ↔ GraphQL.isName name = true := by
  by_cases hm : name ∈ taken
  · obtain ⟨j, -, -, he, -, -⟩ := freeName_of_mem hm
    rw [he, isName_numbered_iff h]
  · rw [freeName_of_not_mem hm]

theorem leadsWithDigit_eq (h : '-' ∉ spelling.toList) :
    leadsWithDigit spelling = (spelling.toList.find? isInWord).any Char.isDigit := by
  have hword : ∀ c ∈ spelling.toList, isInWord c = !(c == '_') := by
    intro c hc
    have hhyphen : c ≠ '-' := ne_of_mem_of_not_mem hc h
    by_cases hc : c = '_' <;> simp [isInWord, hhyphen, hc]
  rw [List.find?_congr hword, List.find?_eq_head?_dropWhile_not]
  simp only [Bool.not_not]
  rfl

theorem isDigit_toLower {c : Char} (h : isNameChar c = true) : c.toLower.isDigit = c.isDigit :=
  of_ascii (P := fun c => c.toLower.isDigit = c.isDigit) (by decide) h

theorem toList_base_of_isName (h : GraphQL.isName spelling = true) :
    (base .camel spelling).toList = camel spelling.toList := by
  obtain ⟨c, cs, hcs, hdigit, hcontinues⟩ := exists_cons_of_isName h
  obtain ⟨hname, hhyphen⟩ := hyphenless_of_continues hcontinues
  rw [base, hcs, clean_eq_self hname hhyphen hdigit, convert, String.toList_ofList,
    String.toList_ofList]

theorem isName_base_iff (h : GraphQL.isName spelling = true) :
    GraphQL.isName (base .camel spelling) = true ↔ leadsWithDigit spelling = false := by
  have hbase := toList_base_of_isName h
  obtain ⟨c, cs, hcs, hdigit, hcontinues⟩ := exists_cons_of_isName h
  obtain ⟨hname, hhyphen⟩ := hyphenless_of_continues hcontinues
  have hhead := head?_camel hname
  rw [leadsWithDigit_eq (by rwa [hcs]), hcs]
  rw [hcs] at hbase
  have hcamel : ∀ d ∈ (base .camel spelling).toList, isNameContinue d = true := by
    intro d hd
    rw [hbase] at hd
    exact (isAlphanum_or_mem_of_mem_camel hname hd).elim isNameContinue_of_isAlphanum (hcontinues d)
  rw [← hbase] at hhead
  -- without a word the name stays as it is, and it begins with no digit
  cases hword : (c :: cs).find? isInWord with
  | none =>
    rw [hword] at hhead
    simp [isName_iff_of_continues hhead hcamel, hdigit]
  | some d =>
    rw [hword] at hhead
    rw [isName_iff_of_continues hhead hcamel,
      isDigit_toLower (hname d (List.mem_of_find?_eq_some hword))]
    rfl

theorem escapeIdentifier_cases (h : IsName name.toList) :
    (∃ word, isReserved word = true ∧ escapeIdentifier name = "`" ++ word ++ "`") ∨
      (isReserved (escapeIdentifier name) = false ∧ '`' ∉ (escapeIdentifier name).toList) := by
  by_cases hreserved : isReserved name = true
  · exact .inl ⟨name, hreserved, by rw [escapeIdentifier, if_pos hreserved]⟩
  · rw [escapeIdentifier, if_neg hreserved]
    exact .inr ⟨by simpa using hreserved, fun hmem => ne_backtick_of_isNameChar (h _ hmem) rfl⟩

/-- Whatever a scope was asked for before, the name that it gives for a field is a reserved word in
backticks, or has none and is not reserved. But for the backticks it is an identifier, unless a digit
follows the leading underscores of the field. -/
theorem property_name_legal_iff (rs : List Request) (h : GraphQL.isName spelling = true) :
    ∃ answers scope, Scope.empty.answers naming rs = .ok (answers, scope) ∧
      ∃ name after, scope.name naming .camel spelling = .ok (name, after) ∧
        ((∃ word, isReserved word = true ∧ name = "`" ++ word ++ "`") ∨
          (isReserved name = false ∧ '`' ∉ name.toList)) ∧
        (GraphQL.isName (unquoted name) = true ↔ leadsWithDigit spelling = false) := by
  have hmade : Made (respondAll .empty rs).2 :=
    respondAll_keep (fun _ r hs => hs.respond r) rs Made.empty
  obtain ⟨taken, hgiven⟩ := hmade.given_eq .camel spelling
  have hname := isName_freeName taken (isName_base .camel spelling)
  refine ⟨_, _, answers_naming .empty rs, (give .camel spelling (respondAll .empty rs).2).1, _,
    name_naming _ .camel spelling, ?_, ?_⟩
  · rw [hgiven]
    exact escapeIdentifier_cases hname
  · rw [hgiven, unquoted_escapeIdentifier hname, isName_freeName_iff (base_camel_ne spelling),
      isName_base_iff h]

theorem default_legal :
    GraphQL.isName "default" = true ∧
    ∃ answers scope,
      Scope.empty.answers naming [.take "name", .name "name" .camel] = .ok (answers, scope) ∧
      ∃ name after, scope.name naming .camel "default" = .ok (name, after) ∧
        ((∃ word, isReserved word = true ∧ name = "`" ++ word ++ "`") ∨
          (isReserved name = false ∧ '`' ∉ name.toList)) ∧
        GraphQL.isName (unquoted name) = true := by
  have hname : GraphQL.isName "default" = true := by decide
  obtain ⟨answers, scope, hanswers, name, after, hgiven, hform, hlegal⟩ :=
    property_name_legal_iff [.take "name", .name "name" .camel] hname
  exact ⟨hname, answers, scope, hanswers, name, after, hgiven, hform, hlegal.mpr (by decide)⟩

theorem numbered_field_illegal :
    GraphQL.isName "_1st" = true ∧
    ∃ after, Scope.empty.name naming .camel "_1st" = .ok ("1st", after) ∧
      GraphQL.isName (unquoted "1st") = false :=
  ⟨by decide, _, by rw [name_naming]; rfl, by decide⟩

end RealmModels.Swift
