import Mathlib
import RealmModels.Json.Writer
import RealmModels.Proofs.Json.Equality
import RealmModels.Proofs.Text.OneLine

namespace RealmModels

namespace Text

namespace Lacks

variable {c : Char} {s : String}

theorem take (h : Lacks c s) (n : ℕ) : Lacks c (s.take n).toString := by
  have htake : (s.take n).toString.toList = s.toList.take n := by simp
  rw [Lacks, htake]
  exact fun hmem => h (List.mem_of_mem_take hmem)

theorem drop (h : Lacks c s) (n : ℕ) : Lacks c (s.drop n).toString := by
  have hdrop : (s.drop n).toString.toList = s.toList.drop n := by simp
  rw [Lacks, hdrop]
  exact fun hmem => h (List.mem_of_mem_drop hmem)

theorem replicate {c' : Char} (h : c ≠ c') (n : ℕ) : Lacks c (String.ofList (List.replicate n c')) := by
  rw [Lacks, String.toList_ofList]
  exact fun hmem => h (List.eq_of_mem_replicate hmem)

theorem natCast (h : c.isDigit = false) (n : ℕ) : Lacks c (toString n) := by
  rw [Lacks, Nat.toString_eq_ofList_toDigits, String.toList_ofList]
  intro hmem
  have hdigit := Nat.isDigit_of_mem_toDigits (by decide) (by decide) hmem
  exact absurd hdigit (by rw [h]; exact Bool.false_ne_true)

theorem intCast (h : c.isDigit = false) (hminus : c ≠ '-') (n : ℤ) : Lacks c (toString n) := by
  cases n with
  | ofNat n => exact natCast h n
  | negSucc n =>
    have hsign : Lacks c "-" := by simpa [Lacks] using hminus
    exact hsign.append (natCast h (n + 1))

end Lacks

end Text

namespace Json

open Text

theorem lacks_positional {digits : String} (h : Lacks '\r' digits) (point : ℤ) :
    Lacks '\r' (Decimal.positional digits point) := by
  have hzeros (n : ℕ) : Lacks '\r' (Decimal.zeros n) := .replicate (by decide) n
  rw [Decimal.positional]
  split
  · exact (Lacks.append (by decide) (hzeros _)).append h
  · split
    · exact (h.append (hzeros _)).append (by decide)
    · exact ((h.take _).append (by decide)).append (h.drop _)

theorem lacks_scientific {digits : String} (h : Lacks '\r' digits) (exponent : ℤ) :
    Lacks '\r' (Decimal.scientific digits exponent) := by
  have hsize : Lacks '\r' (toString exponent.natAbs) := .natCast (by decide) _
  rw [Decimal.scientific]
  refine Lacks.append (Lacks.append (Lacks.append (h.take _) ?_) ?_) ?_
  · split
    · decide
    · exact Lacks.append (by decide) (h.drop _)
  · split <;> decide
  · split
    · exact Lacks.append (by decide) hsize
    · exact hsize

theorem lacks_render (x : Float) : Lacks '\r' (Decimal.render writtenReal x) := by
  have hsign : Lacks '\r' (if x.toBits.toNat < Decimal.twoTo 63 then "" else "-") := by
    split <;> decide
  rw [Decimal.render]
  generalize (if x.toBits.toNat < Decimal.twoTo 63 then "" else "-") = sign at hsign
  generalize Decimal.shortest x = found
  obtain ⟨d, k⟩ := found
  have hdigits : Lacks '\r' (toString d) := .natCast (by decide) d
  dsimp only
  split
  · decide
  · split
    · exact hsign.append (by decide)
    · split
      · exact hsign.append (by decide)
      · refine hsign.append ?_
        split
        · exact lacks_positional hdigits _
        · exact lacks_scientific hdigits _

theorem lacks_writeText (s : String) : Lacks '\r' (writeText s) := by
  have hcontrol : ∀ n < 0x20, '\r' ∉ Text.hexDigits 4 n := by decide
  have hchar (c : Char) : '\r' ∉ escapedChar c := by
    rw [escapedChar]
    split_ifs with _ _ _ hreturn _ _ _ hcode
    any_goals decide
    · simpa using hcontrol _ hcode
    · simpa using Ne.symm hreturn
  simp only [Lacks, writeText, String.toList_ofList, List.mem_append, List.mem_cons,
    List.mem_flatMap, not_or]
  refine ⟨⟨by decide, ?_⟩, by decide⟩
  rintro ⟨c, -, hc⟩
  exact hchar c hc

theorem lacks_writeScalar (v : Json) : Lacks '\r' v.writeScalar := by
  cases v with
  | null => decide
  | arr items => exact (by decide : Lacks '\r' "[]")
  | obj members => exact (by decide : Lacks '\r' "\x7b\x7d")
  | bool b => cases b <;> decide
  | int n => exact .intCast (by decide) (by decide) n
  | real x => exact lacks_render x
  | str s => exact lacks_writeText s

theorem lacks_bracketed {opening closing : String} (hopening : Lacks '\r' opening)
    (hclosing : Lacks '\r' closing) (depth : ℕ) {parts : List String}
    (hparts : ∀ t ∈ parts, Lacks '\r' t) : Lacks '\r' (bracketed opening closing depth parts) := by
  have hnewline (d : ℕ) : Lacks '\r' ("\n" ++ String.ofList (List.replicate (2 * d) ' ')) :=
    Lacks.append (by decide) (.replicate (by decide) _)
  rw [bracketed]
  dsimp only
  split
  · exact hopening.append hclosing
  · have hcomma : Lacks '\r' "," := by decide
    have hjoined := Lacks.joinWith (hcomma.append (hnewline (depth + 1))) hparts
    exact (((hopening.append (hnewline _)).append hjoined).append (hnewline _)).append hclosing

theorem lacks_indented (v : Json) (depth : ℕ) : Lacks '\r' (indented depth v) := by
  induction v using nested_induction generalizing depth with
  | plain v hplain =>
    have hscalar : indented depth v = v.writeScalar := by
      cases v with
      | arr items | obj members => cases hplain
      | null | bool b | int n | real x | str s => rfl
    rw [hscalar]
    exact lacks_writeScalar v
  | arr items ih =>
    rw [indented]
    refine lacks_bracketed (by decide) (by decide) depth ?_
    induction items with
    | nil => simp [indentedItems]
    | cons v vs ihvs =>
      obtain ⟨hv, hvs⟩ := List.forall_mem_cons.mp ih
      rw [indentedItems]
      exact List.forall_mem_cons.mpr ⟨hv _, ihvs hvs⟩
  | obj members ih =>
    rw [indented]
    refine lacks_bracketed (by decide) (by decide) depth ?_
    induction members with
    | nil => simp [indentedMembers]
    | cons e rest ihrest =>
      obtain ⟨he, hrest⟩ := List.forall_mem_cons.mp ih
      rw [indentedMembers]
      exact List.forall_mem_cons.mpr
        ⟨((lacks_writeText _).append (by decide)).append (he _), ihrest hrest⟩

end Json

end RealmModels
