import Mathlib
import RealmModels.Proofs.Naming.Escape
import RealmModels.Proofs.Naming.FreeName
import RealmModels.Swift.Identifier

namespace RealmModels.Swift

open Naming

def unquoted (name : String) : String := String.ofList (name.toList.filter (· ≠ '`'))

theorem fill_naming (name : String) : fill name naming.escape = .ok ("`" ++ name ++ "`") := by
  simp only [fill, naming, fillAll, fillPiece_namePiece]
  simp [fillPiece, bind, Except.bind, pure, Except.pure, Except.map, String.append_assoc]

theorem escaped_naming (name : String) : naming.escaped name = .ok (escapeIdentifier name) := by
  have hreserved : naming.reserved.contains name = isReserved name := rfl
  simp only [Policy.escaped, hreserved, fill_naming, escapeIdentifier]
  split <;> rfl

theorem ne_backtick_of_isNameChar {c : Char} (h : isNameChar c = true) : c ≠ '`' := by
  rintro rfl
  exact absurd h (by decide)

theorem unquoted_of_isName {name : String} (h : IsName name.toList) : unquoted name = name := by
  have hfilter : name.toList.filter (· ≠ '`') = name.toList :=
    List.filter_eq_self.mpr fun c hc => decide_eq_true (ne_backtick_of_isNameChar (h c hc))
  rw [unquoted, hfilter, String.ofList_toList]

theorem unquoted_escapeIdentifier {name : String} (h : IsName name.toList) :
    unquoted (escapeIdentifier name) = name := by
  have hname := unquoted_of_isName h
  simp only [escapeIdentifier]
  split
  · simpa [unquoted] using hname
  · exact hname

theorem escapeIdentifier_ne {name : String} (h : name ≠ "") : escapeIdentifier name ≠ "" := by
  rw [escapeIdentifier]
  split
  · exact fun hempty => absurd (String.append_eq_empty_iff.mp hempty).2 (by decide)
  · exact h

end RealmModels.Swift
