import Mathlib
import RealmModels.Command.Arguments
import RealmModels.Proofs.Settings.Reading

namespace RealmModels.Command.Options

open Settings

def override? (o : Options) : Setting → Option Json
  | .outputFile => if o.isSet .output then some (.str (o.value .output)) else none
  | .namespaceName => if o.isSet .namespaceName then some (.str (o.value .namespaceName)) else none
  | .passthrough => if o.has .passthrough then some (.bool true) else none
  | .customPrefix => if o.isSet .scalarPrefix then some (.str (o.value .scalarPrefix)) else none
  | .addComments => if o.has .noComments then some (.bool false) else none
  | .initializers => if o.has .initializers then some (.bool true) else none
  | .deprecations => if o.has .deprecations then some (.bool true) else none
  | .indentSize | .useTabs | .custom => none

theorem lastGiven?_member (c : Bool) (setting other : Setting) (v : Json) :
    lastGiven? other.key (if c then [(setting.key, v)] else []) =
      if c ∧ setting = other then some v else none := by
  cases c with
  | false => rfl
  | true =>
    by_cases h : setting = other
    · subst h
      simp [lastGiven?, normalKey_key]
    · have hkey : (setting.key == other.key) = false :=
        beq_eq_false_iff_ne.mpr fun hkey => h (Setting.key_injective hkey)
      simp [lastGiven?, normalKey_key, h, hkey]

theorem lastGiven?_overrides (o : Options) (setting : Setting) :
    lastGiven? setting.key o.overrides = o.override? setting := by
  rw [overrides]
  simp only [lastGiven?_append, lastGiven?_member]
  cases setting <;> simp [override?]

theorem unknownMembers_member (c : Bool) (setting : Setting) (v : Json) :
    unknownMembers (if c then [(setting.key, v)] else []) = [] := by
  cases c with
  | false => rfl
  | true => simp [unknownMembers, normalKey_key, isKnown_key]

theorem plain_overrides (o : Options) : Plain o.overrides := by
  refine ⟨?_, lastGiven?_overrides o .custom⟩
  rw [overrides]
  simp only [unknownMembers_append, unknownMembers_member, List.append_nil]

def settingsFile? (o : Options) : Option Path :=
  if o.isSet .config then some (Path.ofString (o.value .config)) else none

inductive FileMembers (d : Disk) (o : Options) (levels : Option ℕ) : List (String × Json) → Prop
  | none (h : o.isSet .config = false) : FileMembers d o levels []
  | file {members : List (String × Json)} (h : o.isSet .config = true)
      (hholds : Holds d (Path.ofString (o.value .config)) levels members) :
    FileMembers d o levels members

variable {d : Disk} {o : Options} {levels : Option ℕ} {s : Settings}

theorem exists_fileMembers (h : (load d o.settingsFile? o.overrides levels).2 = .ok s) :
    ∃ members, FileMembers d o levels members ∧ merged members o.overrides = .ok s := by
  rw [settingsFile?] at h
  cases hconfig : o.isSet .config with
  | false =>
    rw [hconfig, if_neg Bool.false_ne_true] at h
    simp only [load] at h
    exact ⟨[], .none hconfig, h⟩
  | true =>
    rw [hconfig, if_pos rfl] at h
    cases hmembers : membersOf d (Path.ofString (o.value .config)) levels with
    | error e =>
      rw [load, hmembers] at h
      cases h
    | ok members =>
      have hholds := holds_of_membersOf hmembers
      rw [hholds.load] at h
      exact ⟨members, .file hconfig hholds, h⟩

theorem outputFile_of_load (h : (load d o.settingsFile? o.overrides levels).2 = .ok s) :
    ∃ members, FileMembers d o levels members ∧ s.value .outputFile =
      if o.isSet .output then .str (o.value .output)
      else (lastGiven? "output_file" members).getD .null := by
  obtain ⟨members, hmembers, hmerged⟩ := exists_fileMembers h
  refine ⟨members, hmembers, ?_⟩
  rw [value_of_merged hmerged (by simp), preferred, lastGiven?_overrides, override?]
  cases o.isSet .output <;> rfl

end RealmModels.Command.Options
