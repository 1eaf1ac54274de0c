import Mathlib
import RealmModels.Proofs.Disk.Reading
import RealmModels.Proofs.Settings.Precedence

namespace RealmModels.Settings

variable {d : Disk} {p : Path} {levels : Option ℕ} {members overrides : List (String × Json)}

inductive Unreadable (d : Disk) (p : Path) (levels : Option ℕ) : Prop
  | nameTooLong (h : d.locate p = .error .nameTooLong)
  | notText (hsuffix : p.lowerSuffix = ".json") (h : d.NotText p)
  | beyond (text : String) (limit : Json.Limit) (hsuffix : p.lowerSuffix = ".json")
      (h : d.Reads p text) (hread : Json.read text levels = .error (.beyond limit))
      (hlimit : limit ≠ .halves)
  | notPairs (members : List (String × Json)) (v : Json) (e : NotPairs) (h : Holds d p levels members)
      (hunknown : unknownMembers members ≠ []) (hcustom : lastGiven? "custom" members = some v)
      (hset : v.truthy = true) (htable : v.table = .error e)

def IsWordless {α : Type} : Except SettingsError α → Prop
  | .ok _ => False
  | .error e => e.isReported = false

structure Plain (overrides : List (String × Json)) : Prop where
  known : unknownMembers overrides = []
  notCustom : lastGiven? "custom" overrides = none

theorem readText_eq_ok_iff {text : String} : readText d p = .ok text ↔ d.Reads p text := by
  rw [readText, Disk.Reads]
  cases d.content p with
  | error reason => simp
  | ok c => cases hdecode : c.decode? <;> simp [hdecode, eq_comm]

theorem isWordless_merged (file overrides : List (String × Json)) :
    IsWordless (merged file overrides) ↔ ∃ e, merge file overrides = .error e := by
  rw [merged]
  cases merge file overrides with
  | ok s => simp [IsWordless]
  | error e => simp [IsWordless, SettingsError.isReported]

theorem baseTable_eq_error_iff {v : Json} {e : NotPairs} :
    baseTable v = .error e ↔ v.truthy = true ∧ v.table = .error e := by
  rw [baseTable]
  split
  · next h => simp [h]
  · next h => simp [h]

theorem isWordless_merged_iff (h : Plain overrides) :
    IsWordless (merged members overrides) ↔ unknownMembers members ≠ [] ∧
      ∃ v e, lastGiven? "custom" members = some v ∧ v.truthy = true ∧ v.table = .error e := by
  -- the overrides do not give the last setting, so that the file decides on it
  have hcustom : preferred members overrides .custom =
      (lastGiven? "custom" members).getD (.obj []) := by
    change ((lastGiven? "custom" overrides).or _).getD _ = _
    rw [h.notCustom]
    rfl
  rw [isWordless_merged, merge_eq_assemble, h.known, List.append_nil, assemble, hcustom]
  by_cases hunknown : unknownMembers members = []
  · rw [hunknown]
    refine iff_of_false ?_ fun h => h.1 rfl
    rintro ⟨e, h⟩
    cases h
  · rw [if_neg (mt List.isEmpty_iff.mp (putAll_ne_nil hunknown))]
    have hmap (x : Except NotPairs Json.Table) (f : Json.Table → Settings) :
        (∃ e, x.map f = .error e) ↔ ∃ e, x = .error e := by
      cases x <;> simp [Except.map]
    rw [hmap]
    simp only [baseTable_eq_error_iff]
    cases lastGiven? "custom" members with
    | none =>
      refine iff_of_false ?_ ?_
      · rintro ⟨e, h, -⟩
        cases h
      · rintro ⟨-, v, e, h, -⟩
        cases h
    | some v => simp [hunknown]

theorem membersOf_of_tooLong (h : d.locate p = .error .nameTooLong) :
    membersOf d p levels = .error (.unusablePath .nameTooLong) := by
  rw [membersOf, Disk.pathExists?_eq_error_iff.mpr ⟨rfl, h⟩]
  rfl

theorem membersOf_of_missing (h : d.pathExists? p = .ok false) :
    membersOf d p levels = .error (.missing p) := by
  rw [membersOf, h]
  rfl

theorem membersOf_of_suffix (h : d.pathExists? p = .ok true) (hsuffix : p.lowerSuffix ≠ ".json") :
    membersOf d p levels = .error (.notJsonFile p) := by
  rw [membersOf, h]
  dsimp only
  rw [bne_iff_ne.mpr hsuffix]
  rfl

def membersOfText (p : Path) (levels : Option ℕ) (text : String) : Except SettingsError (List (String × Json)) :=
  match Json.read text levels with
  | .error (.beyond limit) => .error (.beyond limit)
  | .error r => .error (.notJson p (r.message text))
  | .ok (.obj members) => .ok members
  | .ok _ => .error (.notObject p)

theorem membersOfText_wordless_iff {text : String} :
    (∃ e, membersOfText p levels text = .error e ∧ e.isReported = false) ↔
      ∃ limit, Json.read text levels = .error (.beyond limit) := by
  rw [membersOfText]
  cases Json.read text levels with
  | ok v => cases v <;> simp [SettingsError.isReported]
  | error r => cases r <;> simp [SettingsError.isReported]

theorem membersOfText_eq_ok_iff {text : String} :
    membersOfText p levels text = .ok members ↔ Json.read text levels = .ok (.obj members) := by
  rw [membersOfText]
  cases Json.read text levels with
  | ok v => cases v <;> simp
  | error r => cases r <;> simp

theorem membersOf_of_json (h : d.pathExists? p = .ok true) (hsuffix : p.lowerSuffix = ".json") :
    membersOf d p levels = readText d p >>= membersOfText p levels := by
  rw [membersOf, h]
  dsimp only
  rw [show (p.lowerSuffix != ".json") = false from bne_eq_false_iff_eq.mpr hsuffix]
  rfl

theorem membersOf_wordless_iff_of_json (h : d.pathExists? p = .ok true)
    (hsuffix : p.lowerSuffix = ".json") : (∃ e, membersOf d p levels = .error e ∧ e.isReported = false) ↔
      d.NotText p ∨ ∃ text limit, d.Reads p text ∧ Json.read text levels = .error (.beyond limit) := by
  rw [membersOf_of_json h hsuffix]
  rcases Disk.reading_cases d p with hlong | hmissing | ⟨reason, hclosed⟩ | hnot | ⟨text, hreads⟩
  · exact absurd hlong (Disk.not_tooLong_of_pathExists? h)
  · rw [h] at hmissing
    cases hmissing
  · have htext : readText d p = .error (.unreadable p reason) := by rw [readText, hclosed.2]
    rw [htext]
    refine iff_of_false ?_ ?_
    · rintro ⟨e, he, hwords⟩
      obtain rfl := Except.error.inj he
      cases hwords
    · rintro (⟨c, hcontent, -⟩ | ⟨_, _, ⟨c, -, hcontent, -⟩, -⟩)
      all_goals
        rw [hclosed.2] at hcontent
        cases hcontent
  · have htext : readText d p = .error (.notText p) := by
      obtain ⟨c, hcontent, hdecode⟩ := hnot
      simp only [readText, hcontent, hdecode]
    rw [htext]
    exact iff_of_true ⟨_, rfl, rfl⟩ (.inl hnot)
  · have hlimit : (∃ text limit, d.Reads p text ∧ Json.read text levels = .error (.beyond limit)) ↔
        ∃ limit, Json.read text levels = .error (.beyond limit) := by
      constructor
      · rintro ⟨text', limit, h', hread⟩
        exact ⟨limit, hreads.unique h' ▸ hread⟩
      · rintro ⟨limit, hread⟩
        exact ⟨text, limit, hreads, hread⟩
    rw [readText_eq_ok_iff.mpr hreads, hlimit, or_iff_right hreads.not_notText]
    exact membersOfText_wordless_iff

theorem membersOf_wordless_iff : (∃ e, membersOf d p levels = .error e ∧ e.isReported = false) ↔
    d.locate p = .error .nameTooLong ∨ p.lowerSuffix = ".json" ∧
      (d.NotText p ∨ ∃ text limit, d.Reads p text ∧ Json.read text levels = .error (.beyond limit)) := by
  cases hthere : d.pathExists? p with
  | error e =>
    have hlong := (Disk.pathExists?_eq_error_iff.mp hthere).2
    exact iff_of_true ⟨_, membersOf_of_tooLong hlong, rfl⟩ (.inl hlong)
  | ok isThere =>
    rw [or_iff_right (Disk.not_tooLong_of_pathExists? hthere)]
    cases isThere with
    | false =>
      rw [membersOf_of_missing hthere]
      refine iff_of_false ?_ ?_
      · rintro ⟨e, he, hwords⟩
        obtain rfl := Except.error.inj he
        cases hwords
      · rintro ⟨-, h | ⟨_, _, h, -⟩⟩
        all_goals
          rw [h.pathExists?] at hthere
          cases hthere
    | true =>
      by_cases hsuffix : p.lowerSuffix = ".json"
      · simpa only [hsuffix, true_and] using membersOf_wordless_iff_of_json hthere hsuffix
      · rw [membersOf_of_suffix hthere hsuffix]
        refine iff_of_false ?_ fun h => hsuffix h.1
        rintro ⟨e, he, hwords⟩
        obtain rfl := Except.error.inj he
        cases hwords

theorem holds_of_membersOf (h : membersOf d p levels = .ok members) : Holds d p levels members := by
  cases hthere : d.pathExists? p with
  | error e =>
    rw [membersOf_of_tooLong (Disk.pathExists?_eq_error_iff.mp hthere).2] at h
    cases h
  | ok isThere =>
    cases isThere with
    | false =>
      rw [membersOf_of_missing hthere] at h
      cases h
    | true =>
      by_cases hsuffix : p.lowerSuffix = ".json"
      · rw [membersOf_of_json hthere hsuffix] at h
        cases htext : readText d p with
        | error e =>
          rw [htext] at h
          cases h
        | ok text =>
          rw [htext] at h
          exact ⟨hsuffix, text, htext, membersOfText_eq_ok_iff.mp h⟩
      · rw [membersOf_of_suffix hthere hsuffix] at h
        cases h

theorem isWordless_load_iff (h : Plain overrides) (hunits : d.PairsUnits p levels) :
    IsWordless (load d (some p) overrides levels).2 ↔ Unreadable d p levels := by
  cases hmembers : membersOf d p levels with
  | ok members =>
    have hholds := holds_of_membersOf hmembers
    have hreadable : ¬ ∃ e, membersOf d p levels = .error e ∧ e.isReported = false := by
      rw [hmembers]
      rintro ⟨e, he, -⟩
      cases he
    rw [membersOf_wordless_iff] at hreadable
    rw [hholds.load, isWordless_merged_iff h]
    constructor
    · rintro ⟨hunknown, v, e, hcustom, hset, htable⟩
      exact .notPairs members v e hholds hunknown hcustom hset htable
    · rintro (hlong | ⟨hsuffix, hnot⟩ | ⟨text, limit, hsuffix, hreads, hread, -⟩ |
        ⟨members', v, e, hholds', hunknown, hcustom, hset, htable⟩)
      · exact absurd (.inl hlong) hreadable
      · exact absurd (.inr ⟨hsuffix, .inl hnot⟩) hreadable
      · exact absurd (.inr ⟨hsuffix, .inr ⟨text, limit, hreads, hread⟩⟩) hreadable
      · obtain rfl := Except.ok.inj (hmembers.symm.trans hholds'.membersOf)
        exact ⟨hunknown, v, e, hcustom, hset, htable⟩
  | error e =>
    have hload : IsWordless (load d (some p) overrides levels).2 ↔
        ∃ e, membersOf d p levels = .error e ∧ e.isReported = false := by
      rw [load, hmembers]
      simp [IsWordless]
    rw [hload, membersOf_wordless_iff]
    constructor
    · rintro (hlong | ⟨hsuffix, hnot | ⟨text, limit, hreads, hread⟩⟩)
      · exact .nameTooLong hlong
      · exact .notText hsuffix hnot
      · exact .beyond text limit hsuffix hreads hread fun h => hunits text hreads hsuffix (h ▸ hread)
    · rintro (hlong | ⟨hsuffix, hnot⟩ | ⟨text, limit, hsuffix, hreads, hread, -⟩ |
        ⟨members', v, e', hholds'⟩)
      · exact .inl hlong
      · exact .inr ⟨hsuffix, .inl hnot⟩
      · exact .inr ⟨hsuffix, .inr ⟨text, limit, hreads, hread⟩⟩
      · rw [hholds'.membersOf] at hmembers
        cases hmembers

theorem value_of_merged {s : Settings} {setting : Setting} (h : merged members overrides = .ok s)
    (hsetting : setting ≠ .custom) : s.value setting = preferred members overrides setting := by
  rw [merged, merge_eq_assemble, assemble] at h
  split at h
  · next hmerge =>
    split at hmerge
    · obtain rfl := (Except.ok.inj hmerge).trans (Except.ok.inj h)
      rfl
    · cases hbase : baseTable (preferred members overrides .custom) with
      | error e =>
        rw [hbase] at hmerge
        cases hmerge
      | ok base =>
        rw [hbase] at hmerge
        obtain rfl := (Except.ok.inj hmerge).trans (Except.ok.inj h)
        exact if_neg hsetting
  · cases h

end RealmModels.Settings
