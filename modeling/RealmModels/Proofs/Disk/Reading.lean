import Mathlib
import RealmModels.Json.Reader
import RealmModels.Proofs.Disk.Writing

namespace RealmModels.Disk

variable {d : Disk} {p : Path} {text : String}

def Reads (d : Disk) (p : Path) (text : String) : Prop :=
  ∃ c raw, d.content p = .ok c ∧ c.decode? = some raw ∧
    text = String.ofList (Text.unifyLineEnds raw.toList)

def NotText (d : Disk) (p : Path) : Prop := ∃ c, d.content p = .ok c ∧ c.decode? = none

/-- In a JSON file no half of a pair of units stands alone. Texts are made of characters, so that it is
left open what becomes of such a half. -/
def PairsUnits (d : Disk) (p : Path) (levels : Option ℕ) : Prop :=
  ∀ text, d.Reads p text → p.lowerSuffix = ".json" → Json.read text levels ≠ .error (.beyond .halves)

def Closed (d : Disk) (p : Path) (reason : OpenError) : Prop :=
  d.pathExists? p = .ok true ∧ d.content p = .error reason

theorem pathExists?_eq_error_iff {e : OpenError} :
    d.pathExists? p = .error e ↔ e = .nameTooLong ∧ d.locate p = .error .nameTooLong := by
  rw [pathExists?]
  cases hplace : d.locate p with
  | ok place => simp
  | error reason => cases reason <;> simp [eq_comm]

theorem reading_cases (d : Disk) (p : Path) :
    d.locate p = .error .nameTooLong ∨ d.pathExists? p = .ok false ∨ (∃ reason, d.Closed p reason) ∨
      d.NotText p ∨ ∃ text, d.Reads p text := by
  cases hthere : d.pathExists? p with
  | error e => exact .inl (pathExists?_eq_error_iff.mp hthere).2
  | ok isThere =>
    cases isThere with
    | false => exact .inr (.inl rfl)
    | true =>
      cases hcontent : d.content p with
      | error reason => exact .inr (.inr (.inl ⟨reason, hthere, hcontent⟩))
      | ok c =>
        cases hdecode : c.decode? with
        | none => exact .inr (.inr (.inr (.inl ⟨c, hcontent, hdecode⟩)))
        | some raw => exact .inr (.inr (.inr (.inr ⟨_, c, raw, hcontent, hdecode, rfl⟩)))

theorem Reads.pathExists? (h : d.Reads p text) : d.pathExists? p = .ok true := by
  obtain ⟨c, -, hcontent, -⟩ := h
  exact pathExists?_of_content hcontent

theorem NotText.pathExists? (h : d.NotText p) : d.pathExists? p = .ok true := by
  obtain ⟨c, hcontent, -⟩ := h
  exact pathExists?_of_content hcontent

theorem not_tooLong_of_pathExists? {isThere : Bool} (h : d.pathExists? p = .ok isThere) :
    d.locate p ≠ .error .nameTooLong := by
  intro hlong
  rw [pathExists?_eq_error_iff.mpr ⟨rfl, hlong⟩] at h
  cases h

theorem Reads.unique {text' : String} (h : d.Reads p text) (h' : d.Reads p text') : text = text' := by
  obtain ⟨c, raw, hcontent, hdecode, rfl⟩ := h
  obtain ⟨c', raw', hcontent', hdecode', rfl⟩ := h'
  obtain rfl := Except.ok.inj (hcontent.symm.trans hcontent')
  rw [Option.some.inj (hdecode.symm.trans hdecode')]

theorem Reads.not_notText (h : d.Reads p text) : ¬ d.NotText p := by
  obtain ⟨c, raw, hcontent, hdecode, -⟩ := h
  rintro ⟨c', hcontent', hdecode'⟩
  obtain rfl := Except.ok.inj (hcontent.symm.trans hcontent')
  rw [hdecode] at hdecode'
  cases hdecode'

end RealmModels.Disk
