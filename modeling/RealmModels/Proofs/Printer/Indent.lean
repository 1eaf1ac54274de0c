import Mathlib
import RealmModels.Proofs.Printer.Line
import RealmModels.Proofs.Text.OneLine

namespace RealmModels

namespace Indent

theorem exceeds_iff {room : Option ℕ} {places : Int} :
    exceeds room places = true ↔ ∃ most ∈ room, (most : Int) < places := by
  cases room <;> simp [exceeds]

theorem fits_spaces_iff (width : Int) (room : Option ℕ) (level : ℕ) :
    (spaces width room).Fits level ↔ -(countLimit : Int) ≤ level * width ∧
      level * width < countLimit ∧ ∀ most ∈ room, level * width ≤ (most : Int) := by
  simp only [Fits, text, Bool.or_eq_true, decide_eq_true_eq]
  split
  · simp only [Except.isOk, Except.toBool, Bool.false_eq_true, false_iff]
    omega
  · split
    · next hcount hexceeds =>
      obtain ⟨most, hmost, hlt⟩ := exceeds_iff.mp hexceeds
      simp only [Except.isOk, Except.toBool, Bool.false_eq_true, false_iff]
      rintro ⟨-, -, hroom⟩
      exact absurd hlt (not_lt.mpr (hroom most hmost))
    · next hcount hexceeds =>
      have hroom : ∀ most ∈ room, level * width ≤ (most : Int) := fun most hmost =>
        not_lt.mp fun hlt => hexceeds (exceeds_iff.mpr ⟨most, hmost, hlt⟩)
      simp only [Except.isOk, Except.toBool, true_iff]
      exact ⟨by omega, by omega, hroom⟩

theorem fits_zero {i : Indent} (h : i ≠ unusable) : i.Fits 0 := by
  cases i with
  | tab => rfl
  | unusable => exact absurd rfl h
  | spaces width room =>
    rw [fits_spaces_iff, Nat.cast_zero, zero_mul]
    exact ⟨by decide, by decide, fun most _ => Int.natCast_nonneg most⟩

theorem fits_mono {i : Indent} {k level : ℕ} (hk : k ≤ level) (h : i.Fits level) : i.Fits k := by
  cases i with
  | tab => rfl
  | unusable => exact h
  | spaces width room =>
    rw [fits_spaces_iff] at h ⊢
    obtain ⟨hleast, hmost, hroom⟩ := h
    have hlevel : (k : Int) ≤ level := Int.ofNat_le.mpr hk
    have hcount : (0 : Int) < countLimit := by decide
    rcases le_total 0 width with hw | hw
    · have hle : k * width ≤ level * width := mul_le_mul_of_nonneg_right hlevel hw
      have hpos : 0 ≤ k * width := mul_nonneg (Int.natCast_nonneg k) hw
      exact ⟨by omega, by omega, fun most h => hle.trans (hroom most h)⟩
    · have hle : level * width ≤ k * width := mul_le_mul_of_nonpos_right hlevel hw
      have hneg : k * width ≤ 0 := mul_nonpos_of_nonneg_of_nonpos (Int.natCast_nonneg k) hw
      exact ⟨by omega, by omega, fun most _ => hneg.trans (Int.natCast_nonneg most)⟩

def unit : Indent → String
  | tab => "\t"
  | spaces width _ => String.ofList (List.replicate width.toNat ' ')
  | unusable => ""

theorem shown_spaces {width : Int} {room : Option ℕ} {level : ℕ}
    (h : (spaces width room).Fits level) :
    (spaces width room).shown level = String.ofList (List.replicate (level * width).toNat ' ') := by
  obtain ⟨hleast, hmost, hroom⟩ := (fits_spaces_iff width room level).mp h
  have hcounted : ¬ (level * width ≥ countLimit ∨ level * width < -(countLimit : Int)) := by omega
  have hwithin : exceeds room (level * width) = false := by
    rw [Bool.eq_false_iff]
    intro hexceeds
    obtain ⟨most, h, hlt⟩ := exceeds_iff.mp hexceeds
    exact absurd hlt (not_lt.mpr (hroom most h))
  simp [shown, text, hcounted, hwithin, Except.toOption]

theorem shown_zero (i : Indent) : i.shown 0 = "" := by
  cases i with
  | tab => rfl
  | unusable => rfl
  | spaces width room =>
    have hfits : (spaces width room).Fits 0 :=
      (fits_spaces_iff width room 0).mpr (by simp [countLimit])
    simp [shown_spaces hfits]

theorem toNat_succ_mul (level : ℕ) (width : Int) :
    (((level + 1 : ℕ) : Int) * width).toNat = width.toNat + (level * width).toNat := by
  have hsum : ((level + 1 : ℕ) : Int) * width = width + level * width := by
    push_cast
    ring
  rw [hsum]
  rcases le_total 0 width with hw | hw
  · have hpos : 0 ≤ level * width := mul_nonneg (Int.natCast_nonneg level) hw
    omega
  · have hneg : level * width ≤ 0 := mul_nonpos_of_nonneg_of_nonpos (Int.natCast_nonneg level) hw
    omega

theorem shown_succ {i : Indent} {level : ℕ} (h : i.Fits (level + 1)) :
    i.shown (level + 1) = i.unit ++ i.shown level := by
  have hbelow : i.Fits level := fits_mono (Nat.le_succ level) h
  cases i with
  | tab =>
    apply String.toList_injective
    simp [shown, text, unit, Except.toOption, List.replicate_succ]
  | unusable => exact absurd h Bool.false_ne_true
  | spaces width room =>
    rw [shown_spaces h, shown_spaces hbelow, toNat_succ_mul, List.replicate_add, unit]
    apply String.toList_injective
    simp

theorem mem_shown {i : Indent} {level : ℕ} {c : Char} (h : c ∈ (i.shown level).toList) :
    c = '\t' ∨ c = ' ' := by
  by_cases hfits : i.Fits level
  · cases i with
    | tab =>
      simp only [shown, text, Except.toOption, Option.getD_some, String.toList_ofList] at h
      exact Or.inl (List.eq_of_mem_replicate h)
    | unusable => exact absurd hfits Bool.false_ne_true
    | spaces width room =>
      rw [shown_spaces hfits, String.toList_ofList] at h
      exact Or.inr (List.eq_of_mem_replicate h)
  · have hempty : i.shown level = "" := by
      rw [Fits] at hfits
      rw [shown]
      cases htext : i.text level with
      | ok s => simp [htext, Except.isOk, Except.toBool] at hfits
      | error e => rfl
    rw [hempty] at h
    exact absurd h List.not_mem_nil

theorem oneLine_shown (i : Indent) (level : ℕ) : Text.OneLine (i.shown level) := by
  intro h
  exact absurd (mem_shown h) (by decide)

end Indent

namespace Line

variable {i : Indent} {l : Line}

theorem oneLine_render (h : Text.OneLine l.text) (level : ℕ) : Text.OneLine (l.render i level) := by
  rw [render]
  split
  · decide
  · exact (i.oneLine_shown _).append h

theorem text_of_render_empty {level : ℕ} (h : l.render i level = "") : l.text = "" := by
  by_contra htext
  rw [render, if_neg htext] at h
  exact htext (String.append_eq_empty_iff.mp h).2

theorem render_zero (i : Indent) (text : String) : render i 0 ⟨0, text⟩ = text := by
  by_cases h : text = ""
  · simp [render, h]
  · simp [render, h, i.shown_zero]

theorem render_one (h : l.text ≠ "" → i.Fits (l.depth + 1)) :
    l.render i 1 = if l.render i 0 = "" then "" else i.unit ++ l.render i 0 := by
  by_cases htext : l.text = ""
  · simp [render, htext]
  · have hshown := Indent.shown_succ (h htext)
    simp [render, htext, String.append_eq_empty_iff, Nat.add_comm 1, hshown, String.append_assoc]

end Line

end RealmModels
