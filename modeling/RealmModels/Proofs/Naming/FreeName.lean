import Mathlib
import RealmModels.Naming.Scope
import RealmModels.Proofs.Naming.Letters

namespace RealmModels.Naming

theorem eq_of_numbered_eq {name : String} {i j : ℕ}
    (h : name ++ toString i = name ++ toString j) : i = j := by
  have hl := congrArg String.toList h
  simp only [String.toList_append] at hl
  exact Nat.repr_injective (String.toList_injective (List.append_cancel_left hl))

theorem ne_numbered (name : String) (i : ℕ) : name ≠ name ++ toString i := by
  intro h
  have hl := congrArg String.toList h
  simp only [String.toList_append, Nat.toString_eq_ofList_toDigits, String.toList_ofList] at hl
  exact Nat.toDigits_ne_nil (List.self_eq_append_right.mp hl)

theorem isName_numbered {name : String} (h : IsName name.toList) (i : ℕ) :
    IsName (name ++ toString i).toList := by
  rw [String.toList_append]
  refine h.append fun c hc => ?_
  rw [Nat.toString_eq_ofList_toDigits, String.toList_ofList] at hc
  have hd := Nat.isDigit_of_mem_toDigits (by decide) (by decide) hc
  simp [isNameChar, Char.isAlphanum, hd]

theorem numbered_eq (taken : List String) (name : String) (fuel k : ℕ) :
    ∃ j, k ≤ j ∧ j ≤ k + fuel ∧ numbered taken name fuel k = name ++ toString j ∧
      (∀ i, k ≤ i → i < j → name ++ toString i ∈ taken) ∧
      (j < k + fuel → name ++ toString j ∉ taken) := by
  induction fuel generalizing k with
  | zero => exact ⟨k, le_refl k, le_refl k, rfl, fun i _ _ => by omega, fun h => by omega⟩
  | succ fuel ih =>
    by_cases hk : name ++ toString k ∈ taken
    · obtain ⟨j, hkj, hj, he, hbelow, hfree⟩ := ih (k + 1)
      refine ⟨j, by omega, by omega, ?_, ?_, fun h => hfree (by omega)⟩
      · simpa only [numbered, List.contains_iff_mem, hk, ↓reduceIte] using he
      · intro i hki hij
        rcases Nat.eq_or_lt_of_le hki with rfl | hlt
        · exact hk
        · exact hbelow i hlt hij
    · refine ⟨k, le_refl k, by omega, ?_, fun i _ _ => by omega, fun _ => hk⟩
      simp only [numbered, List.contains_iff_mem, hk, ↓reduceIte]

theorem card_lt_of_numbered_taken {taken : List String} {name : String} {n : ℕ}
    (hname : name ∈ taken) (h : ∀ i, 1 ≤ i → i < n + 1 → name ++ toString i ∈ taken) :
    n < taken.toFinset.card := by
  let candidates := name :: (List.range' 1 n).map fun i => name ++ toString i
  have hnodup : candidates.Nodup := by
    refine List.nodup_cons.mpr ⟨?_, List.Nodup.map (fun i j => eq_of_numbered_eq) List.nodup_range'⟩
    intro hmem
    obtain ⟨i, -, hi⟩ := List.mem_map.mp hmem
    exact ne_numbered name i hi.symm
  have hsubset : candidates ⊆ taken := by
    intro c hc
    rcases List.mem_cons.mp hc with rfl | hc
    · exact hname
    · obtain ⟨i, hi, rfl⟩ := List.mem_map.mp hc
      have hi := List.mem_range'_1.mp hi
      exact h i hi.1 (by omega)
  have hcard : candidates.toFinset.card ≤ taken.toFinset.card :=
    Finset.card_le_card fun c hc => List.mem_toFinset.mpr (hsubset (List.mem_toFinset.mp hc))
  rw [List.toFinset_card_of_nodup hnodup] at hcard
  simpa [candidates] using hcard

theorem freeName_of_mem {taken : List String} {name : String} (h : name ∈ taken) :
    ∃ j, 1 ≤ j ∧ j ≤ taken.toFinset.card ∧ freeName taken name = name ++ toString j ∧
      name ++ toString j ∉ taken ∧ ∀ i, 1 ≤ i → i < j → name ++ toString i ∈ taken := by
  obtain ⟨j, h1j, hj, he, hbelow, hfree⟩ := numbered_eq taken name taken.length 1
  -- the name and its numbered forms below `j` are so many different taken names
  have hcard : j - 1 < taken.toFinset.card :=
    card_lt_of_numbered_taken h fun i h1 hi => hbelow i h1 (by omega)
  have hlength := taken.toFinset_card_le
  refine ⟨j, h1j, by omega, ?_, hfree (by omega), hbelow⟩
  simpa only [freeName, List.contains_iff_mem, h, ↓reduceIte] using he

theorem freeName_of_not_mem {taken : List String} {name : String} (h : name ∉ taken) :
    freeName taken name = name := by
  simp only [freeName, List.contains_iff_mem, h, ↓reduceIte]

theorem freeName_not_mem (taken : List String) (name : String) : freeName taken name ∉ taken := by
  by_cases h : name ∈ taken
  · obtain ⟨j, -, -, he, hfree, -⟩ := freeName_of_mem h
    rwa [he]
  · rwa [freeName_of_not_mem h]

theorem isName_freeName (taken : List String) {name : String} (h : IsName name.toList) :
    IsName (freeName taken name).toList := by
  by_cases hm : name ∈ taken
  · obtain ⟨j, -, -, he, -, -⟩ := freeName_of_mem hm
    rw [he]
    exact isName_numbered h j
  · rwa [freeName_of_not_mem hm]

theorem freeName_ne (taken : List String) {name : String} (h : name ≠ "") :
    freeName taken name ≠ "" := by
  by_cases hm : name ∈ taken
  · obtain ⟨j, -, -, he, -, -⟩ := freeName_of_mem hm
    rw [he]
    exact fun hempty => h (String.append_eq_empty_iff.mp hempty).1
  · rwa [freeName_of_not_mem hm]

end RealmModels.Naming
