import Mathlib
import RealmModels.Naming.Words
import RealmModels.Proofs.Text.Ends
import RealmModels.Proofs.Text.OneLine

namespace RealmModels.Naming

open Text

theorem toList_convert_snake (s : String) : (convert .snake s).toList = snake s.toList :=
  String.toList_ofList

theorem toList_convert_camel (s : String) : (convert .camel s).toList = camel s.toList :=
  String.toList_ofList

theorem toList_convert_pascal (s : String) : (convert .pascal s).toList = pascal s.toList :=
  String.toList_ofList

def IsName (cs : List Char) : Prop := ∀ c ∈ cs, isNameChar c = true

def IsAscii (cs : List Char) : Prop := ∀ c ∈ cs, isAscii c = true

instance (cs : List Char) : Decidable (IsAscii cs) := List.decidableBAll _ cs

theorem isNameChar_cases {c : Char} (h : isNameChar c = true) :
    (65 ≤ c.toNat ∧ c.toNat ≤ 90) ∨ (97 ≤ c.toNat ∧ c.toNat ≤ 122) ∨
      (48 ≤ c.toNat ∧ c.toNat ≤ 57) ∨ c = '_' ∨ c = '-' := by
  simp only [isNameChar, Char.isAlphanum, Char.isAlpha, Char.isUpper, Char.isLower, Char.isDigit,
    Bool.or_eq_true, Bool.and_eq_true, decide_eq_true_eq, UInt32.le_iff_toNat_le, ge_iff_le] at h
  change ((((65 ≤ c.toNat ∧ c.toNat ≤ 90) ∨ (97 ≤ c.toNat ∧ c.toNat ≤ 122)) ∨
    (48 ≤ c.toNat ∧ c.toNat ≤ 57)) ∨ c = '_') ∨ c = '-' at h
  tauto

theorem isAscii_of_isNameChar {c : Char} (h : isNameChar c = true) : isAscii c = true := by
  simp only [isAscii, decide_eq_true_eq]
  rcases isNameChar_cases h with h | h | h | rfl | rfl
  · omega
  · omega
  · omega
  · decide
  · decide

theorem IsName.isAscii {cs : List Char} (h : IsName cs) : IsAscii cs :=
  fun c hc => isAscii_of_isNameChar (h c hc)

theorem of_isAscii {P : Char → Prop} (h : ∀ n < 128, P (Char.ofNat n)) {c : Char}
    (hc : isAscii c = true) : P c := by
  have hlt : c.toNat < 128 := of_decide_eq_true hc
  simpa only [Char.ofNat_toNat] using h c.toNat hlt

theorem of_ascii {P : Char → Prop} (h : ∀ n < 128, isNameChar (Char.ofNat n) = true → P (Char.ofNat n))
    {c : Char} (hc : isNameChar c = true) : P c :=
  of_isAscii (P := fun c => isNameChar c = true → P c) h (isAscii_of_isNameChar hc) hc

theorem isNameChar_toLower {c : Char} (h : isNameChar c = true) : isNameChar c.toLower = true :=
  of_ascii (P := fun c => isNameChar c.toLower = true) (by decide) h

theorem isNameChar_toUpper {c : Char} (h : isNameChar c = true) : isNameChar c.toUpper = true :=
  of_ascii (P := fun c => isNameChar c.toUpper = true) (by decide) h

theorem isAscii_toLower {c : Char} (h : isAscii c = true) : isAscii c.toLower = true :=
  of_isAscii (P := fun c => isAscii c.toLower = true) (by decide) h

theorem isAscii_toUpper {c : Char} (h : isAscii c = true) : isAscii c.toUpper = true :=
  of_isAscii (P := fun c => isAscii c.toUpper = true) (by decide) h

theorem ne_sigma_of_isAscii {c : Char} (h : isAscii c = true) : c ≠ 'Σ' := by
  rintro rfl
  exact absurd h (by decide)

theorem IsName.of_subset {cs ds : List Char} (h : IsName cs) (hs : ∀ c ∈ ds, c ∈ cs) : IsName ds :=
  fun c hc => h c (hs c hc)

theorem IsName.append {cs ds : List Char} (hc : IsName cs) (hd : IsName ds) : IsName (cs ++ ds) :=
  fun c h => (List.mem_append.mp h).elim (hc c) (hd c)

theorem IsName.flatMap {α : Type} {as : List α} {f : α → List Char} (h : ∀ a ∈ as, IsName (f a)) :
    IsName (as.flatMap f) := by
  intro c hc
  obtain ⟨a, ha, hca⟩ := List.mem_flatMap.mp hc
  exact h a ha c hca

theorem lowerFrom_of_isAscii {cs : List Char} (h : IsAscii cs) (inWord : Bool) :
    lowerFrom inWord cs = cs.map Char.toLower := by
  induction cs generalizing inWord with
  | nil => rfl
  | cons c cs ih =>
    obtain ⟨hc, hcs⟩ := List.forall_mem_cons.mp h
    rw [lowerFrom, ih hcs, lowerWithin, lowerChar]
    simp [ne_sigma_of_isAscii hc, hc]

theorem lower_of_isAscii {cs : List Char} (h : IsAscii cs) : lower cs = cs.map Char.toLower :=
  lowerFrom_of_isAscii h false

theorem capitalize_of_isAscii {c : Char} {cs : List Char} (h : IsAscii (c :: cs)) :
    capitalize (c :: cs) = c.toUpper :: cs.map Char.toLower := by
  obtain ⟨hc, hcs⟩ := List.forall_mem_cons.mp h
  rw [capitalize, titleChar, if_pos hc, lowerFrom_of_isAscii hcs]
  rfl

theorem forall_mem_capitalize {p : Char → Bool} {cs : List Char} (hcs : IsAscii cs)
    (h : ∀ c ∈ cs, p c = true) (hupper : ∀ c, p c = true → p c.toUpper = true)
    (hlower : ∀ c, p c = true → p c.toLower = true) : ∀ c ∈ capitalize cs, p c = true := by
  cases cs with
  | nil => exact h
  | cons c cs =>
    obtain ⟨hc, hrest⟩ := List.forall_mem_cons.mp h
    rw [capitalize_of_isAscii hcs]
    exact List.forall_mem_cons.mpr
      ⟨hupper c hc, List.forall_mem_map.mpr fun d hd => hlower d (hrest d hd)⟩

theorem IsName.capitalize {cs : List Char} (h : IsName cs) : IsName (capitalize cs) :=
  forall_mem_capitalize h.isAscii h (fun _ => isNameChar_toUpper) fun _ => isNameChar_toLower

theorem IsAscii.capitalize {cs : List Char} (h : IsAscii cs) : IsAscii (capitalize cs) :=
  forall_mem_capitalize h h (fun _ => isAscii_toUpper) fun _ => isAscii_toLower

theorem mem_splitAcronyms {cs : List Char} {c : Char} (h : c ∈ splitAcronyms cs) :
    c = '_' ∨ c ∈ cs := by
  fun_induction splitAcronyms cs <;> grind

theorem mem_splitHumps {cs : List Char} {c : Char} (h : c ∈ splitHumps cs) : c = '_' ∨ c ∈ cs := by
  fun_induction splitHumps cs <;> grind

theorem mem_of_mem_squeeze {cs : List Char} {c : Char} (h : c ∈ squeeze cs) : c ∈ cs := by
  fun_induction squeeze cs <;> grind

def cut (cs : List Char) : List Char :=
  splitHumps (splitAcronyms (cs.map fun c => if c = '-' then '_' else c))

theorem snake_eq (cs : List Char) : snake cs = stripEnds (· == '_') (squeeze (lower (cut cs))) := rfl

theorem mem_cut {cs : List Char} {c : Char} (h : c ∈ cut cs) : c = '_' ∨ (c ∈ cs ∧ c ≠ '-') := by
  rcases mem_splitHumps h with rfl | h
  · exact .inl rfl
  · rcases mem_splitAcronyms h with rfl | h
    · exact .inl rfl
    · obtain ⟨d, hd, rfl⟩ := List.mem_map.mp h
      split
      · exact .inl rfl
      · next hne => exact .inr ⟨hd, hne⟩

theorem forall_mem_cut {p : Char → Bool} (hp : p '_' = true) {cs : List Char}
    (h : ∀ c ∈ cs, p c = true) : ∀ c ∈ cut cs, p c = true := by
  intro c hc
  rcases mem_cut hc with rfl | ⟨hc, -⟩
  · exact hp
  · exact h c hc

theorem IsName.cut {cs : List Char} (h : IsName cs) : IsName (cut cs) := forall_mem_cut (by decide) h

theorem IsAscii.cut {cs : List Char} (h : IsAscii cs) : IsAscii (cut cs) :=
  forall_mem_cut (by decide) h

theorem mem_snake {cs : List Char} (h : IsAscii cs) {c : Char} (hc : c ∈ snake cs) :
    ∃ d ∈ cut cs, c = d.toLower := by
  have hlower : c ∈ lower (Naming.cut cs) := mem_of_mem_squeeze (mem_of_mem_stripEnds hc)
  rw [lower_of_isAscii h.cut] at hlower
  obtain ⟨d, hd, hcd⟩ := List.mem_map.mp hlower
  exact ⟨d, hd, hcd.symm⟩

theorem IsName.snake {cs : List Char} (h : IsName cs) : IsName (snake cs) := by
  intro c hc
  obtain ⟨d, hd, rfl⟩ := mem_snake h.isAscii hc
  exact isNameChar_toLower (h.cut d hd)

theorem IsName.of_mem_words {cs w : List Char} (h : IsName cs) (hw : w ∈ words cs) : IsName w :=
  h.snake.of_subset (mem_of_mem_cutAt (List.mem_filter.mp hw).1)

theorem IsName.camel {cs : List Char} (h : IsName cs) : IsName (camel cs) := by
  simp only [Naming.camel]
  split
  · exact h
  · rename_i w ws hws
    have hmem : ∀ v ∈ w :: ws, IsName v := fun v hv => h.of_mem_words (hws ▸ hv)
    exact (hmem w List.mem_cons_self).append
      (.flatMap fun v hv => (hmem v (List.mem_cons_of_mem _ hv)).capitalize)

theorem IsName.pascal {cs : List Char} (h : IsName cs) : IsName (pascal cs) :=
  .flatMap fun _ hw => (h.of_mem_words hw).capitalize

theorem isName_clean (cs : List Char) : IsName (clean cs) := by
  have hmap : IsName (cs.map fun c => if isNameChar c then c else '_') := by
    intro c hc
    obtain ⟨d, -, rfl⟩ := List.mem_map.mp hc
    split
    · assumption
    · decide
  have hstrip := hmap.of_subset fun c => mem_of_mem_stripEnds (p := (· == '-')) (a := c)
  simp only [clean]
  split
  · simp [IsName, fallback, isNameChar]
  · rename_i c cs hcs
    rw [hcs] at hstrip
    split
    · exact List.forall_mem_cons.mpr ⟨by decide, hstrip⟩
    · exact hstrip

theorem isName_base (style : Style) (spelling : String) : IsName (base style spelling).toList := by
  have h := isName_clean spelling.toList
  cases style with
  | snake => simpa only [base, convert, String.toList_ofList] using h.snake
  | camel => simpa only [base, convert, String.toList_ofList] using h.camel
  | pascal => simpa only [base, convert, String.toList_ofList] using h.pascal
  | verbatim => simpa only [base, convert, String.toList_ofList] using h

theorem clean_ne_nil (cs : List Char) : clean cs ≠ [] := by
  rw [clean]
  split
  · exact List.cons_ne_nil _ _
  · split
    · exact List.cons_ne_nil _ _
    · exact List.cons_ne_nil _ _

theorem camel_ne_nil {cs : List Char} (h : cs ≠ []) : camel cs ≠ [] := by
  rw [Naming.camel]
  split
  · exact h
  · next w ws hwords =>
    have hmem : w ∈ words cs := hwords ▸ List.mem_cons_self
    have hw : w ≠ [] := by simpa using (List.mem_filter.mp hmem).2
    exact List.append_ne_nil_of_left_ne_nil hw _

theorem base_camel_ne (spelling : String) : base .camel spelling ≠ "" := by
  have hcamel := camel_ne_nil (clean_ne_nil spelling.toList)
  intro h
  apply hcamel
  simpa [base, convert] using congrArg String.toList h

end RealmModels.Naming
