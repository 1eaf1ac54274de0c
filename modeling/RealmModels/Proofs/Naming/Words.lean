import Mathlib
import RealmModels.Proofs.Naming.Letters

namespace RealmModels.Naming

open Text

variable {cs ds : List Char} {c : Char}

def isInWord (c : Char) : Bool := c ≠ '_' && c ≠ '-'

theorem filter_splitAcronyms (cs : List Char) :
    (splitAcronyms cs).filter (· ≠ '_') = cs.filter (· ≠ '_') := by
  fun_induction splitAcronyms cs with
  | case1 a b c rest hcut ih => simp_all [List.filter_cons]
  | case2 a b c rest hcut ih => simp_all [List.filter_cons]
  | case3 cs hshort => rfl

theorem filter_splitHumps (cs : List Char) :
    (splitHumps cs).filter (· ≠ '_') = cs.filter (· ≠ '_') := by
  fun_induction splitHumps cs with
  | case1 a b rest hcut ih => simp_all [List.filter_cons]
  | case2 a b rest hcut ih => simp_all [List.filter_cons]
  | case3 cs hshort => rfl

theorem filter_squeeze (cs : List Char) : (squeeze cs).filter (· ≠ '_') = cs.filter (· ≠ '_') := by
  fun_induction squeeze cs with
  | case1 a b rest hrun ih => simp_all
  | case2 a b rest hrun ih => simp_all [List.filter_cons]
  | case3 cs hshort => rfl

theorem toLower_eq_underscore_iff (h : isAscii c = true) : c.toLower = '_' ↔ c = '_' :=
  of_isAscii (P := fun c => c.toLower = '_' ↔ c = '_') (by decide) h

theorem toLower_eq_hyphen_iff (h : isAscii c = true) : c.toLower = '-' ↔ c = '-' :=
  of_isAscii (P := fun c => c.toLower = '-' ↔ c = '-') (by decide) h

theorem isInWord_toLower (h : isAscii c = true) : isInWord c.toLower = isInWord c := by
  simp [isInWord, toLower_eq_underscore_iff h, toLower_eq_hyphen_iff h]

theorem filter_cut (cs : List Char) : (cut cs).filter (· ≠ '_') = cs.filter isInWord := by
  rw [cut, filter_splitHumps, filter_splitAcronyms]
  induction cs with
  | nil => rfl
  | cons c cs ih =>
    rw [List.map_cons, List.filter_cons, List.filter_cons, ih]
    by_cases hhyphen : c = '-'
    · simp [isInWord, hhyphen]
    · simp [isInWord, hhyphen]

theorem filter_snake (h : IsAscii cs) :
    (snake cs).filter (· ≠ '_') = (cs.filter isInWord).map Char.toLower := by
  rw [snake_eq, filter_stripEnds (by simp), filter_squeeze, lower_of_isAscii h.cut,
    List.filter_map, ← filter_cut]
  congr 1
  apply List.filter_congr
  intro c hc
  simp [toLower_eq_underscore_iff (h.cut c hc)]

theorem flatten_words_eq_filter (cs : List Char) :
    (words cs).flatten = (snake cs).filter (· ≠ '_') := by
  rw [words, List.flatten_filter_not_isEmpty, flatten_cutAt]

theorem flatten_words (h : IsAscii cs) :
    (words cs).flatten = (cs.filter isInWord).map Char.toLower := by
  rw [flatten_words_eq_filter, filter_snake h]

theorem ne_nil_of_mem_words {w : List Char} (h : w ∈ words cs) : w ≠ [] := by
  simpa using (List.mem_filter.mp h).2

theorem isAlphanum_of_isInWord (h : isNameChar c = true) (hword : isInWord c = true) :
    c.isAlphanum = true := by
  simp only [isNameChar, Bool.or_eq_true, decide_eq_true_eq] at h
  simp only [isInWord, Bool.and_eq_true, decide_eq_true_eq] at hword
  tauto

theorem isAlphanum_toLower (h : c.isAlphanum = true) : c.toLower.isAlphanum = true :=
  of_ascii (P := fun c => c.isAlphanum = true → c.toLower.isAlphanum = true) (by decide)
    (by simp [isNameChar, h]) h

theorem isAlphanum_toUpper (h : c.isAlphanum = true) : c.toUpper.isAlphanum = true :=
  of_ascii (P := fun c => c.isAlphanum = true → c.toUpper.isAlphanum = true) (by decide)
    (by simp [isNameChar, h]) h

theorem isAlphanum_of_mem_words (hcs : IsName cs) {w : List Char} (hw : w ∈ words cs) :
    ∀ c ∈ w, c.isAlphanum = true := by
  intro c hc
  have hmem : c ∈ (words cs).flatten := List.mem_flatten.mpr ⟨w, hw, hc⟩
  rw [flatten_words hcs.isAscii] at hmem
  obtain ⟨d, hd, rfl⟩ := List.mem_map.mp hmem
  obtain ⟨hd, hword⟩ := List.mem_filter.mp hd
  exact isAlphanum_toLower (isAlphanum_of_isInWord (hcs d hd) hword)

theorem isAlphanum_of_mem_capitalize {w : List Char} (h : ∀ c ∈ w, c.isAlphanum = true) :
    ∀ c ∈ capitalize w, c.isAlphanum = true := by
  have hname : IsName w := fun c hc => by simp [isNameChar, h c hc]
  exact forall_mem_capitalize hname.isAscii h (fun _ => isAlphanum_toUpper) fun _ => isAlphanum_toLower

theorem isAlphanum_of_mem_camel (h : IsName cs) (hwords : words cs ≠ []) (hc : c ∈ camel cs) :
    c.isAlphanum = true := by
  obtain ⟨w, ws, hws⟩ := List.exists_cons_of_ne_nil hwords
  rw [camel, hws] at hc
  have hletters : ∀ v ∈ w :: ws, ∀ c ∈ v, c.isAlphanum = true :=
    fun v hv => isAlphanum_of_mem_words h (hws ▸ hv)
  rcases List.mem_append.mp hc with hc | hc
  · exact hletters w List.mem_cons_self c hc
  · obtain ⟨v, hv, hc⟩ := List.mem_flatMap.mp hc
    exact isAlphanum_of_mem_capitalize (hletters v (List.mem_cons_of_mem _ hv)) c hc

theorem camel_of_words_nil (hwords : words cs = []) : camel cs = cs := by rw [camel, hwords]

theorem isAlphanum_or_mem_of_mem_camel (h : IsName cs) (hc : c ∈ camel cs) :
    c.isAlphanum = true ∨ c ∈ cs := by
  by_cases hwords : words cs = []
  · rw [camel_of_words_nil hwords] at hc
    exact .inr hc
  · exact .inl (isAlphanum_of_mem_camel h hwords hc)

theorem isAlphanum_of_mem_pascal (h : IsName cs) (hc : c ∈ pascal cs) : c.isAlphanum = true := by
  obtain ⟨w, hw, hc⟩ := List.mem_flatMap.mp hc
  exact isAlphanum_of_mem_capitalize (isAlphanum_of_mem_words h hw) c hc

theorem head?_camel (h : IsName cs) :
    (camel cs).head? = ((cs.find? isInWord).map Char.toLower).or cs.head? := by
  have hflat := congrArg List.head? (flatten_words h.isAscii)
  rw [List.head?_map, List.head?_filter] at hflat
  rw [camel]
  split
  · next hwords =>
    rw [hwords] at hflat
    rw [← hflat]
    rfl
  · next w ws hwords =>
    have hw : w ≠ [] := ne_nil_of_mem_words (hwords ▸ List.mem_cons_self)
    obtain ⟨c, rest, rfl⟩ := List.exists_cons_of_ne_nil hw
    rw [hwords] at hflat
    rw [← hflat]
    rfl

theorem clean_eq_self (h : IsName (c :: cs)) (hhyphen : '-' ∉ c :: cs) (hdigit : c.isDigit = false) :
    clean (c :: cs) = c :: cs := by
  have hfit : ((c :: cs).map fun c => if isNameChar c then c else '_') = c :: cs :=
    (List.map_congr_left fun d hd => if_pos (h d hd)).trans (List.map_id' _)
  have hstrip : stripEnds (· == '-') (c :: cs) = c :: cs :=
    stripEnds_eq_self fun d hd => by simpa using ne_of_mem_of_not_mem hd hhyphen
  rw [clean, hfit, hstrip]
  exact if_neg (by simp [hdigit])

end RealmModels.Naming
