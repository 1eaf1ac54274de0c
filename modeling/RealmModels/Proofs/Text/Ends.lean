import Mathlib
import RealmModels.Text.Lines

namespace RealmModels.Text

def firstIs (p : Char → Bool) (text : String) : Bool := text.toList.head?.any p

def lastIs (p : Char → Bool) (text : String) : Bool := text.toList.getLast?.any p

def isInk (c : Char) : Bool := !isBlank c

def bare (line : String) : String := String.ofList (line.toList.dropWhile isBlank)

variable {p q : Char → Bool} {s t : String} {cs : List Char} {c : Char}

theorem firstIs_iff : firstIs p s = true ↔ ∃ c, s.toList.head? = some c ∧ p c = true :=
  Option.any_eq_true p _

theorem lastIs_iff : lastIs p s = true ↔ ∃ c, s.toList.getLast? = some c ∧ p c = true :=
  Option.any_eq_true p _

theorem firstIs_append (h : firstIs p s = true) (t : String) : firstIs p (s ++ t) = true := by
  obtain ⟨c, hc, hp⟩ := firstIs_iff.mp h
  refine firstIs_iff.mpr ⟨c, ?_, hp⟩
  rw [String.toList_append, List.head?_append, hc, Option.some_or]

theorem lastIs_append (s : String) (h : lastIs p t = true) : lastIs p (s ++ t) = true := by
  obtain ⟨c, hc, hp⟩ := lastIs_iff.mp h
  refine lastIs_iff.mpr ⟨c, ?_, hp⟩
  rw [String.toList_append, List.getLast?_append, hc, Option.some_or]

theorem firstIs_mono (hpq : ∀ c, p c = true → q c = true) (h : firstIs p s = true) :
    firstIs q s = true := by
  obtain ⟨c, hc, hp⟩ := firstIs_iff.mp h
  exact firstIs_iff.mpr ⟨c, hc, hpq c hp⟩

theorem lastIs_mono (hpq : ∀ c, p c = true → q c = true) (h : lastIs p s = true) :
    lastIs q s = true := by
  obtain ⟨c, hc, hp⟩ := lastIs_iff.mp h
  exact lastIs_iff.mpr ⟨c, hc, hpq c hp⟩

theorem ne_of_firstIs (h : firstIs p s = true) : s ≠ "" := by
  rintro rfl
  exact absurd h (by simp [firstIs])

theorem bare_append (hs : ∀ c ∈ s.toList, isBlank c = true) (ht : firstIs isInk t = true) :
    bare (s ++ t) = t := by
  obtain ⟨c, hc, hink⟩ := firstIs_iff.mp ht
  have hblank : isBlank c = false := by simpa [isInk] using hink
  have htext : t.toList.dropWhile isBlank = t.toList := by
    obtain ⟨cs, hcs⟩ := List.head?_eq_some_iff.mp hc
    rw [hcs, List.dropWhile_cons_of_neg (by simp [hblank])]
  rw [bare, String.toList_append, List.dropWhile_append_of_pos hs, htext, String.ofList_toList]

theorem isPrefix_dropEndWhile {α : Type} (p : α → Bool) (as : List α) : dropEndWhile p as <+: as := by
  induction as with
  | nil => exact List.prefix_refl _
  | cons a as ih =>
    rw [dropEndWhile]
    split
    · split
      · exact List.nil_prefix
      · exact (List.prefix_cons_inj a).mpr List.nil_prefix
    · exact (List.prefix_cons_inj a).mpr ih

theorem isInfix_stripEnds {α : Type} (p : α → Bool) (as : List α) : stripEnds p as <:+: as :=
  (isPrefix_dropEndWhile p _).isInfix.trans (List.dropWhile_suffix p).isInfix

theorem mem_of_mem_dropEndWhile {α : Type} {p : α → Bool} {a : α} {as : List α}
    (h : a ∈ dropEndWhile p as) : a ∈ as := (isPrefix_dropEndWhile p as).mem h

theorem mem_of_mem_stripEnds {α : Type} {p : α → Bool} {a : α} {as : List α}
    (h : a ∈ stripEnds p as) : a ∈ as := (isInfix_stripEnds p as).mem h

theorem filter_dropWhile {α : Type} {p q : α → Bool} (h : ∀ a, p a = true → q a = false) (as : List α) :
    (as.dropWhile p).filter q = as.filter q := by
  induction as with
  | nil => rfl
  | cons a as ih =>
    rw [List.dropWhile_cons]
    split
    · next ha => rw [ih, List.filter_cons_of_neg (by simp [h a ha])]
    · rfl

theorem filter_dropEndWhile {α : Type} {p q : α → Bool} (h : ∀ a, p a = true → q a = false)
    (as : List α) : (dropEndWhile p as).filter q = as.filter q := by
  induction as with
  | nil => rfl
  | cons a as ih =>
    rw [List.filter_cons, ← ih, dropEndWhile]
    split
    · next hdrop =>
      rw [hdrop]
      by_cases ha : p a = true
      · simp [ha, h a ha]
      · simp [ha, List.filter_cons]
    · rw [List.filter_cons]

theorem filter_stripEnds {α : Type} {p q : α → Bool} (h : ∀ a, p a = true → q a = false)
    (as : List α) : (stripEnds p as).filter q = as.filter q := by
  rw [stripEnds, filter_dropEndWhile h, filter_dropWhile h]

theorem dropEndWhile_cons_of_neg {α : Type} {p : α → Bool} {a : α} (ha : p a = false) (as : List α) :
    dropEndWhile p (a :: as) = a :: dropEndWhile p as := by
  rw [dropEndWhile]
  split
  · next hnil => simp [hnil, ha]
  · rfl

theorem dropEndWhile_concat {α : Type} {p : α → Bool} {a : α} (ha : p a = true) (as : List α) :
    dropEndWhile p (as ++ [a]) = dropEndWhile p as := by
  induction as with
  | nil => simp [dropEndWhile, ha]
  | cons b bs ih => rw [List.cons_append, dropEndWhile, dropEndWhile, ih]

theorem dropEndWhile_append {α : Type} {p : α → Bool} {a : α} (ha : p a = false) (as : List α) :
    dropEndWhile p (as ++ [a]) = as ++ [a] := by
  induction as with
  | nil => simp [dropEndWhile, ha]
  | cons b bs ih =>
    rw [List.cons_append, dropEndWhile, ih]
    cases bs <;> rfl

theorem stripEnds_of_ends {α : Type} {p : α → Bool} {as : List α}
    (hstart : ∀ a ∈ as.head?, p a = false) (hend : ∀ a ∈ as.getLast?, p a = false) :
    stripEnds p as = as := by
  have hdrop : as.dropWhile p = as := by
    cases as with
    | nil => rfl
    | cons a as => exact List.dropWhile_cons_of_neg (by simp [hstart a rfl])
  rw [stripEnds, hdrop]
  rcases List.eq_nil_or_concat' as with rfl | ⟨front, a, rfl⟩
  · rfl
  · exact dropEndWhile_append (hend a List.getLast?_concat) front

theorem stripEnds_eq_self {α : Type} {p : α → Bool} {as : List α} (h : ∀ a ∈ as, p a = false) :
    stripEnds p as = as :=
  stripEnds_of_ends (fun a ha => h a (List.mem_of_mem_head? ha))
    fun a ha => h a (List.mem_of_mem_getLast? ha)

theorem trim_append {cs : List Char} {c : Char} (hstart : ∀ d ∈ cs.head?, isBlank d = false)
    (hend : isBlank c = false) : trim (cs ++ [c]) = cs ++ [c] := by
  apply stripEnds_of_ends
  · cases cs with
    | nil => simpa using hend
    | cons d ds => exact hstart
  · simpa using hend

theorem not_of_getLast?_dropEndWhile {α : Type} {p : α → Bool} {as : List α} {a : α}
    (h : (dropEndWhile p as).getLast? = some a) : p a = false := by
  induction as with
  | nil => exact absurd h (by simp [dropEndWhile])
  | cons b bs ih =>
    rw [dropEndWhile] at h
    split at h
    · split at h
      · exact absurd h (by simp)
      · next hb =>
        obtain rfl := Option.some.inj h
        exact Bool.eq_false_iff.mpr hb
    · next hrest =>
      apply ih
      obtain ⟨c, cs, hcs⟩ := List.exists_cons_of_ne_nil hrest
      rw [hcs, List.getLast?_cons_cons] at h
      rw [hcs, h]

theorem trim_cons (hc : isBlank c = true) (cs : List Char) : trim (c :: cs) = trim cs := by
  rw [trim, stripEnds, List.dropWhile_cons_of_pos hc]
  rfl

theorem trim_concat (hc : isBlank c = true) (cs : List Char) : trim (cs ++ [c]) = trim cs := by
  rw [trim, trim, stripEnds, stripEnds, List.dropWhile_append]
  split
  · next hdrop => simp [List.isEmpty_iff.mp hdrop, hc]
  · exact dropEndWhile_concat hc _

theorem not_of_head?_stripEnds {α : Type} {p : α → Bool} {as : List α} {a : α}
    (h : (stripEnds p as).head? = some a) : p a = false := by
  rw [stripEnds] at h
  have hfirst := List.head?_dropWhile_not p as
  cases hdrop : as.dropWhile p with
  | nil =>
    rw [hdrop] at h
    cases h
  | cons b bs =>
    rw [hdrop] at h hfirst
    have hb : p b = false := hfirst
    rw [dropEndWhile_cons_of_neg hb] at h
    obtain rfl := Option.some.inj h
    exact hb

theorem isInk_of_head?_trim (h : (trim cs).head? = some c) : isInk c = true := by
  rw [isInk, not_of_head?_stripEnds h]
  rfl

theorem isInk_of_getLast?_trim (h : (trim cs).getLast? = some c) : isInk c = true := by
  rw [isInk, not_of_getLast?_dropEndWhile h]
  rfl

theorem trim_trim (cs : List Char) : trim (trim cs) = trim cs :=
  stripEnds_of_ends (fun _ => not_of_head?_stripEnds) fun _ => not_of_getLast?_dropEndWhile

theorem lastIs_trim {cs : List Char} (h : trim cs ≠ []) : lastIs isInk (String.ofList (trim cs)) = true := by
  have hlast := List.getLast?_eq_some_getLast h
  exact lastIs_iff.mpr ⟨_, by rwa [String.toList_ofList], isInk_of_getLast?_trim hlast⟩

theorem countP_trim (cs : List Char) : (trim cs).countP isInk = cs.countP isInk := by
  rw [List.countP_eq_length_filter, List.countP_eq_length_filter, trim,
    filter_stripEnds fun c hc => by simp [isInk, hc]]

theorem trimEnd_of_getLast? {cs : List Char} (h : ∀ c ∈ cs.getLast?, isBlank c = false) :
    trimEnd cs = cs := by
  rcases List.eq_nil_or_concat' cs with rfl | ⟨front, c, rfl⟩
  · rfl
  · exact dropEndWhile_append (h c List.getLast?_concat) front

end RealmModels.Text
