import Mathlib
import RealmModels.Proofs.Text.Ends
import RealmModels.Proofs.Text.OneLine

/-!
Tidying a text. The white space at the ends of lines goes, a run of empty lines is shortened to the most
that may stand together, and all other lines stay. Tidying once is enough, and changes nothing where no
line ends in white space and no empty line follows another.
-/

namespace RealmModels.Text

def Spaced (ts : List String) : Prop :=
  ts.IsChain (fun t u => t ≠ "" ∨ u ≠ "") ∧ ∀ t ∈ ts.getLast?, t ≠ ""

namespace Spaced

variable {t u : String} {ts us : List String}

theorem nil : Spaced [] := ⟨List.isChain_nil, fun _ h => nomatch h⟩

theorem append (h : Spaced ts) (h' : Spaced us) : Spaced (ts ++ us) := by
  constructor
  · exact h.1.append h'.1 fun t ht _ _ => Or.inl (h.2 t ht)
  · intro t ht
    rw [List.getLast?_append, Option.mem_def, Option.or_eq_some_iff] at ht
    rcases ht with ht | ⟨-, ht⟩
    · exact h'.2 t ht
    · exact h.2 t ht

theorem single (h : t ≠ "") : Spaced [t] :=
  ⟨List.isChain_singleton _, fun u hu => by
    obtain rfl := Option.some.inj hu
    exact h⟩

theorem congr {α : Type} {f g : α → String} {as : List α} (hfg : ∀ a, f a = "" → g a = "")
    (h : Spaced (as.map g)) : Spaced (as.map f) := by
  constructor
  · rw [List.isChain_map]
    apply ((List.isChain_map g).mp h.1).imp
    intro a b hne
    exact hne.imp (mt (hfg a)) (mt (hfg b))
  · intro t ht
    rw [List.getLast?_map, Option.mem_map] at ht
    obtain ⟨a, ha, rfl⟩ := ht
    have hg : g a ∈ (as.map g).getLast? := by
      rw [List.getLast?_map]
      exact Option.mem_map_of_mem g ha
    exact mt (hfg a) (h.2 (g a) hg)

theorem blank (h : Spaced (t :: ts)) (ht : t ≠ "") : Spaced ("" :: t :: ts) := by
  refine ⟨List.isChain_cons_cons.mpr ⟨Or.inr ht, h.1⟩, ?_⟩
  rw [List.getLast?_cons_cons]
  exact h.2

end Spaced

theorem tidyLines_eq_self {ls : List (List Char)} (htrimmed : ∀ l ∈ ls, trimEnd l = l)
    (hspaced : ls.IsChain fun l l' => l ≠ [] ∨ l' ≠ []) (run : ℕ)
    (hrun : ls.head? = some [] → run < blankLineLimit) : tidyLines run ls = ls := by
  -- behind an empty line the next is not empty, so that no run of them becomes too long
  induction ls generalizing run with
  | nil => rfl
  | cons l ls ih =>
    obtain ⟨hl, hls⟩ := List.forall_mem_cons.mp htrimmed
    obtain ⟨hnext, hchain⟩ := List.isChain_cons.mp hspaced
    rw [tidyLines, hl]
    cases l with
    | nil =>
      have hbehind : ls.head? = some [] → run + 1 < blankLineLimit := by
        intro hhead
        rcases hnext [] hhead with h | h <;> exact absurd rfl h
      rw [if_pos (hrun rfl), ih hls hchain _ hbehind]
    | cons c cs => rw [ih hls hchain 0 fun _ => by decide]

/-- No line ends in white space, no empty line follows another, and none is the first or the last. -/
structure IsTidy (text : String) : Prop where
  trimmed : ∀ l ∈ lines text, ∀ c ∈ l.toList.getLast?, isBlank c = false
  spaced : Spaced (lines text)
  first : ∀ l ∈ (lines text).head?, l ≠ ""

theorem IsTidy.tidy_eq {text : String} (h : IsTidy text) : tidy text = text := by
  have hpieces : (lines text).map String.toList = cutAt '\n' text.toList := by
    rw [lines, List.map_map]
    simp [Function.comp_def]
  have htrimmed : ∀ cs ∈ cutAt '\n' text.toList, trimEnd cs = cs := by
    rw [← hpieces]
    exact List.forall_mem_map.mpr fun l hl => trimEnd_of_getLast? (h.trimmed l hl)
  have hchain : (cutAt '\n' text.toList).IsChain fun cs ds => cs ≠ [] ∨ ds ≠ [] := by
    rw [← hpieces, List.isChain_map]
    apply h.spaced.1.imp
    intro t u hne
    simpa using hne
  have hkept := tidyLines_eq_self htrimmed hchain 0 fun _ => by decide
  rw [tidy, hkept]
  exact unlines_lines text

def trimmedLines (text : String) : List String :=
  (lines text).map fun l => String.ofList (l.toList.rdropWhile isBlank)

def alike (l l' : String) : Bool := (l == "") == (l' == "")

/-- The longest parts of a list of lines in which either all lines are empty or none is. -/
def runs (ls : List String) : List (List String) := ls.splitBy alike

def shortened (run : List String) : List String :=
  if run.head? = some "" then List.replicate (min run.length blankLineLimit) "" else run

theorem dropEndWhile_eq_rdropWhile {α : Type} (p : α → Bool) (as : List α) :
    dropEndWhile p as = as.rdropWhile p := by
  induction as using List.reverseRecOn with
  | nil => rfl
  | append_singleton as a ih =>
    by_cases ha : p a = true
    · rw [dropEndWhile_concat ha, List.rdropWhile_concat_pos p as a ha, ih]
    · rw [dropEndWhile_append (Bool.eq_false_iff.mpr ha), List.rdropWhile_concat_neg p as a ha]

theorem trimEnd_trimEnd (cs : List Char) : trimEnd (trimEnd cs) = trimEnd cs :=
  trimEnd_of_getLast? fun _ hc => not_of_getLast?_dropEndWhile hc

theorem trimmedLines_eq (text : String) :
    trimmedLines text = ((cutAt '\n' text.toList).map trimEnd).map String.ofList := by
  rw [trimmedLines, lines, List.map_map, List.map_map]
  refine List.map_congr_left fun cs _ => ?_
  rw [Function.comp_apply, Function.comp_apply, String.toList_ofList, trimEnd,
    dropEndWhile_eq_rdropWhile]

section

variable {l : List Char} {ls : List (List Char)}

theorem tidyLines_cons_of_blank (hl : trimEnd l = []) (run : ℕ) (ls : List (List Char)) :
    tidyLines run (l :: ls) =
      if run < blankLineLimit then [] :: tidyLines (run + 1) ls else tidyLines (run + 1) ls := by
  rw [tidyLines, hl]

theorem tidyLines_cons_of_inked (hl : trimEnd l ≠ []) (run : ℕ) (ls : List (List Char)) :
    tidyLines run (l :: ls) = trimEnd l :: tidyLines 0 ls := by
  rw [tidyLines]
  split
  · next hnil => exact absurd hnil hl
  · rfl

theorem tidyLines_map_trimEnd (run : ℕ) (ls : List (List Char)) :
    tidyLines run (ls.map trimEnd) = tidyLines run ls := by
  induction ls generalizing run with
  | nil => rfl
  | cons l ls ih => rw [List.map_cons, tidyLines, tidyLines, trimEnd_trimEnd, ih, ih]

theorem tidyLines_of_full {run run' : ℕ} (h : blankLineLimit ≤ run) (h' : blankLineLimit ≤ run')
    (ls : List (List Char)) : tidyLines run ls = tidyLines run' ls := by
  induction ls generalizing run run' with
  | nil => rfl
  | cons l ls ih =>
    by_cases hl : trimEnd l = []
    · rw [tidyLines_cons_of_blank hl, tidyLines_cons_of_blank hl, if_neg h.not_gt, if_neg h'.not_gt]
      exact ih (h.trans run.le_succ) (h'.trans run'.le_succ)
    · rw [tidyLines_cons_of_inked hl, tidyLines_cons_of_inked hl]

theorem tidyLines_tidyLines (run : ℕ) (ls : List (List Char)) :
    tidyLines run (tidyLines run ls) = tidyLines run ls := by
  induction ls generalizing run with
  | nil => rfl
  | cons l ls ih =>
    by_cases hl : trimEnd l = []
    · rw [tidyLines_cons_of_blank hl]
      split
      · next hrun => rw [tidyLines_cons_of_blank rfl, if_pos hrun, ih]
      · next hrun =>
        have hfull : blankLineLimit ≤ run := not_lt.mp hrun
        rw [tidyLines_of_full hfull (hfull.trans run.le_succ), ih]
    · have hkept : trimEnd (trimEnd l) ≠ [] := by rwa [trimEnd_trimEnd]
      rw [tidyLines_cons_of_inked hl, tidyLines_cons_of_inked hkept, trimEnd_trimEnd, ih]

theorem filter_tidyLines (run : ℕ) (ls : List (List Char)) :
    (tidyLines run ls).filter (· ≠ []) = (ls.map trimEnd).filter (· ≠ []) := by
  induction ls generalizing run with
  | nil => rfl
  | cons l ls ih =>
    by_cases hl : trimEnd l = []
    · rw [tidyLines_cons_of_blank hl, List.map_cons, List.filter_cons_of_neg (by simp [hl]), ← ih]
      split
      · rw [List.filter_cons_of_neg (by simp)]
      · rfl
    · rw [tidyLines_cons_of_inked hl, List.map_cons, List.filter_cons_of_pos (by simpa using hl),
        List.filter_cons_of_pos (by simpa using hl), ih]

theorem tidyLines_ne_nil (h : ls ≠ []) : tidyLines 0 ls ≠ [] := by
  obtain ⟨l, ls, rfl⟩ := List.exists_cons_of_ne_nil h
  by_cases hl : trimEnd l = []
  · rw [tidyLines_cons_of_blank hl, if_pos (by decide)]
    exact List.cons_ne_nil _ _
  · rw [tidyLines_cons_of_inked hl]
    exact List.cons_ne_nil _ _

theorem exists_of_mem_tidyLines {run : ℕ} {l : List Char} (h : l ∈ tidyLines run ls) :
    l = [] ∨ ∃ l' ∈ ls, l = trimEnd l' := by
  by_cases hl : l = []
  · exact .inl hl
  · have hkept : l ∈ (ls.map trimEnd).filter (· ≠ []) := by
      rw [← filter_tidyLines run ls]
      exact List.mem_filter.mpr ⟨h, by simpa using hl⟩
    obtain ⟨l', hl', rfl⟩ := List.mem_map.mp (List.mem_of_mem_filter hkept)
    exact .inr ⟨l', hl', rfl⟩

theorem tidyLines_blank_append {bs : List (List Char)} (h : ∀ l ∈ bs, trimEnd l = []) (run : ℕ)
    (ls : List (List Char)) :
    tidyLines run (bs ++ ls) = List.replicate (min bs.length (blankLineLimit - run)) [] ++
      tidyLines (run + bs.length) ls := by
  induction bs generalizing run with
  | nil => simp
  | cons b bs ih =>
    obtain ⟨hb, hbs⟩ := List.forall_mem_cons.mp h
    have hlength : run + (b :: bs).length = run + 1 + bs.length := by
      rw [List.length_cons]
      omega
    rw [List.cons_append, tidyLines_cons_of_blank hb, ih hbs, hlength]
    split
    · next hrun =>
      have hmin : min (b :: bs).length (blankLineLimit - run) =
          min bs.length (blankLineLimit - (run + 1)) + 1 := by
        rw [List.length_cons]
        omega
      rw [hmin, List.replicate_succ, List.cons_append]
    · next hrun =>
      have hnone : blankLineLimit - (run + 1) = 0 := by omega
      have hnone' : blankLineLimit - run = 0 := by omega
      rw [hnone, hnone', Nat.min_zero, Nat.min_zero]

theorem tidyLines_inked_append {is : List (List Char)} (h : ∀ l ∈ is, trimEnd l ≠ []) (hne : is ≠ [])
    (run : ℕ) (ls : List (List Char)) :
    tidyLines run (is ++ ls) = is.map trimEnd ++ tidyLines 0 ls := by
  induction is generalizing run with
  | nil => exact absurd rfl hne
  | cons l is ih =>
    obtain ⟨hl, his⟩ := List.forall_mem_cons.mp h
    rw [List.cons_append, tidyLines_cons_of_inked hl, List.map_cons, List.cons_append]
    rcases eq_or_ne is [] with rfl | hmore
    · rfl
    · rw [ih his hmore]

end

theorem eq_empty_iff_of_isChain {t : String} {ts : List String}
    (h : (t :: ts).IsChain fun u v => alike u v = true) : ∀ u ∈ t :: ts, u = "" ↔ t = "" := by
  have halike (u v : String) : alike u v = true ↔ (v = "" ↔ u = "") := by
    by_cases hu : u = "" <;> by_cases hv : v = "" <;> simp [alike, hu, hv]
  simp only [halike] at h
  induction ts generalizing t with
  | nil => simp
  | cons v ts ih =>
    obtain ⟨hv, hts⟩ := List.isChain_cons_cons.mp h
    refine List.forall_mem_cons.mpr ⟨Iff.rfl, fun u hu => ?_⟩
    exact (ih hts u hu).trans hv

theorem head?_ne_of_cut {r : List String} {rs : List (List String)} (hne : [] ∉ rs)
    (hcut : ∀ r' ∈ rs.head?, ∃ h h', alike (r.getLast h) (r'.head h') = false)
    (hr : ∀ t ∈ r, t = "") : rs.flatten.head? ≠ some "" := by
  cases rs with
  | nil => simp
  | cons r' rs =>
    obtain ⟨h, h', hdiffer⟩ := hcut r' rfl
    obtain ⟨t, ts, rfl⟩ := List.exists_cons_of_ne_nil h'
    have hlast : r.getLast h = "" := hr _ (List.getLast_mem h)
    simpa [alike, hlast] using hdiffer

theorem flatMap_tidyLines {rs : List (List String)} (hne : [] ∉ rs)
    (hruns : ∀ r ∈ rs, r.IsChain fun t u => alike t u = true)
    (hcuts : rs.IsChain fun r r' => ∃ h h', alike (r.getLast h) (r'.head h') = false)
    (htrimmed : ∀ t ∈ rs.flatten, trimEnd t.toList = t.toList) (run : ℕ)
    (hrun : rs.flatten.head? = some "" → run = 0) :
    (tidyLines run (rs.flatten.map String.toList)).map String.ofList = rs.flatMap shortened := by
  -- a run of empty lines is met with the count at zero, as no other such run ends in front of it
  induction rs generalizing run with
  | nil => rfl
  | cons r rs ih =>
    obtain ⟨hr, hrs⟩ := List.forall_mem_cons.mp hruns
    obtain ⟨hcut, hcuts'⟩ := List.isChain_cons.mp hcuts
    obtain ⟨hr_ne, hrs_ne⟩ := not_or.mp (mt List.mem_cons.mpr hne)
    rw [List.flatten_cons] at htrimmed hrun ⊢
    obtain ⟨htrimmed_r, htrimmed_rs⟩ := List.forall_mem_append.mp htrimmed
    obtain ⟨t, ts, rfl⟩ := List.exists_cons_of_ne_nil (Ne.symm hr_ne)
    have hall := eq_empty_iff_of_isChain hr
    rw [List.map_append, List.flatMap_cons]
    by_cases ht : t = ""
    · have hempty : ∀ u ∈ t :: ts, u = "" := fun u hu => (hall u hu).mpr ht
      have hblank : ∀ l ∈ (t :: ts).map String.toList, trimEnd l = [] := by
        refine List.forall_mem_map.mpr fun u hu => ?_
        rw [htrimmed_r u hu, hempty u hu]
        rfl
      have hstart : run = 0 := hrun (by rw [ht]; rfl)
      have hshort : shortened (t :: ts) = List.replicate (min (t :: ts).length blankLineLimit) "" := by
        rw [shortened, if_pos (by rw [ht]; rfl)]
      have hnext := head?_ne_of_cut hrs_ne hcut hempty
      rw [tidyLines_blank_append hblank, List.map_append, List.map_replicate, List.length_map, hstart,
        ih hrs_ne hrs hcuts' htrimmed_rs _ fun h => absurd h hnext, hshort]
      rfl
    · have hinked : ∀ l ∈ (t :: ts).map String.toList, trimEnd l ≠ [] := by
        refine List.forall_mem_map.mpr fun u hu => ?_
        rw [htrimmed_r u hu]
        exact fun h => ht ((hall u hu).mp (String.toList_eq_nil_iff.mp h))
      have hkept : ((t :: ts).map String.toList).map trimEnd = (t :: ts).map String.toList := by
        rw [List.map_map]
        exact List.map_congr_left htrimmed_r
      have hsame : shortened (t :: ts) = t :: ts := by
        exact if_neg fun h => ht (Option.some.inj h)
      rw [tidyLines_inked_append hinked (List.cons_ne_nil _ _), hkept, List.map_append,
        ih hrs_ne hrs hcuts' htrimmed_rs 0 fun _ => rfl, hsame, List.map_map]
      simp [Function.comp_def]

theorem lines_tidy_eq (text : String) :
    lines (tidy text) = (tidyLines 0 (cutAt '\n' text.toList)).map String.ofList := by
  refine lines_unlines (mt List.map_eq_nil_iff.mp (tidyLines_ne_nil (cutAt_ne_nil _ _))) ?_
  refine List.forall_mem_map.mpr fun l hl => ?_
  rw [OneLine, String.toList_ofList]
  rcases exists_of_mem_tidyLines hl with rfl | ⟨l', hl', rfl⟩
  · exact List.not_mem_nil
  · exact fun h => not_mem_of_mem_cutAt hl' (mem_of_mem_dropEndWhile h)

theorem tidy_tidy (text : String) : tidy (tidy text) = tidy text := by
  have hcut : cutAt '\n' (tidy text).toList = tidyLines 0 (cutAt '\n' text.toList) := by
    have hlines := congrArg (List.map String.toList) (lines_tidy_eq text)
    simpa [lines, List.map_map, Function.comp_def] using hlines
  rw [tidy, hcut, tidyLines_tidyLines]
  rfl

/-- A tidy text has the runs of the trimmed lines in their order, those of empty lines shortened and
the others as they are, and tidying it once more changes nothing. -/
theorem tidy_shortens_runs (text : String) :
    tidy (tidy text) = tidy text ∧
    lines (tidy text) = (runs (trimmedLines text)).flatMap shortened ∧
    (lines (tidy text)).filter (· ≠ "") = (trimmedLines text).filter (· ≠ "") := by
  have hlists : (trimmedLines text).map String.toList = (cutAt '\n' text.toList).map trimEnd := by
    rw [trimmedLines_eq, List.map_map]
    simp [Function.comp_def]
  refine ⟨tidy_tidy text, ?_, ?_⟩
  · have htrimmed : ∀ t ∈ trimmedLines text, trimEnd t.toList = t.toList := by
      rw [trimmedLines_eq, List.map_map]
      refine List.forall_mem_map.mpr fun cs _ => ?_
      rw [Function.comp_apply, String.toList_ofList, trimEnd_trimEnd]
    have hruns := flatMap_tidyLines (List.nil_notMem_splitBy alike (trimmedLines text))
      (fun _ => List.isChain_of_mem_splitBy) (List.isChain_getLast_head_splitBy alike _)
      (by rwa [List.flatten_splitBy]) 0 fun _ => rfl
    rw [lines_tidy_eq, ← tidyLines_map_trimEnd, ← hlists, runs, ← hruns, List.flatten_splitBy]
  · have hempty (cs : List Char) : (String.ofList cs ≠ "") = (cs ≠ []) := by
      simp [← String.toList_inj]
    rw [lines_tidy_eq, trimmedLines_eq, List.filter_map, List.filter_map]
    simp only [Function.comp_def, hempty]
    rw [filter_tidyLines]

end RealmModels.Text
