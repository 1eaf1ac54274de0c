import Mathlib
import RealmModels.Text.Lines

namespace RealmModels.Text

def Lacks (c : Char) (s : String) : Prop := c ∉ s.toList

instance (c : Char) (s : String) : Decidable (Lacks c s) := inferInstanceAs (Decidable (¬ _))

namespace Lacks

variable {c : Char} {s t : String}

theorem append (h : Lacks c s) (h' : Lacks c t) : Lacks c (s ++ t) := by
  simp only [Lacks, String.toList_append, List.mem_append, not_or]
  exact ⟨h, h'⟩

theorem joinWith (hs : Lacks c s) {ts : List String} (h : ∀ t ∈ ts, Lacks c t) :
    Lacks c (joinWith s ts) := by
  induction ts with
  | nil => simp [Lacks, Text.joinWith]
  | cons t ts ih =>
    obtain ⟨ht, hts⟩ := List.forall_mem_cons.mp h
    cases ts with
    | nil => exact ht
    | cons u ts => exact (ht.append hs).append (ih hts)

end Lacks

def OneLine (text : String) : Prop := '\n' ∉ text.toList

instance (text : String) : Decidable (OneLine text) := inferInstanceAs (Decidable (¬ _))

namespace OneLine

variable {s t : String}

theorem append (h : OneLine s) (h' : OneLine t) : OneLine (s ++ t) := Lacks.append h h'

theorem joinWith (hs : OneLine s) {ts : List String} (h : ∀ t ∈ ts, OneLine t) :
    OneLine (joinWith s ts) := Lacks.joinWith hs h

theorem of_subset (h : OneLine s) (hsub : ∀ c ∈ t.toList, c ∈ s.toList) : OneLine t := by
  intro hmem
  exact h (hsub _ hmem)

end OneLine

variable {sep c : Char} {cs piece first : List Char} {rest : List (List Char)}

theorem cutAt_of_not_mem (h : sep ∉ cs) : cutAt sep cs = [cs] := by
  induction cs with
  | nil => rfl
  | cons c cs ih =>
    have hc : sep ≠ c := List.ne_of_not_mem_cons h
    rw [cutAt, if_neg hc.symm, ih (List.not_mem_of_not_mem_cons h)]

theorem cutAt_ne_nil (sep : Char) (cs : List Char) : cutAt sep cs ≠ [] := by
  cases cs with
  | nil => exact List.cons_ne_nil _ _
  | cons c cs =>
    rw [cutAt]
    split
    · exact List.cons_ne_nil _ _
    · split <;> exact List.cons_ne_nil _ _

theorem cutAt_cons_of_ne (hc : c ≠ sep) (hcut : cutAt sep cs = first :: rest) :
    cutAt sep (c :: cs) = (c :: first) :: rest := by
  rw [cutAt, if_neg hc, hcut]

theorem cutAt_append_cons (cs ds : List Char) :
    cutAt sep (cs ++ sep :: ds) = cutAt sep cs ++ cutAt sep ds := by
  induction cs with
  | nil => simp [cutAt]
  | cons c cs ih =>
    by_cases hc : c = sep
    · simp [cutAt, hc, ih]
    · obtain ⟨first, rest, hcut⟩ := List.exists_cons_of_ne_nil (cutAt_ne_nil sep cs)
      rw [cutAt_cons_of_ne hc hcut, List.cons_append, cutAt_cons_of_ne hc (by rw [ih, hcut]; rfl)]
      rfl

theorem cutAt_append (h : sep ∉ cs) (rest : List Char) :
    cutAt sep (cs ++ sep :: rest) = cs :: cutAt sep rest := by
  rw [cutAt_append_cons, cutAt_of_not_mem h]
  rfl

theorem exists_cutAt_concat (hc : c ≠ sep) (cs : List Char) :
    ∃ front last, cutAt sep cs = front ++ [last] ∧ cutAt sep (cs ++ [c]) = front ++ [last ++ [c]] := by
  induction cs with
  | nil => exact ⟨[], [], rfl, by simp [cutAt, hc]⟩
  | cons d ds ih =>
    obtain ⟨front, last, hcut, hconcat⟩ := ih
    by_cases hd : d = sep
    · exact ⟨[] :: front, last, by simp [cutAt, hd, hcut], by simp [cutAt, hd, hconcat]⟩
    · cases front with
      | nil =>
        exact ⟨[], d :: last, cutAt_cons_of_ne hd hcut, cutAt_cons_of_ne hd hconcat⟩
      | cons f fs =>
        exact ⟨(d :: f) :: fs, last, cutAt_cons_of_ne hd hcut, cutAt_cons_of_ne hd hconcat⟩

theorem flatten_cutAt (sep : Char) (cs : List Char) :
    (cutAt sep cs).flatten = cs.filter (· ≠ sep) := by
  induction cs with
  | nil => rfl
  | cons c cs ih =>
    rw [cutAt]
    split
    · next hc => simp [hc, ih]
    · next hc =>
      rw [List.filter_cons_of_pos (by simp [hc]), ← ih]
      cases cutAt sep cs with
      | nil => rfl
      | cons piece pieces => rfl

theorem mem_of_mem_cutAt (h : piece ∈ cutAt sep cs) : ∀ c ∈ piece, c ∈ cs := by
  intro c hc
  have hmem : c ∈ (cutAt sep cs).flatten := List.mem_flatten.mpr ⟨piece, h, hc⟩
  rw [flatten_cutAt] at hmem
  exact List.mem_of_mem_filter hmem

theorem not_mem_of_mem_cutAt (h : piece ∈ cutAt sep cs) : sep ∉ piece := by
  intro hc
  have hmem : sep ∈ (cutAt sep cs).flatten := List.mem_flatten.mpr ⟨piece, h, hc⟩
  rw [flatten_cutAt] at hmem
  exact absurd (List.mem_filter.mp hmem).2 (by simp)

theorem joinWith_cons (between t : String) (ts : List String) :
    joinWith between (t :: ts) = t ++ String.join (ts.map (between ++ ·)) := by
  induction ts generalizing t with
  | nil => simp [Text.joinWith]
  | cons u ts ih =>
    rw [Text.joinWith, ih, List.map_cons, String.join_cons, String.append_assoc, String.append_assoc]

theorem toList_joinWith_cons (sep : Char) (t : String) (ts : List String) :
    (joinWith (String.singleton sep) (t :: ts)).toList =
      t.toList ++ (ts.map String.toList).flatMap (sep :: ·) := by
  simp [joinWith_cons, List.flatMap_map]

theorem cutAt_append_flatMap {pieces : List (List Char)} (h : ∀ p ∈ piece :: pieces, sep ∉ p) :
    cutAt sep (piece ++ pieces.flatMap (sep :: ·)) = piece :: pieces := by
  induction pieces generalizing piece with
  | nil => simpa using cutAt_of_not_mem (h piece List.mem_cons_self)
  | cons next pieces ih =>
    obtain ⟨hpiece, hrest⟩ := List.forall_mem_cons.mp h
    rw [List.flatMap_cons, List.cons_append, cutAt_append hpiece, ih hrest]

theorem cutAt_unlines {ls : List String} (hne : ls ≠ []) (h : ∀ l ∈ ls, OneLine l) :
    cutAt '\n' (unlines ls).toList = ls.map String.toList := by
  obtain ⟨l, rest, rfl⟩ := List.exists_cons_of_ne_nil hne
  have htext : (unlines (l :: rest)).toList = l.toList ++ (rest.map String.toList).flatMap ('\n' :: ·) :=
    toList_joinWith_cons '\n' l rest
  have hlines : ∀ p ∈ (l :: rest).map String.toList, '\n' ∉ p := List.forall_mem_map.mpr h
  rw [htext]
  exact cutAt_append_flatMap hlines

theorem lines_unlines {ls : List String} (hne : ls ≠ []) (h : ∀ l ∈ ls, OneLine l) :
    lines (unlines ls) = ls := by
  rw [lines, cutAt_unlines hne h, List.map_map]
  simp [Function.comp_def]

theorem unlines_cons (s : String) (ss : List String) :
    unlines (s :: ss) = s ++ String.join (ss.map ("\n" ++ ·)) := joinWith_cons "\n" s ss

theorem unlines_map_cutAt (cs : List Char) :
    unlines ((cutAt '\n' cs).map String.ofList) = String.ofList cs := by
  induction cs with
  | nil => rfl
  | cons c cs ih =>
    obtain ⟨piece, pieces, hcut⟩ := List.exists_cons_of_ne_nil (cutAt_ne_nil '\n' cs)
    rw [hcut, List.map_cons, unlines_cons] at ih
    have hcons : String.ofList (c :: cs) = String.singleton c ++ String.ofList cs := by
      apply String.toList_injective
      simp
    rw [cutAt, hcut, hcons, ← ih]
    split
    · next hsep =>
      rw [List.map_cons, List.map_cons, unlines_cons, List.map_cons, String.join_cons, hsep]
      apply String.toList_injective
      simp
    · rw [List.map_cons, unlines_cons, ← String.append_assoc]
      congr 1
      apply String.toList_injective
      simp

theorem unlines_lines (text : String) : unlines (lines text) = text := by
  rw [lines, unlines_map_cutAt, String.ofList_toList]

def indented (unit text : String) : String :=
  unlines ((lines text).map fun l => if l = "" then "" else unit ++ l)

end RealmModels.Text
