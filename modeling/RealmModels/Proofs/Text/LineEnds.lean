import Mathlib
import RealmModels.Proofs.Text.Ends
import RealmModels.Proofs.Text.OneLine

namespace RealmModels.Text

def physicalLines (cs : List Char) : List (List Char) := cutAt '\n' (unifyLineEnds cs)

def inkedLines (ls : List (List Char)) : List (List Char) := (ls.map trim).filter (!·.isEmpty)

variable {sep c : Char} {cs l : List Char} {ls : List (List Char)}

theorem unifyLineEnds_of_not_mem (h : '\r' ∉ cs) : unifyLineEnds cs = cs := by
  induction cs with
  | nil => rfl
  | cons c cs ih =>
    rw [List.mem_cons, not_or] at h
    rw [unifyLineEnds, ih h.2]
    · exact fun _ hc _ => h.1 hc.symm
    · exact fun hc => h.1 hc.symm

theorem inkedLines_append (ls ms : List (List Char)) :
    inkedLines (ls ++ ms) = inkedLines ls ++ inkedLines ms := by
  simp [inkedLines]

theorem inkedLines_cons (l : List Char) (ls : List (List Char)) :
    inkedLines (l :: ls) = inkedLines [l] ++ inkedLines ls := inkedLines_append [l] ls

theorem inkedLines_flatMap {α : Type} (f : α → List (List Char)) (as : List α) :
    inkedLines (as.flatMap f) = as.flatMap fun a => inkedLines (f a) := by
  simp [inkedLines, List.map_flatMap, List.filter_flatMap]

@[simp] theorem inkedLines_nil_cons (ls : List (List Char)) : inkedLines ([] :: ls) = inkedLines ls := rfl

theorem exists_of_mem_inkedLines (h : l ∈ inkedLines ls) : l ≠ [] ∧ ∃ m ∈ ls, trim m = l := by
  obtain ⟨hl, hne⟩ := List.mem_filter.mp h
  exact ⟨by simpa using hne, List.mem_map.mp hl⟩

theorem forall_mem_inkedLines :
    (∀ l ∈ inkedLines ls, c ∉ l) ↔ ∀ l ∈ ls, c ∉ trim l := by
  constructor
  · intro h l hl
    by_cases hempty : trim l = []
    · rw [hempty]
      exact List.not_mem_nil
    · exact h _ (List.mem_filter.mpr ⟨List.mem_map_of_mem hl, by simpa using hempty⟩)
  · intro h l hl
    obtain ⟨-, m, hm, rfl⟩ := exists_of_mem_inkedLines hl
    exact h m hm

theorem exists_physicalLines (cs : List Char) :
    ∃ first ls ms, physicalLines cs = first :: ls ∧
      (cutAt '\n' cs).flatMap (cutAt '\r') = first :: ms ∧ inkedLines ls = inkedLines ms := by
  rw [physicalLines]
  fun_induction unifyLineEnds cs with
  | case1 cs ih =>
    obtain ⟨first, ls, ms, hphysical, hcut, hinked⟩ := ih
    -- the line feed ends an empty line if it is not read together with the carriage return
    refine ⟨[], first :: ls, [] :: first :: ms, ?_, ?_, ?_⟩
    · simp [cutAt, hphysical]
    · simp [cutAt, hcut]
    · rw [inkedLines_nil_cons, inkedLines_cons, hinked, ← inkedLines_cons]
  | case2 cs hnext ih =>
    obtain ⟨first, ls, ms, hphysical, hcut, hinked⟩ := ih
    obtain ⟨line, lines, hlines⟩ := List.exists_cons_of_ne_nil (cutAt_ne_nil '\n' cs)
    refine ⟨[], first :: ls, first :: ms, ?_, ?_, ?_⟩
    · simp [cutAt, hphysical]
    · rw [cutAt_cons_of_ne (by decide) hlines, ← hcut, hlines]
      simp [cutAt]
    · rw [inkedLines_cons, hinked, ← inkedLines_cons]
  | case3 c cs hpair hreturn ih =>
    obtain ⟨first, ls, ms, hphysical, hcut, hinked⟩ := ih
    by_cases hc : c = '\n'
    · refine ⟨[], first :: ls, first :: ms, ?_, ?_, ?_⟩
      · simp [cutAt, hc, hphysical]
      · simp [cutAt, hc, hcut]
      · rw [inkedLines_cons, hinked, ← inkedLines_cons]
    · obtain ⟨line, lines, hlines⟩ := List.exists_cons_of_ne_nil (cutAt_ne_nil '\n' cs)
      obtain ⟨piece, pieces, hpieces⟩ := List.exists_cons_of_ne_nil (cutAt_ne_nil '\r' line)
      rw [hlines, List.flatMap_cons, hpieces, List.cons_append, List.cons.injEq] at hcut
      obtain ⟨rfl, rfl⟩ := hcut
      refine ⟨c :: piece, ls, _, cutAt_cons_of_ne hc hphysical, ?_, hinked⟩
      rw [cutAt_cons_of_ne hc hlines, List.flatMap_cons, cutAt_cons_of_ne hreturn hpieces]
      rfl
  | case4 => exact ⟨[], [], [], rfl, rfl, rfl⟩

theorem inkedLines_physicalLines (cs : List Char) :
    inkedLines (physicalLines cs) = (cutAt '\n' cs).flatMap fun l => inkedLines (cutAt '\r' l) := by
  obtain ⟨first, ls, ms, hphysical, hcut, hinked⟩ := exists_physicalLines cs
  rw [hphysical, inkedLines_cons, hinked, ← inkedLines_cons, ← hcut, inkedLines_flatMap]

theorem inkedLines_cutAt_cons (hc : isBlank c = true) (cs : List Char) :
    inkedLines (cutAt sep (c :: cs)) = inkedLines (cutAt sep cs) := by
  by_cases hsep : c = sep
  · simp [cutAt, hsep]
  · obtain ⟨first, rest, hcut⟩ := List.exists_cons_of_ne_nil (cutAt_ne_nil sep cs)
    rw [cutAt_cons_of_ne hsep hcut, hcut]
    simp [inkedLines, trim_cons hc]

theorem inkedLines_cutAt_concat (hc : isBlank c = true) (cs : List Char) :
    inkedLines (cutAt sep (cs ++ [c])) = inkedLines (cutAt sep cs) := by
  by_cases hsep : c = sep
  · rw [hsep, cutAt_append_cons, inkedLines_append]
    exact List.append_nil _
  · obtain ⟨front, last, hcut, hconcat⟩ := exists_cutAt_concat hsep cs
    rw [hcut, hconcat]
    simp [inkedLines, trim_concat hc]

theorem inkedLines_cutAt_trim (sep : Char) (cs : List Char) :
    inkedLines (cutAt sep (trim cs)) = inkedLines (cutAt sep cs) := by
  have hstart : inkedLines (cutAt sep (cs.dropWhile isBlank)) = inkedLines (cutAt sep cs) := by
    induction cs with
    | nil => rfl
    | cons c cs ih =>
      rw [List.dropWhile_cons]
      split
      · next hc => rw [ih, inkedLines_cutAt_cons hc]
      · rfl
  rw [← hstart, trim, stripEnds]
  generalize cs.dropWhile isBlank = ds
  induction ds using List.reverseRecOn with
  | nil => rfl
  | append_singleton ds d ih =>
    by_cases hd : isBlank d = true
    · rw [dropEndWhile_concat hd, ih, inkedLines_cutAt_concat hd]
    · rw [dropEndWhile_append (by simpa using hd)]

theorem inkedLines_physicalLines_eq_flatMap (cs : List Char) :
    inkedLines (physicalLines cs) =
      (inkedLines (cutAt '\n' cs)).flatMap fun l => inkedLines (cutAt '\r' l) := by
  rw [inkedLines_physicalLines]
  generalize cutAt '\n' cs = ls
  induction ls with
  | nil => rfl
  | cons l ls ih =>
    rw [inkedLines_cons, List.flatMap_append, ← ih, List.flatMap_cons, ← inkedLines_cutAt_trim]
    cases htrim : trim l with
    | nil =>
      simp [inkedLines, htrim, cutAt]
      rfl
    | cons c cs => simp [inkedLines, htrim]

theorem inkedLines_physicalLines_of_not_mem (h : ∀ l ∈ inkedLines (cutAt '\n' cs), '\r' ∉ l) :
    inkedLines (physicalLines cs) = inkedLines (cutAt '\n' cs) := by
  have hself : ∀ l ∈ inkedLines (cutAt '\n' cs), inkedLines (cutAt '\r' l) = [l] := by
    intro l hl
    have hcut := cutAt_of_not_mem (h l hl)
    obtain ⟨hne, m, -, rfl⟩ := exists_of_mem_inkedLines hl
    simp [inkedLines, hcut, trim_trim, hne]
  rw [inkedLines_physicalLines_eq_flatMap, List.flatMap_congr hself, List.flatMap_singleton']

theorem countP_unifyLineEnds (cs : List Char) :
    (unifyLineEnds cs).countP isInk = cs.countP isInk := by
  fun_induction unifyLineEnds cs with
  | case1 cs ih => simp [ih, isInk, isBlank]
  | case2 cs hnext ih => simp [ih, isInk, isBlank]
  | case3 c cs hpair hreturn ih => simp [List.countP_cons, ih]
  | case4 => rfl

theorem countP_cutAt (hsep : isBlank sep = true) (cs : List Char) :
    (cutAt sep cs).flatten.countP isInk = cs.countP isInk := by
  rw [flatten_cutAt, List.countP_filter]
  apply List.countP_congr
  intro c _
  by_cases hc : c = sep
  · simp [hc, isInk, hsep]
  · simp [hc]

theorem countP_inkedLines (ls : List (List Char)) :
    (inkedLines ls).flatten.countP isInk = ls.flatten.countP isInk := by
  rw [inkedLines, List.flatten_filter_not_isEmpty]
  induction ls with
  | nil => rfl
  | cons l ls ih => simp only [List.map_cons, List.flatten_cons, List.countP_append, countP_trim, ih]

theorem countP_physicalLines (cs : List Char) :
    (physicalLines cs).flatten.countP isInk = cs.countP isInk := by
  rw [physicalLines, countP_cutAt rfl, countP_unifyLineEnds]

theorem length_pos_inkedLines_cutAt (hsep : isBlank sep = true) (hc : c ∈ cs) (hink : isInk c = true) :
    0 < (inkedLines (cutAt sep cs)).length := by
  rw [List.length_pos_iff]
  intro hnil
  have hcount := countP_inkedLines (cutAt sep cs)
  rw [hnil, countP_cutAt hsep] at hcount
  have hpos : 0 < cs.countP isInk := List.countP_pos_iff.mpr ⟨c, hc, hink⟩
  exact absurd hcount hpos.ne

theorem length_pos_cut_inked (hl : l ∈ inkedLines ls) : 0 < (inkedLines (cutAt '\r' l)).length := by
  obtain ⟨hne, m, -, rfl⟩ := exists_of_mem_inkedLines hl
  exact length_pos_inkedLines_cutAt rfl (List.head_mem hne)
    (isInk_of_head?_trim (List.head?_eq_some_head hne))

theorem two_le_length_cut_inked (hl : l ∈ inkedLines ls) (hreturn : '\r' ∈ l) :
    2 ≤ (inkedLines (cutAt '\r' l)).length := by
  obtain ⟨-, m, -, rfl⟩ := exists_of_mem_inkedLines hl
  obtain ⟨front, back, hcut⟩ := List.append_of_mem hreturn
  have hreturn : isInk '\r' ≠ true := by decide
  have hfront : 0 < (inkedLines (cutAt '\r' front)).length := by
    cases front with
    | nil => exact absurd (isInk_of_head?_trim (congrArg List.head? hcut)) hreturn
    | cons c front =>
      exact length_pos_inkedLines_cutAt rfl List.mem_cons_self
        (isInk_of_head?_trim (congrArg List.head? hcut))
  have hback : 0 < (inkedLines (cutAt '\r' back)).length := by
    rcases List.eq_nil_or_concat' back with rfl | ⟨back, c, rfl⟩
    · have hlast : (trim m).getLast? = some '\r' := by rw [hcut, List.getLast?_concat]
      exact absurd (isInk_of_getLast?_trim hlast) hreturn
    · have hlast : (trim m).getLast? = some c := by
        rw [hcut, ← List.cons_append, ← List.append_assoc, List.getLast?_concat]
      exact length_pos_inkedLines_cutAt rfl List.mem_concat_self (isInk_of_getLast?_trim hlast)
  rw [hcut, cutAt_append_cons, inkedLines_append, List.length_append]
  omega

theorem length_inkedLines_le (cs : List Char) :
    (inkedLines (cutAt '\n' cs)).length ≤ (inkedLines (physicalLines cs)).length := by
  rw [inkedLines_physicalLines_eq_flatMap, List.length_flatMap]
  rw [← List.length_map fun l => (inkedLines (cutAt '\r' l)).length]
  refine List.length_le_sum_of_one_le _ ?_
  rw [List.forall_mem_map]
  exact fun l hl => length_pos_cut_inked hl

theorem length_inkedLines_lt (hl : l ∈ inkedLines (cutAt '\n' cs)) (hreturn : '\r' ∈ l) :
    (inkedLines (cutAt '\n' cs)).length < (inkedLines (physicalLines cs)).length := by
  rw [inkedLines_physicalLines_eq_flatMap, List.length_flatMap]
  have hsum := List.sum_lt_sum (l := inkedLines (cutAt '\n' cs)) (fun _ => 1)
    (fun l => (inkedLines (cutAt '\r' l)).length) (fun l hl => length_pos_cut_inked hl)
    ⟨l, hl, two_le_length_cut_inked hl hreturn⟩
  simpa using hsum

end RealmModels.Text
