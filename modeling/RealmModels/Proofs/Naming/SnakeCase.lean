import Mathlib
import RealmModels.Proofs.Naming.Words

namespace RealmModels.Naming

open Text

variable {cs ds w : List Char} {ws : List (List Char)}

/-- A text in snake case: no capitals and no hyphens, and underscores only one by one and between
other characters. -/
structure IsSnake (cs : List Char) : Prop where
  letters : ∀ c ∈ cs, isAscii c = true ∧ c.isUpper = false ∧ c ≠ '-'
  apart : cs.IsChain fun a b => a ≠ '_' ∨ b ≠ '_'
  start : ∀ c ∈ cs.head?, c ≠ '_'
  finish : ∀ c ∈ cs.getLast?, c ≠ '_'

def IsSmall (cs : List Char) : Prop := ∀ c ∈ cs, isAscii c = true ∧ c.isUpper = false

def CapitalsApart (cs : List Char) : Prop :=
  cs.IsChain fun a b => a.isUpper = false ∨ b.isUpper = false

theorem IsSmall.isAscii (h : IsSmall cs) : IsAscii cs := fun c hc => (h c hc).1

theorem IsSmall.map_toLower (h : IsSmall cs) : cs.map Char.toLower = cs :=
  (List.map_congr_left fun c hc => Char.toLower_eq_of_not_isUpper (by simp [(h c hc).2])).trans
    (List.map_id' _)

theorem IsSmall.lower (h : IsSmall cs) : lower cs = cs := by
  rw [lower_of_isAscii h.isAscii, h.map_toLower]

theorem IsSmall.capitalsApart (h : IsSmall cs) : CapitalsApart cs :=
  (List.pairwise_of_forall_mem_list fun a ha _ _ => .inl (h a ha).2).isChain

theorem IsSnake.isSmall (h : IsSnake cs) : IsSmall cs := fun c hc => (h.letters c hc).imp_right And.left

theorem splitAcronyms_eq_self (h : CapitalsApart cs) : splitAcronyms cs = cs := by
  fun_induction splitAcronyms cs with
  | case1 a b c rest hcut ih =>
    have hab := (List.isChain_cons_cons.mp h).1
    simp_all
  | case2 a b c rest hcut ih => rw [ih (List.isChain_cons_cons.mp h).2]
  | case3 cs hshort => rfl

theorem splitHumps_eq_self (h : IsSmall cs) : splitHumps cs = cs := by
  fun_induction splitHumps cs with
  | case1 a b rest hcut ih => simp_all [IsSmall]
  | case2 a b rest hcut ih => rw [ih (List.forall_mem_cons.mp h).2]
  | case3 cs hshort => rfl

theorem squeeze_eq_self (h : cs.IsChain fun a b => a ≠ '_' ∨ b ≠ '_') : squeeze cs = cs := by
  fun_induction squeeze cs with
  | case1 a b rest hrun ih =>
    have hab := (List.isChain_cons_cons.mp h).1
    simp_all
  | case2 a b rest hrun ih => rw [ih (List.isChain_cons_cons.mp h).2]
  | case3 cs hshort => rfl

theorem head?_squeeze (cs : List Char) : (squeeze cs).head? = cs.head? := by
  fun_induction squeeze cs with
  | case1 a b rest hrun ih => rw [ih, List.head?_cons, List.head?_cons, hrun.1, hrun.2]
  | case2 a b rest hrun ih => rfl
  | case3 cs hshort => rfl

theorem isChain_squeeze (cs : List Char) : (squeeze cs).IsChain fun a b => a ≠ '_' ∨ b ≠ '_' := by
  fun_induction squeeze cs with
  | case1 a b rest hrun ih => exact ih
  | case2 a b rest hrun ih =>
    refine List.isChain_cons.mpr ⟨fun c hc => ?_, ih⟩
    rw [head?_squeeze, List.head?_cons] at hc
    obtain rfl := Option.some.inj hc
    exact not_and_or.mp hrun
  | case3 cs hshort =>
    cases cs with
    | nil => exact .nil
    | cons a cs =>
      cases cs with
      | nil => exact .singleton a
      | cons b rest => exact absurd rfl (hshort a b rest)

theorem cut_eq_splitHumps (hhyphen : ∀ c ∈ cs, c ≠ '-') (h : CapitalsApart cs) :
    cut cs = splitHumps cs := by
  have hhyphenless : (cs.map fun c => if c = '-' then '_' else c) = cs :=
    (List.map_congr_left fun c hc => if_neg (hhyphen c hc)).trans (List.map_id' _)
  rw [cut, hhyphenless, splitAcronyms_eq_self h]

theorem snake_eq_of_lower_cut (hds : IsSnake ds) (hcut : lower (cut cs) = ds) : snake cs = ds := by
  rw [snake_eq, hcut, squeeze_eq_self hds.apart]
  apply stripEnds_of_ends
  · simpa using hds.start
  · simpa using hds.finish

theorem snake_of_isSnake (h : IsSnake cs) : snake cs = cs := by
  apply snake_eq_of_lower_cut h
  rw [cut_eq_splitHumps (fun c hc => (h.letters c hc).2.2) h.isSmall.capitalsApart,
    splitHumps_eq_self h.isSmall, h.isSmall.lower]

theorem isSnake_snake (h : IsAscii cs) : IsSnake (snake cs) := by
  constructor
  · intro c hc
    obtain ⟨d, hd, rfl⟩ := mem_snake h hc
    have hascii : isAscii d = true := h.cut d hd
    refine ⟨isAscii_toLower hascii, Char.isUpper_toLower_eq_false d, ?_⟩
    rw [Ne, toLower_eq_hyphen_iff hascii]
    rcases mem_cut hd with rfl | ⟨-, hne⟩
    · decide
    · exact hne
  · obtain ⟨front, back, hsqueeze⟩ := isInfix_stripEnds (· == '_') (squeeze (lower (cut cs)))
    have hchain := isChain_squeeze (lower (cut cs))
    rw [← hsqueeze] at hchain
    exact hchain.left_of_append.right_of_append
  · intro c hc
    simpa using not_of_head?_stripEnds hc
  · intro c hc
    simpa using not_of_getLast?_dropEndWhile hc

theorem snake_snake (h : IsAscii cs) : snake (snake cs) = snake cs :=
  snake_of_isSnake (isSnake_snake h)

theorem words_snake (h : IsAscii cs) : words (snake cs) = words cs := by
  rw [words, words, snake_snake h]

theorem words_ne_nil (h : IsAscii cs) (hne : snake cs ≠ []) : words cs ≠ [] := by
  obtain ⟨c, rest, hsnake⟩ := List.exists_cons_of_ne_nil hne
  have hstart : c ≠ '_' := (isSnake_snake h).start c (by rw [hsnake, List.head?_cons]; rfl)
  intro hwords
  have hflat := flatten_words_eq_filter cs
  rw [hwords, hsnake, List.filter_cons_of_pos (by simpa using hstart)] at hflat
  cases hflat

theorem camel_snake (h : IsAscii cs) (hne : snake cs ≠ []) : camel (snake cs) = camel cs := by
  obtain ⟨w, ws, hwords⟩ := List.exists_cons_of_ne_nil (words_ne_nil h hne)
  rw [camel, camel, words_snake h, hwords]

theorem pascal_snake (h : IsAscii cs) : pascal (snake cs) = pascal cs := by
  rw [pascal, pascal, words_snake h]

theorem isSmall_of_mem_words (h : IsAscii cs) (hw : w ∈ words cs) : IsSmall w :=
  fun c hc => (isSnake_snake h).isSmall c (mem_of_mem_cutAt (List.mem_filter.mp hw).1 c hc)

theorem map_toLower_capitalize (h : IsSmall w) : (capitalize w).map Char.toLower = w := by
  cases w with
  | nil => rfl
  | cons c cs =>
    have hlower : Char.toLower ∘ Char.toLower = Char.toLower :=
      funext Char.toLower_toLower_eq_toLower
    rw [capitalize_of_isAscii h.isAscii, List.map_cons, List.map_map, Char.toLower_toUpper_eq_toLower,
      hlower, ← List.map_cons, h.map_toLower]

theorem lower_flatMap_capitalize (h : ∀ w ∈ ws, IsSmall w) :
    IsAscii (ws.flatMap capitalize) ∧ lower (ws.flatMap capitalize) = ws.flatten := by
  have hascii : IsAscii (ws.flatMap capitalize) := by
    intro c hc
    obtain ⟨w, hw, hc⟩ := List.mem_flatMap.mp hc
    exact (h w hw).isAscii.capitalize c hc
  refine ⟨hascii, ?_⟩
  rw [lower_of_isAscii hascii, List.map_flatMap, ← List.flatMap_id]
  exact List.flatMap_congr fun w hw => map_toLower_capitalize (h w hw)

theorem lower_append (hcs : IsAscii cs) (hds : IsAscii ds) :
    lower (cs ++ ds) = lower cs ++ lower ds := by
  have happend : IsAscii (cs ++ ds) := fun c hc => (List.mem_append.mp hc).elim (hcs c) (hds c)
  rw [lower_of_isAscii happend, lower_of_isAscii hcs, lower_of_isAscii hds, List.map_append]

theorem lower_pascal (h : IsAscii cs) : lower (pascal cs) = (snake cs).filter (· ≠ '_') := by
  rw [← flatten_words_eq_filter]
  exact (lower_flatMap_capitalize fun w hw => isSmall_of_mem_words h hw).2

theorem lower_camel (h : IsAscii cs) (hne : snake cs ≠ []) :
    lower (camel cs) = (snake cs).filter (· ≠ '_') := by
  obtain ⟨w, ws, hwords⟩ := List.exists_cons_of_ne_nil (words_ne_nil h hne)
  have hsmall : ∀ v ∈ w :: ws, IsSmall v := fun v hv => isSmall_of_mem_words h (hwords ▸ hv)
  obtain ⟨hw, hws⟩ := List.forall_mem_cons.mp hsmall
  obtain ⟨hascii, hlower⟩ := lower_flatMap_capitalize hws
  rw [← flatten_words_eq_filter, camel, hwords, List.flatten_cons]
  change lower (w ++ ws.flatMap capitalize) = w ++ ws.flatten
  rw [lower_append hw.isAscii hascii, hw.lower, hlower]

theorem filter_lower (h : IsAscii cs) :
    (lower cs).filter isInWord = (cs.filter isInWord).map Char.toLower := by
  rw [lower_of_isAscii h, List.filter_map]
  congr 1
  apply List.filter_congr
  intro c hc
  exact isInWord_toLower (h c hc)

theorem snake_ne_nil {s : String} (h : convert .snake s ≠ "") : snake s.toList ≠ [] := by
  intro hnil
  apply h
  rw [convert, hnil]

theorem filter_lower_eq_lower_camel {s : String} (hs : IsAscii s.toList) (h : convert .snake s ≠ "") :
    (lower s.toList).filter isInWord = lower (convert .camel s).toList := by
  rw [toList_convert_camel, lower_camel hs (snake_ne_nil h), filter_snake hs, filter_lower hs]

/-- The snake case of a name is in snake case and has its letters, and both have the same names in
the other styles, unless there are no words at all. Hence names that are the same in camel case differ
in the case of letters and in separators at most. -/
theorem snake_is_canonical {s t : String} (hs : IsAscii s.toList) (ht : convert .snake s = t) :
    IsSnake t.toList ∧ convert .snake t = t ∧
    t.toList.filter (· ≠ '_') = (lower s.toList).filter isInWord ∧
    (t ≠ "" → convert .camel s = convert .camel t ∧ convert .pascal s = convert .pascal t ∧
      lower (convert .camel s).toList = t.toList.filter (· ≠ '_') ∧
      lower (convert .pascal s).toList = t.toList.filter (· ≠ '_')) ∧
    ∀ r : String, IsAscii r.toList → t ≠ "" → convert .snake r ≠ "" →
      convert .camel r = convert .camel s →
      (lower r.toList).filter isInWord = (lower s.toList).filter isInWord := by
  subst ht
  refine ⟨?_, ?_, ?_, fun hne => ⟨?_, ?_, ?_, ?_⟩, fun r hr hne hne' hsame => ?_⟩
  · rw [toList_convert_snake]
    exact isSnake_snake hs
  · apply String.toList_injective
    simp only [toList_convert_snake, snake_snake hs]
  · rw [toList_convert_snake, filter_snake hs, filter_lower hs]
  · apply String.toList_injective
    simp only [toList_convert_camel, toList_convert_snake, camel_snake hs (snake_ne_nil hne)]
  · apply String.toList_injective
    simp only [toList_convert_pascal, toList_convert_snake, pascal_snake hs]
  · rw [toList_convert_camel, toList_convert_snake, lower_camel hs (snake_ne_nil hne)]
  · rw [toList_convert_pascal, toList_convert_snake, lower_pascal hs]
  · rw [filter_lower_eq_lower_camel hr hne', filter_lower_eq_lower_camel hs hne, hsame]

theorem server_snake_is_canonical :
    convert .snake "_HTTPServer-_id2" = "http_server_id2" ∧
    IsSnake "http_server_id2".toList ∧
    convert .snake "http_server_id2" = "http_server_id2" ∧
    convert .camel "_HTTPServer-_id2" = convert .camel "http_server_id2" ∧
    convert .pascal "_HTTPServer-_id2" = convert .pascal "http_server_id2" ∧
    convert .camel "httpServerID2" = convert .camel "_HTTPServer-_id2" ∧
    (lower "httpServerID2".toList).filter isInWord =
      (lower "_HTTPServer-_id2".toList).filter isInWord := by
  have hsnake : convert .snake "_HTTPServer-_id2" = "http_server_id2" := by decide
  have hsame : convert .camel "httpServerID2" = convert .camel "_HTTPServer-_id2" := by decide
  obtain ⟨hform, hself, -, hstyles, hletters⟩ := snake_is_canonical (by decide) hsnake
  obtain ⟨hcamel, hpascal, -, -⟩ := hstyles (by decide)
  exact ⟨hsnake, hform, hself, hcamel, hpascal, hsame,
    hletters _ (by decide) (by decide) (by decide) hsame⟩

end RealmModels.Naming
