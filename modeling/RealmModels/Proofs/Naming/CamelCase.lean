import Mathlib
import RealmModels.Proofs.Naming.SnakeCase

/-!
Camel case of words that snake case keeps apart. Every word but the first begins with a capital and
goes on with small letters and digits, so that the words are cut again where they were put together.
-/

namespace RealmModels.Naming

open Text

variable {c : Char} {cs ds w : List Char} {ws : List (List Char)}

def isWordLetter (c : Char) : Bool := c.isLower || c.isDigit

def IsWord (w : List Char) : Prop := w ≠ [] ∧ ∀ c ∈ w, isWordLetter c = true

/-- A word that shows where it begins by a capital: there is one for its first character, and others
come behind it. -/
structure IsHump (w : List Char) : Prop where
  word : IsWord w
  start : w.head?.any Char.isLower = true
  length : 2 ≤ w.length

instance (w : List Char) : Decidable (IsWord w) :=
  decidable_of_iff (w ≠ [] ∧ w.all isWordLetter = true) (by simp [IsWord])

instance (w : List Char) : Decidable (IsHump w) :=
  decidable_of_iff (IsWord w ∧ w.head?.any Char.isLower = true ∧ 2 ≤ w.length)
    ⟨fun h => ⟨h.1, h.2.1, h.2.2⟩, fun h => ⟨h.word, h.start, h.length⟩⟩

def IsPhrase : List String → Prop
  | [] => False
  | w :: ws => IsWord w.toList ∧ ∀ v ∈ ws, IsHump v.toList

instance : (ts : List String) → Decidable (IsPhrase ts)
  | [] => .isFalse id
  | t :: ts =>
    have : Decidable (∀ u ∈ ts, IsHump u.toList) := List.decidableBAll _ ts
    inferInstanceAs (Decidable (IsWord t.toList ∧ ∀ u ∈ ts, IsHump u.toList))

def underscoredWords (w : List Char) (ws : List (List Char)) : List Char :=
  w ++ ws.flatMap ('_' :: ·)

theorem isAlphanum_of_isWordLetter (h : isWordLetter c = true) : c.isAlphanum = true := by
  simp only [isWordLetter, Bool.or_eq_true] at h
  rcases h with h | h <;> simp [Char.isAlphanum, Char.isAlpha, h]

theorem isWordLetter_cases (h : isWordLetter c = true) :
    isAscii c = true ∧ c.isUpper = false ∧ c ≠ '-' ∧ c ≠ '_' := by
  have hname : isNameChar c = true := by simp [isNameChar, isAlphanum_of_isWordLetter h]
  refine ⟨isAscii_of_isNameChar hname, ?_⟩
  exact of_ascii (P := fun c => isWordLetter c = true → c.isUpper = false ∧ c ≠ '-' ∧ c ≠ '_')
    (by decide) hname h

theorem IsWord.isAlphanum (h : IsWord w) : ∀ c ∈ w, c.isAlphanum = true :=
  fun c hc => isAlphanum_of_isWordLetter (h.2 c hc)

theorem IsWord.isSmall (h : IsWord w) : IsSmall w :=
  fun c hc => (isWordLetter_cases (h.2 c hc)).imp_right And.left

theorem IsWord.isSnake (h : IsWord w) : IsSnake w := by
  have hletters : ∀ c ∈ w, isAscii c = true ∧ c.isUpper = false ∧ c ≠ '-' ∧ c ≠ '_' :=
    fun c hc => isWordLetter_cases (h.2 c hc)
  constructor
  · exact fun c hc => ⟨(hletters c hc).1, (hletters c hc).2.1, (hletters c hc).2.2.1⟩
  · exact (List.pairwise_of_forall_mem_list fun a ha _ _ => .inl (hletters a ha).2.2.2).isChain
  · exact fun c hc => (hletters c (List.mem_of_mem_head? hc)).2.2.2
  · exact fun c hc => (hletters c (List.mem_of_mem_getLast? hc)).2.2.2

theorem IsSnake.join (hcs : IsSnake cs) (hds : IsSnake ds) (hne : cs ≠ []) (hne' : ds ≠ []) :
    IsSnake (cs ++ '_' :: ds) := by
  constructor
  · intro c hc
    rcases List.mem_append.mp hc with hc | hc
    · exact hcs.letters c hc
    · rcases List.mem_cons.mp hc with rfl | hc
      · decide
      · exact hds.letters c hc
  · refine List.isChain_append.mpr ⟨hcs.apart, ?_, fun a ha _ _ => .inl (hcs.finish a ha)⟩
    exact List.isChain_cons.mpr ⟨fun b hb => .inr (hds.start b hb), hds.apart⟩
  · rw [List.head?_append_of_ne_nil _ hne]
    exact hcs.start
  · obtain ⟨d, rest, rfl⟩ := List.exists_cons_of_ne_nil hne'
    rw [List.getLast?_append_cons, List.getLast?_cons_cons]
    exact hds.finish

theorem isSnake_underscoredWords (hw : IsWord w) (hws : ∀ v ∈ ws, IsWord v) :
    IsSnake (underscoredWords w ws) := by
  induction ws generalizing w with
  | nil => simpa [underscoredWords] using hw.isSnake
  | cons v ws ih =>
    obtain ⟨hv, hrest⟩ := List.forall_mem_cons.mp hws
    have hjoin : underscoredWords w (v :: ws) = w ++ '_' :: underscoredWords v ws := rfl
    rw [hjoin]
    exact hw.isSnake.join (ih hv hrest) hw.1 (List.append_ne_nil_of_left_ne_nil hv.1 _)

theorem words_of_snake_eq (hw : IsWord w) (hws : ∀ v ∈ ws, IsWord v)
    (h : snake cs = underscoredWords w ws) : words cs = w :: ws := by
  have hall : ∀ v ∈ w :: ws, IsWord v := List.forall_mem_cons.mpr ⟨hw, hws⟩
  have hpieces : ∀ v ∈ w :: ws, '_' ∉ v :=
    fun v hv hmem => (isWordLetter_cases ((hall v hv).2 '_' hmem)).2.2.2 rfl
  rw [words, h, underscoredWords, cutAt_append_flatMap hpieces, List.filter_eq_self]
  intro v hv
  simpa using (hall v hv).1

theorem IsHump.exists_capital (h : IsHump w) :
    ∃ c tail, capitalize w = c :: tail ∧ w = c.toLower :: tail ∧ c.isUpper = true ∧ IsWord tail := by
  obtain ⟨a, tail, rfl⟩ := List.exists_cons_of_ne_nil h.word.1
  obtain ⟨ha, htail⟩ := List.forall_mem_cons.mp h.word.2
  have hword : IsWord tail := ⟨List.length_pos_iff.mp (Nat.lt_of_succ_lt_succ h.length), htail⟩
  obtain ⟨hasmall, htailsmall⟩ := List.forall_mem_cons.mp h.word.isSmall
  have htailsmall : IsSmall tail := htailsmall
  have hlower : a.isLower = true := h.start
  have hletter : a.isAlpha = true := by simp [Char.isAlpha, hlower]
  refine ⟨a.toUpper, tail, ?_, ?_, ?_, hword⟩
  · rw [capitalize_of_isAscii h.word.isSmall.isAscii, htailsmall.map_toLower]
  · rw [Char.toLower_toUpper_eq_toLower, Char.toLower_eq_of_not_isUpper (by simp [hasmall.2])]
  · rw [Char.isUpper_toUpper_eq_isAlpha, hletter]

theorem splitHumps_cons_cons (a b : Char) (cs : List Char) :
    splitHumps (a :: b :: cs) =
      if isWordLetter a && b.isUpper then a :: '_' :: splitHumps (b :: cs)
      else a :: splitHumps (b :: cs) := by
  rw [splitHumps]
  rfl

theorem splitHumps_append (hw : IsWord w) (hc : c.isUpper = true) :
    splitHumps (w ++ c :: cs) = w ++ '_' :: splitHumps (c :: cs) := by
  obtain ⟨hne, hletters⟩ := hw
  induction w with
  | nil => exact absurd rfl hne
  | cons a w ih =>
    obtain ⟨ha, hrest⟩ := List.forall_mem_cons.mp hletters
    cases w with
    | nil =>
      rw [List.singleton_append, splitHumps_cons_cons, if_pos (by rw [ha, hc]; rfl)]
      rfl
    | cons b w =>
      have hb : b.isUpper = false := (isWordLetter_cases (hrest b List.mem_cons_self)).2.1
      rw [List.cons_append, List.cons_append, splitHumps_cons_cons, if_neg (by simp [hb]),
        ← List.cons_append, ih (List.cons_ne_nil _ _) hrest]
      rfl

theorem splitHumps_cons (hc : c.isUpper = true) (cs : List Char) :
    splitHumps (c :: cs) = c :: splitHumps cs := by
  cases cs with
  | nil => rfl
  | cons d cs =>
    have hsmall : isWordLetter c ≠ true := fun h => by
      rw [(isWordLetter_cases h).2.1] at hc
      cases hc
    rw [splitHumps_cons_cons, if_neg (by simp [hsmall])]

theorem splitHumps_flatMap_capitalize (hw : IsWord w) (hws : ∀ v ∈ ws, IsHump v) :
    splitHumps (w ++ ws.flatMap capitalize) = w ++ ws.flatMap ('_' :: capitalize ·) := by
  induction ws generalizing w with
  | nil => simpa using splitHumps_eq_self hw.isSmall
  | cons v ws ih =>
    obtain ⟨hv, hrest⟩ := List.forall_mem_cons.mp hws
    obtain ⟨c, tail, hcapital, -, hc, htail⟩ := hv.exists_capital
    rw [List.flatMap_cons, List.flatMap_cons, hcapital, List.cons_append, splitHumps_append hw hc,
      splitHumps_cons hc, ih htail hrest]
    rfl

theorem IsWord.capitalsApart_cons (hw : IsWord w) (c : Char) (h : CapitalsApart (w ++ cs)) :
    CapitalsApart (c :: (w ++ cs)) := by
  refine List.isChain_cons.mpr ⟨fun b hb => .inr ?_, h⟩
  rw [List.head?_append_of_ne_nil _ hw.1] at hb
  exact (hw.isSmall b (List.mem_of_mem_head? hb)).2

theorem capitalsApart_flatMap_capitalize (hw : IsWord w) (hws : ∀ v ∈ ws, IsHump v) :
    CapitalsApart (w ++ ws.flatMap capitalize) := by
  induction ws generalizing w with
  | nil => simpa using hw.isSmall.capitalsApart
  | cons v ws ih =>
    obtain ⟨hv, hrest⟩ := List.forall_mem_cons.mp hws
    obtain ⟨c, tail, hcapital, -, hc, htail⟩ := hv.exists_capital
    rw [List.flatMap_cons, hcapital, List.cons_append]
    refine List.isChain_append.mpr
      ⟨hw.isSmall.capitalsApart, htail.capitalsApart_cons c (ih htail hrest), fun a ha _ _ => .inl ?_⟩
    exact (hw.isSmall a (List.mem_of_mem_getLast? ha)).2

theorem snake_eq_of_splitHumps (hletters : ∀ c ∈ cs, c.isAlphanum = true)
    (hapart : CapitalsApart cs) (hds : IsSnake ds)
    (hhumps : (splitHumps cs).map Char.toLower = ds) : snake cs = ds := by
  have hname : IsName cs := fun c hc => by simp [isNameChar, hletters c hc]
  have hhyphen : ∀ c ∈ cs, c ≠ '-' := by
    rintro c hc rfl
    exact absurd (hletters '-' hc) (by decide)
  apply snake_eq_of_lower_cut hds
  rw [lower_of_isAscii hname.isAscii.cut, cut_eq_splitHumps hhyphen hapart, hhumps]

section

variable (hw : IsWord w) (hws : ∀ v ∈ ws, IsHump v)
include hw hws

theorem isAlphanum_flatMap_capitalize : ∀ c ∈ w ++ ws.flatMap capitalize, c.isAlphanum = true := by
  intro c hc
  rcases List.mem_append.mp hc with hc | hc
  · exact hw.isAlphanum c hc
  · obtain ⟨v, hv, hc⟩ := List.mem_flatMap.mp hc
    exact isAlphanum_of_mem_capitalize (hws v hv).word.isAlphanum c hc

theorem map_toLower_underscored :
    (w ++ ws.flatMap ('_' :: capitalize ·)).map Char.toLower = underscoredWords w ws := by
  rw [List.map_append, hw.isSmall.map_toLower, List.map_flatMap, underscoredWords]
  congr 1
  apply List.flatMap_congr
  intro v hv
  rw [List.map_cons, map_toLower_capitalize (hws v hv).word.isSmall]
  rfl

theorem snake_flatMap_capitalize : snake (w ++ ws.flatMap capitalize) = underscoredWords w ws := by
  apply snake_eq_of_splitHumps (isAlphanum_flatMap_capitalize hw hws)
    (capitalsApart_flatMap_capitalize hw hws) (isSnake_underscoredWords hw fun v hv => (hws v hv).word)
  rw [splitHumps_flatMap_capitalize hw hws, map_toLower_underscored hw hws]

theorem words_underscoredWords : words (underscoredWords w ws) = w :: ws := by
  have hwords : ∀ v ∈ ws, IsWord v := fun v hv => (hws v hv).word
  exact words_of_snake_eq hw hwords (snake_of_isSnake (isSnake_underscoredWords hw hwords))

theorem camel_underscoredWords : camel (underscoredWords w ws) = w ++ ws.flatMap capitalize := by
  rw [camel, words_underscoredWords hw hws]

theorem camel_flatMap_capitalize :
    camel (w ++ ws.flatMap capitalize) = w ++ ws.flatMap capitalize := by
  have hwords := words_of_snake_eq hw (fun v hv => (hws v hv).word) (snake_flatMap_capitalize hw hws)
  rw [camel, hwords]

end

theorem snake_pascal_underscoredWords (hw : IsHump w) (hws : ∀ v ∈ ws, IsHump v) :
    snake (pascal (underscoredWords w ws)) = underscoredWords w ws := by
  obtain ⟨c, tail, hcapital, hfirst, hc, htail⟩ := hw.exists_capital
  rw [pascal, words_underscoredWords hw.word hws, List.flatMap_cons, hcapital, List.cons_append]
  apply snake_eq_of_splitHumps
  · exact List.forall_mem_cons.mpr
      ⟨by simp [Char.isAlphanum, Char.isAlpha, hc], isAlphanum_flatMap_capitalize htail hws⟩
  · exact htail.capitalsApart_cons c (capitalsApart_flatMap_capitalize htail hws)
  · exact isSnake_underscoredWords hw.word fun v hv => (hws v hv).word
  · rw [splitHumps_cons hc, splitHumps_flatMap_capitalize htail hws, List.map_cons,
      map_toLower_underscored htail hws, hfirst]
    rfl

namespace IsPhrase

variable {ts us : List String}

theorem exists_words (h : IsPhrase ts) :
    ∃ w ws, ts.map String.toList = w :: ws ∧ (joinWith "_" ts).toList = underscoredWords w ws ∧
      IsWord w ∧ ∀ v ∈ ws, IsHump v := by
  cases ts with
  | nil => exact absurd h id
  | cons t ts =>
    exact ⟨t.toList, ts.map String.toList, rfl, toList_joinWith_cons '_' t ts, h.1,
      List.forall_mem_map.mpr h.2⟩

theorem words_joinWith (h : IsPhrase ts) : words (joinWith "_" ts).toList = ts.map String.toList := by
  obtain ⟨w, ws, hwords, htext, hw, hws⟩ := h.exists_words
  rw [htext, hwords, words_underscoredWords hw hws]

theorem snake_camel (h : IsPhrase ts) :
    convert .snake (convert .camel (joinWith "_" ts)) = joinWith "_" ts := by
  obtain ⟨w, ws, -, htext, hw, hws⟩ := h.exists_words
  apply String.toList_injective
  rw [toList_convert_snake, toList_convert_camel, htext, camel_underscoredWords hw hws,
    snake_flatMap_capitalize hw hws]

theorem camel_camel (h : IsPhrase ts) :
    convert .camel (convert .camel (joinWith "_" ts)) = convert .camel (joinWith "_" ts) := by
  obtain ⟨w, ws, -, htext, hw, hws⟩ := h.exists_words
  apply String.toList_injective
  rw [toList_convert_camel, toList_convert_camel, htext, camel_underscoredWords hw hws,
    camel_flatMap_capitalize hw hws]

theorem snake_pascal (h : IsPhrase ts) (hfirst : ∀ t ∈ ts.head?, IsHump t.toList) :
    convert .snake (convert .pascal (joinWith "_" ts)) = joinWith "_" ts := by
  obtain ⟨w, ws, hwords, htext, -, hws⟩ := h.exists_words
  have hw : IsHump w := by
    cases ts with
    | nil => cases hwords
    | cons t ts =>
      rw [← (List.cons.inj hwords).1]
      exact hfirst t rfl
  apply String.toList_injective
  rw [toList_convert_snake, toList_convert_pascal, htext, snake_pascal_underscoredWords hw hws]

theorem eq_of_camel_eq (hts : IsPhrase ts) (hus : IsPhrase us)
    (h : convert .camel (joinWith "_" us) = convert .camel (joinWith "_" ts)) : us = ts := by
  have htext : joinWith "_" us = joinWith "_" ts := by rw [← hus.snake_camel, h, hts.snake_camel]
  have hwords : us.map String.toList = ts.map String.toList := by
    rw [← hus.words_joinWith, htext, hts.words_joinWith]
  exact List.map_injective_iff.mpr (fun _ _ => String.toList_injective) hwords

end IsPhrase

/-- Snake case takes camel case back, and also the other form in which the first word has a capital, if
it is fit for one. Hence the camel case of words tells which words they are. -/
theorem snake_inverts_camel {ts : List String} (h : IsPhrase ts) :
    convert .snake (convert .camel (joinWith "_" ts)) = joinWith "_" ts ∧
    convert .camel (convert .camel (joinWith "_" ts)) = convert .camel (joinWith "_" ts) ∧
    (∀ us, IsPhrase us → convert .camel (joinWith "_" us) = convert .camel (joinWith "_" ts) →
      us = ts) ∧
    ((∀ t ∈ ts.head?, IsHump t.toList) →
      convert .snake (convert .pascal (joinWith "_" ts)) = joinWith "_" ts) :=
  ⟨h.snake_camel, h.camel_camel, fun _ hus => h.eq_of_camel_eq hus, h.snake_pascal⟩

theorem track_snake_inverts_camel :
    IsPhrase ["x1", "track", "b2", "id"] ∧
    convert .camel "x1_track_b2_id" = "x1TrackB2Id" ∧
    convert .snake "x1TrackB2Id" = "x1_track_b2_id" ∧
    convert .camel "x1TrackB2Id" = "x1TrackB2Id" ∧
    convert .snake (convert .pascal "x1_track_b2_id") = "x1_track_b2_id" ∧
    convert .camel (joinWith "_" ["x1", "track", "b2id"]) ≠ "x1TrackB2Id" := by
  have hphrase : IsPhrase ["x1", "track", "b2", "id"] := by decide
  have hfirst : ∀ t ∈ ["x1", "track", "b2", "id"].head?, IsHump t.toList := by
    rintro t ⟨⟩
    decide
  obtain ⟨hsnake, hcamel, hwords, hpascal⟩ := snake_inverts_camel hphrase
  have htext : convert .camel "x1_track_b2_id" = "x1TrackB2Id" := by decide
  change convert .snake (convert .camel "x1_track_b2_id") = _ at hsnake
  change convert .camel (convert .camel "x1_track_b2_id") = convert .camel "x1_track_b2_id" at hcamel
  rw [htext] at hsnake hcamel
  refine ⟨hphrase, htext, hsnake, hcamel, hpascal hfirst, fun h => ?_⟩
  have hsame := hwords ["x1", "track", "b2id"] (by decide) (h.trans htext.symm)
  exact absurd hsame (by decide)

end RealmModels.Naming
