import Mathlib
import RealmModels.Proofs.Printer.Indent
import RealmModels.Proofs.Printer.Scan
import RealmModels.Proofs.Text.Tidy

/-!
How printed lines are laid out: what stands in a block is one level deeper than its braces, and an
empty line stands only in front of something. The depth of each line can be read off the texts alone.
-/

namespace RealmModels

namespace Text

def opensBlock (text : String) : Bool := (after? "///" text).isNone && (before? "\x7b" text).isSome

def depthAt? (depth : ℕ) (text : String) : Option ℕ :=
  if text = "\x7d" then Nat.ppred depth else some depth

def depthBehind (depth : ℕ) (text : String) : ℕ := if opensBlock text then depth + 1 else depth

/-- The depth of each line and the depth behind the last, unless a brace closes nothing. -/
def depths? : ℕ → List String → Option (List ℕ × ℕ)
  | depth, [] => some ([], depth)
  | depth, text :: texts => do
    let here ← depthAt? depth text
    let (others, last) ← depths? (depthBehind here text) texts
    return (here :: others, last)

theorem depths?_cons {a b c : ℕ} {t : String} {ts : List String} {ds : List ℕ}
    (ht : depthAt? a t = some b) (hts : depths? (depthBehind b t) ts = some (ds, c)) :
    depths? a (t :: ts) = some (b :: ds, c) := by
  simp only [depths?, ht, hts, Option.bind_eq_bind, Option.bind_some]
  rfl

theorem depths?_append {a b c : ℕ} {ts us : List String} {ds es : List ℕ}
    (ht : depths? a ts = some (ds, b)) (hu : depths? b us = some (es, c)) :
    depths? a (ts ++ us) = some (ds ++ es, c) := by
  induction ts generalizing a ds with
  | nil =>
    obtain ⟨rfl, rfl⟩ := Prod.mk.inj (Option.some.inj ht)
    exact hu
  | cons t ts ih =>
    simp only [depths?, Option.bind_eq_bind, Option.bind_eq_some_iff] at ht
    obtain ⟨here, hhere, ⟨others, last⟩, hothers, heq⟩ := ht
    obtain ⟨rfl, rfl⟩ := Prod.mk.inj (Option.some.inj heq)
    exact depths?_cons hhere (ih hothers)

theorem depths?_cons_of_flat {t : String} (hbrace : t ≠ "\x7d") (hopens : opensBlock t = false)
    {a b : ℕ} {ts : List String} {ds : List ℕ} (hts : depths? a ts = some (ds, b)) :
    depths? a (t :: ts) = some (a :: ds, b) := by
  have hbehind : depthBehind a t = a := by
    rw [depthBehind, hopens]
    rfl
  exact depths?_cons (if_neg hbrace) (hbehind.symm ▸ hts)

end Text

open Text

def startsPlain (c : Char) : Bool := isInk c && c != '\x7d'

def endsPlain (c : Char) : Bool := isInk c && c != '\x7b'

structure IsPlain (text : String) : Prop where
  first : firstIs isInk text = true
  last : lastIs isInk text = true
  brace : text ≠ "\x7d"
  opens : opensBlock text = false

structure IsHeading (text : String) : Prop where
  first : firstIs isInk text = true
  opens : opensBlock text = true

theorem lastIs_of_opensBlock {text : String} (h : opensBlock text = true) :
    lastIs (· == '\x7b') text = true := by
  rw [opensBlock, Bool.and_eq_true, Option.isSome_iff_exists] at h
  obtain ⟨-, front, hfront⟩ := h
  obtain rfl := (before?_eq_some_iff _ _ _).mp hfront
  exact lastIs_append front (by decide)

namespace IsPlain

theorem of_ends {text : String} (hfirst : firstIs startsPlain text = true)
    (hlast : lastIs endsPlain text = true) : IsPlain text where
  first := firstIs_mono (fun _ hc => (Bool.and_eq_true_iff.mp hc).1) hfirst
  last := lastIs_mono (fun _ hc => (Bool.and_eq_true_iff.mp hc).1) hlast
  brace := by
    rintro rfl
    exact absurd hfirst (by decide)
  opens := by
    apply Bool.eq_false_iff.mpr
    intro h
    obtain ⟨c, hc, hbrace⟩ := lastIs_iff.mp (lastIs_of_opensBlock h)
    obtain ⟨d, hd, hother⟩ := lastIs_iff.mp hlast
    obtain rfl := Option.some.inj (hc.symm.trans hd)
    obtain rfl := eq_of_beq hbrace
    exact absurd hother (by decide)

theorem comment {text : String} (h : lastIs isInk text = true) : IsPlain ("/// " ++ text) where
  first := firstIs_append (by decide) text
  last := lastIs_append _ h
  brace := by
    intro heq
    have hfirst := firstIs_append (p := startsPlain) (s := "/// ") (by decide) text
    rw [heq] at hfirst
    exact absurd hfirst (by decide)
  opens := by
    have hslashes : "/// " = "///" ++ " " := by decide
    rw [opensBlock, hslashes, String.append_assoc, after?_append]
    rfl

end IsPlain

namespace IsHeading

variable {text : String} (h : IsHeading text)
include h

theorem last : lastIs isInk text = true := by
  apply lastIs_mono _ (lastIs_of_opensBlock h.opens)
  intro c hc
  obtain rfl := eq_of_beq hc
  decide

theorem brace : text ≠ "\x7d" := by
  rintro rfl
  exact absurd h.opens (by decide)

end IsHeading

open Writing (bracedLines)

inductive Laid : List Line → Prop
  | nil : Laid []
  | line {text : String} {ls : List Line} (h : IsPlain text) (hls : Laid ls) : Laid (⟨0, text⟩ :: ls)
  | blank {l : Line} {ls : List Line} (h : l.text ≠ "") (hls : Laid (l :: ls)) :
    Laid (.blank :: l :: ls)
  | block {header : String} {body ls : List Line} (h : IsHeading (header ++ " \x7b"))
    (hbody : Laid body) (hls : Laid ls) : Laid (bracedLines header body ++ ls)

namespace Laid

variable {ls ls' : List Line} {text header : String}

theorem append (h : Laid ls) (h' : Laid ls') : Laid (ls ++ ls') := by
  induction h with
  | nil => exact h'
  | line htext _ ih => exact .line htext ih
  | blank hl _ ih => exact .blank hl ih
  | block hheader hbody _ _ ih =>
    rw [List.append_assoc]
    exact .block hheader hbody ih

theorem single (h : IsPlain text) : Laid [⟨0, text⟩] := .line h .nil

theorem braces (h : IsHeading (header ++ " \x7b")) (hls : Laid ls) : Laid (bracedLines header ls) := by
  rw [← List.append_nil (bracedLines header ls)]
  exact .block h hls .nil

theorem blank_braces (h : IsHeading (header ++ " \x7b")) (hls : Laid ls) :
    Laid (.blank :: bracedLines header ls) := .blank (ne_of_firstIs h.first) (braces h hls)

theorem plains (h : ∀ l ∈ ls, l.depth = 0 ∧ IsPlain l.text) : Laid ls := by
  induction ls with
  | nil => exact .nil
  | cons l ls ih =>
    obtain ⟨⟨hdepth, htext⟩, hls⟩ := List.forall_mem_cons.mp h
    obtain ⟨depth, text⟩ := l
    obtain rfl : depth = 0 := hdepth
    exact .line htext (ih hls)

theorem flatMap {β : Type} {f : β → List Line} {bs : List β} (h : ∀ b ∈ bs, Laid (f b)) :
    Laid (bs.flatMap f) := by
  induction bs with
  | nil => exact .nil
  | cons b bs ih =>
    obtain ⟨hb, hbs⟩ := List.forall_mem_cons.mp h
    rw [List.flatMap_cons]
    exact hb.append (ih hbs)

theorem depths (h : Laid ls) (depth : ℕ) :
    depths? depth (ls.map Line.text) = some (ls.map (depth + ·.depth), depth) := by
  induction h generalizing depth with
  | nil => rfl
  | line htext _ ih => exact depths?_cons_of_flat htext.brace htext.opens (ih depth)
  | blank _ _ ih => exact depths?_cons_of_flat (by decide) (by decide) (ih depth)
  | @block header body ls hheader _ _ ihbody ihls =>
    -- the body is scanned one level deeper, and the closing brace leads back to the header's depth
    have hdeeper : (body.map Line.deeper).map (depth + ·.depth) =
        body.map (depth + 1 + ·.depth) := by
      rw [List.map_map]
      apply List.map_congr_left
      intro l _
      simp only [Function.comp_apply, Line.deeper]
      omega
    have hbehind : depthBehind depth (header ++ " \x7b") = depth + 1 := by
      rw [depthBehind, hheader.opens]
      rfl
    have hclosing : depths? (depth + 1) ["\x7d"] = some ([depth], depth) := by
      have hbrace : opensBlock "\x7d" = false := by decide
      simp [depths?, depthAt?, depthBehind, hbrace]
    have hinner := depths?_append (ihbody (depth + 1)) hclosing
    rw [← hbehind] at hinner
    have hblock := depths?_cons (if_neg hheader.brace) hinner
    rw [hbehind] at hblock
    rw [List.map_append, List.map_append]
    apply depths?_append _ (ihls depth)
    simp only [bracedLines, List.map_cons, List.map_append, List.map_nil, Line.map_text_deeper, hdeeper,
      Nat.add_zero]
    exact hblock

theorem inked (h : Laid ls) :
    ∀ l ∈ ls, l.text ≠ "" → firstIs isInk l.text = true ∧ lastIs isInk l.text = true := by
  induction h with
  | nil => exact List.forall_mem_nil _
  | line htext _ ih => exact List.forall_mem_cons.mpr ⟨fun _ => ⟨htext.first, htext.last⟩, ih⟩
  | blank _ _ ih => exact List.forall_mem_cons.mpr ⟨fun hblank => absurd rfl hblank, ih⟩
  | block hheader _ _ ihbody ihls =>
    refine List.forall_mem_append.mpr ⟨List.forall_mem_cons.mpr ⟨?_, ?_⟩, ihls⟩
    · exact fun _ => ⟨hheader.first, hheader.last⟩
    · refine List.forall_mem_append.mpr ⟨List.forall_mem_map.mpr ihbody, ?_⟩
      exact List.forall_mem_singleton.mpr fun _ => by decide

theorem spaced (h : Laid ls) : Spaced (ls.map Line.text) := by
  induction h with
  | nil => exact .nil
  | line htext _ ih => exact Spaced.append (.single (ne_of_firstIs htext.first)) ih
  | blank hl _ ih => exact ih.blank hl
  | @block header body ls hheader _ _ ihbody ihls =>
    have hopening : Spaced [header ++ " \x7b"] := .single (ne_of_firstIs hheader.first)
    have hclosing : Spaced ["\x7d"] := .single (by decide)
    simp only [bracedLines, List.map_append, List.map_cons, List.map_nil, Line.map_text_deeper]
    exact (hopening.append (ihbody.append hclosing)).append ihls

end Laid

namespace Indent

theorem isBlank_shown (i : Indent) (level : ℕ) : ∀ c ∈ (i.shown level).toList, isBlank c = true := by
  intro c hc
  rcases mem_shown hc with rfl | rfl
  · decide
  · decide

theorem shown_eq_join {i : Indent} {level : ℕ} (h : i.Fits level) :
    i.shown level = String.join (List.replicate level i.unit) := by
  induction level with
  | zero => exact i.shown_zero
  | succ level ih =>
    rw [shown_succ h, ih (fits_mono (Nat.le_succ level) h), List.replicate_succ, String.join_cons]

end Indent

def IsIndented (unit line : String) (depth : ℕ) : Prop :=
  line ≠ "" → ∃ text, line = String.join (List.replicate depth unit) ++ text ∧ firstIs isInk text = true

namespace Laid

variable {ls : List Line} {i : Indent}

theorem bare_render (h : Laid ls) {l : Line} (hl : l ∈ ls) : bare (l.render i 0) = l.text := by
  rw [Line.render]
  split
  · next hempty =>
    rw [hempty]
    rfl
  · next htext => exact bare_append (i.isBlank_shown _) (h.inked l hl htext).1

theorem map_bare (h : Laid ls) : (ls.map (Line.render i 0)).map bare = ls.map Line.text := by
  rw [List.map_map]
  exact List.map_congr_left fun l hl => h.bare_render hl

theorem indented (h : Laid ls) (hroom : ∀ l ∈ ls, l.text ≠ "" → i.Fits l.depth) :
    List.Forall₂ (IsIndented i.unit) (ls.map (Line.render i 0)) (ls.map Line.depth) := by
  rw [List.forall₂_map_left_iff, List.forall₂_map_right_iff, List.forall₂_same]
  intro l hl hne
  by_cases htext : l.text = ""
  · simp [Line.render, htext] at hne
  · refine ⟨l.text, ?_, (h.inked l hl htext).1⟩
    rw [Line.render, if_neg htext, Nat.zero_add, Indent.shown_eq_join (hroom l hl htext)]

end Laid

end RealmModels
