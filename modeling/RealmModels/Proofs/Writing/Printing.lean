import Mathlib
import RealmModels.Proofs.Writing.Outcome
import RealmModels.Swift.Declaration

namespace RealmModels.Writing

variable {p : Printer} {n n' : Naming.Scope} {e e' : List Log.Event}

theorem gives_print (text : String) : Gives (print text) ⟨p, n, e⟩ True () ⟨p.print text, n, e⟩ :=
  gives_onPrinter _ _

theorem gives_newline : Gives newline ⟨p, n, e⟩ True () ⟨p.put .blank, n, e⟩ := by
  rw [← Printer.newline_eq_put_blank]
  exact gives_onPrinter _ _

def separator (p : Printer) : List Line := if p.atBlockStart then [] else [.blank]

theorem gives_newlineIfNeeded :
    Gives newlineIfNeeded ⟨p, n, e⟩ True () ⟨p.putAll (separator p), n, e⟩ := by
  have hp : p.putAll (separator p) = p.newlineIfNeeded := by
    simp only [separator, Printer.newlineIfNeeded]
    split
    · rfl
    · rw [Printer.newline_eq_put_blank]
      rfl
  rw [hp]
  exact gives_onPrinter _ _

theorem gives_printIndent :
    Gives printIndent ⟨p, n, e⟩ (p.indent.Fits p.level) ()
      ⟨p.print (p.indent.shown p.level), n, e⟩ := by
  refine gives_tryPrinter fun q => ?_
  have htext := p.indent.text_eq_ok_iff p.level
  simp only [Printer.printIndent]
  cases h : p.indent.text p.level with
  | ok s =>
    obtain ⟨hfits, rfl⟩ := (htext s).mp h
    simp [hfits, bind, Except.bind, pure, Except.pure, eq_comm]
  | error err =>
    have hfits : ¬ p.indent.Fits p.level := fun hf => by simpa [h] using (htext _).mpr ⟨hf, rfl⟩
    simp [hfits, bind, Except.bind]

theorem gives_line {text : String} (h : text ≠ "") :
    Gives (line text) ⟨p, n, e⟩ (p.indent.Fits p.level) () ⟨p.put ⟨0, text⟩, n, e⟩ := by
  have hput : (p.newline.print (p.indent.shown p.level)).print text = p.put ⟨0, text⟩ := by
    simp only [Printer.put, Line.render, h, ↓reduceIte, Nat.add_zero, Printer.print,
      String.append_assoc]
  have hnewline : p.newline.indent = p.indent ∧ p.newline.level = p.level := by
    rw [Printer.newline_eq_put_blank]
    exact ⟨p.put_indent _, p.put_level _⟩
  have hindent := gives_printIndent (p := p.newline) (n := n) (e := e)
  rw [hnewline.1, hnewline.2] at hindent
  have hline : line text = (do newline; printIndent; print text) := by simp [line, h]
  rw [hline, ← hput]
  refine Gives.then (gives_onPrinter _ _) ((hindent.seq (gives_print text)).congr ?_)
  simp only [and_true]

theorem gives_printEach {β : Type} {f : β → Writing Unit} {k : β → List Line} (bs : List β)
    (h : ∀ b ∈ bs, ∀ q : Printer, Gives (f b) ⟨q, n, e⟩ (q.HasRoom (k b)) ()
      ⟨q.putAll (k b), n, e⟩) :
    Gives (bs.forM f) ⟨p, n, e⟩ (p.HasRoom (bs.flatMap k)) () ⟨p.putAll (bs.flatMap k), n, e⟩ := by
  induction bs generalizing p with
  | nil => exact (gives_pure () _).congr (by simp [Printer.hasRoom_nil])
  | cons b bs ih =>
    have hbs := ih (p := p.putAll (k b)) fun c hc => h c (List.mem_cons_of_mem _ hc)
    rw [Printer.hasRoom_congr (q := p) (p.putAll_indent _) (p.putAll_level _)] at hbs
    rw [List.flatMap_cons, Printer.putAll_append, Printer.hasRoom_append]
    exact (h b List.mem_cons_self p).seq hbs

theorem gives_lines (texts : List String) (h : ∀ t ∈ texts, t ≠ "") :
    Gives (texts.forM line) ⟨p, n, e⟩ (p.HasRoom (texts.map (Line.mk 0))) ()
      ⟨p.putAll (texts.map (Line.mk 0)), n, e⟩ := by
  have heach := gives_printEach (p := p) (n := n) (e := e) (f := line)
    (k := fun t => [⟨0, t⟩]) texts fun t ht q => (gives_line (h t ht)).congr (by
      simp [Printer.hasRoom_cons, Printer.hasRoom_nil, h t ht])
  rwa [← List.map_eq_flatMap] at heach

theorem gives_deepen : Gives deepen ⟨p, n, e⟩ True () ⟨p.deepen, n, e⟩ := gives_onPrinter _ _

theorem gives_dedent {level : ℕ} (h : p.level = level + 1) :
    Gives dedent ⟨p, n, e⟩ True () ⟨{ p with level := level }, n, e⟩ := by
  refine gives_tryPrinter fun q => ?_
  simp [Printer.dedent, h, eq_comm]

theorem gives_push (frame : Frame) : Gives (push frame) ⟨p, n, e⟩ True () ⟨p.push frame, n, e⟩ :=
  gives_onPrinter _ _

theorem gives_pop (frame : Frame) :
    Gives pop ⟨p.push frame, n, e⟩ True frame ⟨p, n, e⟩ := by
  have hlook : Gives (look Printer.pop) ⟨p.push frame, n, e⟩ True (frame, p) ⟨p.push frame, n, e⟩ :=
    gives_look fun b => by simp [Printer.pop, Printer.push, eq_comm]
  exact hlook.use (gives_of_ok rfl)

theorem gives_openBlock (opening : String) :
    Gives (openBlock opening) ⟨p, n, e⟩ True () ⟨(p.print opening).deepen, n, e⟩ :=
  (gives_print opening).then gives_deepen

theorem gives_closeBlock {q : Printer} (hq : q.output ≠ "") (ls : List Line) :
    Gives (closeBlock "\x7d") ⟨q.deepen.putAll ls, n, e⟩ (q.indent.Fits q.level) ()
      ⟨q.putAll (ls.map Line.deeper ++ [⟨0, "\x7d"⟩]), n, e⟩ := by
  rw [← Printer.put_brace hq]
  have hlevel : (q.deepen.putAll ls).level = q.level + 1 := by simp [Printer.deepen]
  have hbrace : "\x7d" ≠ "" := by decide
  refine (gives_dedent hlevel).then ?_
  simpa [Printer.deepen] using
    gives_line (p := { q.deepen.putAll ls with level := q.level }) (n := n) (e := e) hbrace

def bracedLines (header : String) (body : List Line) : List Line :=
  ⟨0, header ++ " \x7b"⟩ :: (body.map Line.deeper ++ [⟨0, "\x7d"⟩])

section

variable {α : Type} {a : α} {body : Writing α} {C : Prop} {ls : List Line}

theorem gives_braces {header : String} (hheader : header ≠ "")
    (hbody : Gives body ⟨(p.put ⟨0, header ++ " \x7b"⟩).deepen, n, e⟩ C a
      ⟨(p.put ⟨0, header ++ " \x7b"⟩).deepen.putAll ls, n', e'⟩) :
    Gives (Block.braces.around body) ⟨p.put ⟨0, header⟩, n, e⟩ (C ∧ p.indent.Fits p.level) a
      ⟨p.putAll (bracedLines header ls), n', e'⟩ := by
  have hopen : (p.put ⟨0, header⟩).print " \x7b" = p.put ⟨0, header ++ " \x7b"⟩ :=
    Printer.print_put hheader _
  have hne : (p.put ⟨0, header ++ " \x7b"⟩).output ≠ "" :=
    Printer.put_output_ne_of_text p (by simp [String.append_eq_empty_iff, hheader])
  have henter := gives_openBlock (p := p.put ⟨0, header⟩) (n := n) (e := e) " \x7b"
  have hleave := gives_closeBlock (n := n') (e := e') hne ls
  rw [hopen] at henter
  rw [Printer.put_indent, Printer.put_level] at hleave
  refine (Gives.around (b := Block.braces) henter hbody hleave).congr ?_
  simp only [true_and]

theorem gives_block {header : String} (hheader : header ≠ "")
    (hbody : Gives body ⟨(p.put ⟨0, header ++ " \x7b"⟩).deepen, n, e⟩ C a
      ⟨(p.put ⟨0, header ++ " \x7b"⟩).deepen.putAll ls, n', e'⟩) :
    Gives (do line header; Block.braces.around body) ⟨p, n, e⟩ (p.indent.Fits p.level ∧ C) a
      ⟨p.putAll (bracedLines header ls), n', e'⟩ := by
  refine ((gives_line hheader).seq (gives_braces hheader hbody)).congr ?_
  tauto

end

theorem forall_bracedLines {P : String → Prop} (hend : P "\x7d") {header : String}
    (hheader : P (header ++ " \x7b")) {ls : List Line} (h : ∀ l ∈ ls, P l.text) :
    ∀ l ∈ bracedLines header ls, P l.text := by
  refine List.forall_mem_cons.mpr ⟨hheader, List.forall_mem_append.mpr ⟨?_, ?_⟩⟩
  · exact List.forall_mem_map.mpr h
  · exact List.forall_mem_singleton.mpr hend

theorem hasRoom_bracedLines {q : Printer} (hi : q.indent = p.indent) (hl : q.level = p.level + 1)
    {header : String} (h : header ≠ "") (ls : List Line) :
    p.HasRoom (bracedLines header ls) ↔ p.indent.Fits p.level ∧ q.HasRoom ls := by
  have hfirst : header ++ " \x7b" ≠ "" := by simp [String.append_eq_empty_iff, h]
  rw [bracedLines, Printer.hasRoom_cons, Printer.hasRoom_append, Printer.hasRoom_deeper hi hl]
  simp [Printer.hasRoom_cons, Printer.hasRoom_nil, hfirst]
  tauto

theorem hasRoom_block {header : String} (h : header ≠ "") (ls : List Line) :
    p.HasRoom (bracedLines header ls) ↔
      p.indent.Fits p.level ∧ (p.put ⟨0, header ++ " \x7b"⟩).deepen.HasRoom ls :=
  hasRoom_bracedLines (q := (p.put ⟨0, header ++ " \x7b"⟩).deepen) (by simp [Printer.deepen])
    (by simp [Printer.deepen]) h ls

theorem hasRoom_blank (ls : List Line) :
    p.HasRoom (.blank :: ls) ↔ (p.put .blank).HasRoom ls := by
  rw [Printer.hasRoom_cons, Printer.hasRoom_congr (p.put_indent .blank) (p.put_level .blank)]
  simp [Line.blank]

end RealmModels.Writing

namespace RealmModels.Swift

open GraphQL Writing

def shownWords (note : Note) : String := note.words?.getD ""

def docLines (note : Note) : List Line := (documentation (shownWords note)).map (Line.mk 0)

def declarationHeader (frame : Frame) (header : Header) : String :=
  wrap "" (joinParts " " header.modifiers) " " ++ frame.keyword ++ " " ++ frame.name ++
    wrap ": " (joinParts ", " header.inherited) ""

variable {p : Printer} {n n' : Naming.Scope} {e e' : List Log.Event}

theorem documentation_ne (text : String) : ∀ l ∈ documentation text, l ≠ "" := by
  intro l hl
  obtain ⟨cs, -, rfl⟩ := List.mem_map.mp hl
  simp [String.append_eq_empty_iff]

theorem deprecation_ne (reason : String) : deprecation reason ≠ "" := by
  intro h
  exact absurd (String.append_eq_empty_iff.mp h).2 (by decide)

theorem gives_words (note : Note) (s : Session) :
    Gives (words note) s (note.words?.isSome = true) (shownWords note) s := by
  simp only [words, shownWords]
  cases h : note.words? with
  | none => exact (gives_throw _ _ _ _).congr (by simp)
  | some text => exact (gives_pure _ _).congr (by simp)

theorem gives_comment (note : Note) :
    Gives (comment note) ⟨p, n, e⟩ (note.words?.isSome = true ∧ p.HasRoom (docLines note)) ()
      ⟨p.putAll (docLines note), n, e⟩ :=
  (gives_words note _).bind fun _ => gives_lines _ (documentation_ne _)

theorem gives_deprecationAttribute (reason : Note) :
    Gives (deprecationAttribute reason) ⟨p, n, e⟩
      (reason.words?.isSome = true ∧ p.indent.Fits p.level) ()
      ⟨p.put ⟨0, deprecation (shownWords reason)⟩, n, e⟩ :=
  (gives_words reason _).bind fun _ => gives_line (deprecation_ne _)

theorem spaced_ne (start name : String) : start ++ " " ++ name ≠ "" := by
  intro h
  exact absurd (String.append_eq_empty_iff.mp (String.append_eq_empty_iff.mp h).1).2 (by decide)

theorem declarationHeader_ne (frame : Frame) (header : Header) :
    declarationHeader frame header ≠ "" :=
  fun h => spaced_ne _ _ (String.append_eq_empty_iff.mp h).1

def leadLines (p : Printer) (header : Header) : List Line := separator p ++ docLines header.description

def opened (frame : Frame) (header : Header) (p : Printer) : Printer :=
  (((p.putAll (leadLines p header)).put
    ⟨0, declarationHeader frame header ++ " \x7b"⟩).push frame).deepen

@[simp] theorem opened_indent (frame : Frame) (header : Header) (p : Printer) :
    (opened frame header p).indent = p.indent := by
  simp [opened, Printer.deepen, Printer.push]

@[simp] theorem opened_level (frame : Frame) (header : Header) (p : Printer) :
    (opened frame header p).level = p.level + 1 := by
  simp [opened, Printer.deepen, Printer.push]

@[simp] theorem opened_scopes (frame : Frame) (header : Header) (p : Printer) :
    (opened frame header p).scopes = frame :: p.scopes := by
  simp [opened, Printer.deepen, Printer.push]

theorem opened_output_ne (frame : Frame) (header : Header) (p : Printer) :
    (opened frame header p).output ≠ "" :=
  Printer.put_output_ne_of_text _
    (by simp [String.append_eq_empty_iff, declarationHeader_ne frame header])

theorem docLines_absent : docLines .absent = [] := rfl

theorem gives_openDeclaration (frame : Frame) (header : Header) :
    Gives (openDeclaration frame header) ⟨p, n, e⟩
      ((header.description.words?.isSome = true ∧ p.HasRoom (docLines header.description)) ∧
        p.indent.Fits p.level) ()
      ⟨opened frame header p, n, e⟩ := by
  have hcomment := gives_comment (p := p.putAll (separator p)) (n := n) (e := e) header.description
  rw [← Printer.putAll_append, Printer.hasRoom_congr (q := p) (by simp) (by simp)] at hcomment
  let start := p.putAll (leadLines p header)
  let text := wrap "" (joinParts " " header.modifiers) " " ++ frame.keyword ++ " " ++ frame.name
  have htext : text ≠ "" := spaced_ne _ _
  have hheader : text ++ wrap ": " (joinParts ", " header.inherited) "" =
      declarationHeader frame header := rfl
  have hline := gives_line (p := start) (n := n) (e := e) htext
  have hprint := gives_print (p := start.put ⟨0, text⟩) (n := n) (e := e)
    (wrap ": " (joinParts ", " header.inherited) "")
  rw [Printer.print_put htext, hheader] at hprint
  have hpush := gives_push (p := start.put ⟨0, declarationHeader frame header⟩) (n := n) (e := e)
    frame
  have hopen := gives_openBlock (n := n) (e := e) " \x7b"
    (p := (start.put ⟨0, declarationHeader frame header⟩).push frame)
  have hbrace : ((start.put ⟨0, declarationHeader frame header⟩).push frame).print " \x7b" =
      (start.put ⟨0, declarationHeader frame header ++ " \x7b"⟩).push frame := by
    rw [← Printer.print_put (declarationHeader_ne frame header)]
    rfl
  rw [hbrace] at hopen
  have hblock := hprint.then (hpush.then hopen)
  refine gives_newlineIfNeeded.then ((hcomment.seq (hline.seq hblock)).congr ?_)
  simp [start]

variable {α : Type} {a : α} {body : Writing α} {C : Prop} {ls : List Line}

theorem gives_declaration (frame : Frame) (header : Header)
    (hbody : Gives body ⟨opened frame header p, n, e⟩ C a
      ⟨(opened frame header p).putAll ls, n', e'⟩) :
    Gives ((declaration frame header).around body) ⟨p, n, e⟩
      (header.description.words?.isSome = true ∧ p.HasRoom (docLines header.description) ∧
        p.indent.Fits p.level ∧ C) a
      ⟨p.putAll (leadLines p header ++ bracedLines (declarationHeader frame header) ls), n', e'⟩ := by
  let start := p.putAll (leadLines p header)
  let outer := start.put ⟨0, declarationHeader frame header ++ " \x7b"⟩
  have hne : outer.output ≠ "" := Printer.put_output_ne_of_text _
    (by simp [String.append_eq_empty_iff, declarationHeader_ne frame header])
  have hclose := gives_closeBlock (q := outer.push frame) (n := n') (e := e') hne ls
  rw [Printer.putAll_push] at hclose
  have hclosing : Gives closeDeclaration ⟨(outer.push frame).deepen.putAll ls, n', e'⟩
      ((outer.push frame).indent.Fits (outer.push frame).level ∧ True) frame
      ⟨outer.putAll (ls.map Line.deeper ++ [⟨0, "\x7d"⟩]), n', e'⟩ :=
    hclose.seq (gives_pop frame)
  have hleave : Gives (declaration frame header).leave
      ⟨(outer.push frame).deepen.putAll ls, n', e'⟩ _ ()
      ⟨outer.putAll (ls.map Line.deeper ++ [⟨0, "\x7d"⟩]), n', e'⟩ :=
    hclosing.seq (gives_pure () _)
  have hend : p.putAll (leadLines p header ++ bracedLines (declarationHeader frame header) ls) =
      outer.putAll (ls.map Line.deeper ++ [⟨0, "\x7d"⟩]) := by
    rw [Printer.putAll_append, bracedLines, Printer.putAll_cons]
  rw [hend]
  refine (Gives.around (gives_openDeclaration frame header) hbody hleave).congr ?_
  simp [outer, start, Printer.push]
  tauto

end RealmModels.Swift
