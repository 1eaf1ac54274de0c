import Mathlib
import RealmModels.Json.Reader
import RealmModels.Proofs.Text.OneLine
import RealmModels.Proofs.Writing.Printing
import RealmModels.Script.Step

/-!
String literals as they are read. A text is read back from its literal unless it has a backslash or a
carriage return: the literal has both as they are, while quotes and line feeds are escaped.
-/

namespace RealmModels.Swift

open Writing Text

inductive Place where
  | plain
  | escape
  | codeStart
  | code (digits : List Char)

inductive Turn where
  | refuse
  | finish
  | go (next : Place) (found : Option Char)

def unescaped? (c : Char) : Option Char :=
  if c = '\\' ∨ c = '"' ∨ c = '\'' then some c
  else if c = 'n' then some '\n'
  else if c = 'r' then some '\r'
  else if c = 't' then some '\t'
  else if c = '0' then some '\x00'
  else none

def charOfCode? (digits : List Char) : Option Char := do
  let values ← digits.mapM Json.hexValue?
  let n := values.foldl (fun n v => 16 * n + v) 0
  if digits ≠ [] ∧ digits.length ≤ 8 ∧ n.isValidChar then some (Char.ofNat n) else none

def turn : Place → Char → Turn
  | .plain, c =>
    if c = '"' then .finish
    else if c = '\\' then .go .escape none
    else if c = '\n' ∨ c = '\r' then .refuse
    else .go .plain (some c)
  | .escape, c =>
    if c = 'u' then .go .codeStart none
    else
      match unescaped? c with
      | some d => .go .plain (some d)
      | none => .refuse
  | .codeStart, c => if c = '\x7b' then .go (.code []) none else .refuse
  | .code digits, c =>
    if c = '\x7d' then
      match charOfCode? digits with
      | some d => .go .plain (some d)
      | none => .refuse
    else if isHexDigit c then .go (.code (digits ++ [c])) none
    else .refuse

def readFrom : Place → List Char → Option (List Char × List Char)
  | _, [] => none
  | place, c :: cs =>
    match turn place c with
    | .refuse => none
    | .finish => some ([], cs)
    | .go next found => (readFrom next cs).map fun (text, rest) => (found.toList ++ text, rest)

/-- Reads the literal at the start of a text. -/
def readLiteral : List Char → Option (List Char × List Char)
  | '"' :: cs => readFrom .plain cs
  | _ => none

def escapedChars (cs : List Char) : List Char := cs.flatMap escapedChar

section

variable {c : Char} {found : Option Char} {cs ds text rest rest' : List Char} {place next : Place}

theorem readFrom_of_finish (h : turn place c = .finish) (cs : List Char) :
    readFrom place (c :: cs) = some ([], cs) := by
  rw [readFrom, h]

theorem readFrom_of_silent (h : turn place c = .go next none) (cs : List Char) :
    readFrom place (c :: cs) = readFrom next cs := by
  rw [readFrom, h]
  exact Option.map_id'

theorem readFrom_of_found {d : Char} (h : turn place c = .go next (some d)) (cs : List Char) :
    readFrom place (c :: cs) = (readFrom next cs).map fun (text, rest) => (d :: text, rest) := by
  rw [readFrom, h]
  rfl

theorem readFrom_found_iff {d : Char} (h : turn place c = .go next (some d)) :
    readFrom place (c :: cs) = some (d :: text, rest) ↔ readFrom next cs = some (text, rest) := by
  rw [readFrom_of_found h, Option.map_eq_some_iff]
  constructor
  · rintro ⟨⟨ds, rest'⟩, hds, heq⟩
    obtain ⟨htext, rfl⟩ := Prod.mk.inj heq
    rw [hds, List.tail_eq_of_cons_eq htext]
  · intro hds
    exact ⟨(text, rest), hds, rfl⟩

theorem readFrom_cons_eq_some_iff :
    readFrom place (c :: cs) = some (text, rest) ↔
      (turn place c = .finish ∧ text = [] ∧ rest = cs) ∨
      ∃ next found ds, turn place c = .go next found ∧ readFrom next cs = some (ds, rest) ∧
        text = found.toList ++ ds := by
  rw [readFrom]
  cases turn place c with
  | refuse => simp
  | finish => simp [eq_comm]
  | go next found =>
    simp only [Option.map_eq_some_iff, Prod.exists, Prod.mk.injEq, Turn.go.injEq, reduceCtorEq,
      false_and, false_or]
    constructor
    · rintro ⟨ds, _, hds, rfl, rfl⟩
      exact ⟨next, found, ds, ⟨rfl, rfl⟩, hds, rfl⟩
    · rintro ⟨_, _, ds, ⟨rfl, rfl⟩, hds, rfl⟩
      exact ⟨ds, rest, hds, rfl, rfl⟩

theorem length_lt_of_readFrom (h : readFrom place cs = some (text, rest)) :
    rest.length < cs.length := by
  induction cs generalizing place text with
  | nil => exact absurd h (by simp [readFrom])
  | cons c cs ih =>
    rcases readFrom_cons_eq_some_iff.mp h with ⟨-, -, rfl⟩ | ⟨next, found, ds, -, hds, -⟩
    · exact Nat.lt_succ_self _
    · exact Nat.lt_succ_of_lt (ih hds)

@[simp] theorem escapedChars_nil : escapedChars [] = [] := rfl

@[simp] theorem escapedChars_quote (cs : List Char) :
    escapedChars ('"' :: cs) = '\\' :: '"' :: escapedChars cs := rfl

@[simp] theorem escapedChars_lineFeed (cs : List Char) :
    escapedChars ('\n' :: cs) = '\\' :: 'n' :: escapedChars cs := rfl

theorem escapedChars_of_ne (hquote : c ≠ '"') (hfeed : c ≠ '\n') (cs : List Char) :
    escapedChars (c :: cs) = c :: escapedChars cs := by
  rw [escapedChars, List.flatMap_cons, escapedChar, if_neg hquote, if_neg hfeed]
  rfl

theorem escapedChars_eq_nil_iff : escapedChars cs = [] ↔ cs = [] := by
  cases cs with
  | nil => simp
  | cons c cs =>
    by_cases hquote : c = '"'
    · simp [hquote]
    by_cases hfeed : c = '\n'
    · simp [hfeed]
    · simp [escapedChars_of_ne hquote hfeed]

theorem toList_escapedText (text : String) : (escapedText text).toList = escapedChars text.toList :=
  String.toList_ofList

theorem literal_append (text : String) (rest : List Char) :
    (literal text).toList ++ rest = '"' :: (escapedChars text.toList ++ '"' :: rest) := by
  simp [literal, toList_escapedText]

theorem turn_plain (hquote : c ≠ '"') (hback : c ≠ '\\') (hfeed : c ≠ '\n') (hreturn : c ≠ '\r') :
    turn .plain c = .go .plain (some c) := by
  simp [turn, hquote, hback, hfeed, hreturn]

theorem turn_backslash : turn .plain '\\' = .go .escape none := rfl

theorem turn_escape_quote : turn .escape '"' = .go .plain (some '"') := rfl

theorem turn_escape_n : turn .escape 'n' = .go .plain (some '\n') := rfl

theorem turn_escape_backslash : turn .escape '\\' = .go .plain (some '\\') := rfl

theorem readFrom_escapedChars_cons_iff (hback : c ≠ '\\') (hreturn : c ≠ '\r') :
    readFrom .plain (escapedChars (c :: cs) ++ ds) = some (c :: text, rest) ↔
      readFrom .plain (escapedChars cs ++ ds) = some (text, rest) := by
  by_cases hquote : c = '"'
  · rw [hquote, escapedChars_quote, List.cons_append, List.cons_append,
      readFrom_of_silent turn_backslash, readFrom_found_iff turn_escape_quote]
  by_cases hfeed : c = '\n'
  · rw [hfeed, escapedChars_lineFeed, List.cons_append, List.cons_append,
      readFrom_of_silent turn_backslash, readFrom_found_iff turn_escape_n]
  · rw [escapedChars_of_ne hquote hfeed, List.cons_append,
      readFrom_found_iff (turn_plain hquote hback hfeed hreturn)]

def Place.ahead : Place → ℕ
  | .escape => 1
  | _ => 0

theorem ahead_of_turn (h : turn place c = .go next found) :
    found.toList.length + next.ahead ≤ 1 + place.ahead := by
  cases place <;> simp only [turn] at h <;> grind [Place.ahead]

theorem ahead_of_turn_escape (h : turn .escape c = .go next found) :
    found.toList.length + next.ahead ≤ 1 := by
  simp only [turn] at h
  grind [Place.ahead]

theorem turn_backslash_cases (h : turn place '\\' = .go next found) :
    (place = .plain ∧ next = .escape ∧ found = none) ∨
      (place = .escape ∧ next = .plain ∧ found = some '\\') := by
  cases place with
  | plain =>
    obtain ⟨rfl, rfl⟩ := Turn.go.inj h
    exact .inl ⟨rfl, rfl, rfl⟩
  | escape =>
    obtain ⟨rfl, rfl⟩ := Turn.go.inj h
    exact .inr ⟨rfl, rfl, rfl⟩
  | codeStart => cases h
  | code digits => cases h

theorem ahead_of_turns {last : Place} {found' : Option Char} (hc : c = '"' ∨ c = 'n')
    (h : turn place '\\' = .go next found) (h' : turn next c = .go last found') :
    found.toList.length + found'.toList.length + last.ahead ≤ 1 + place.ahead := by
  have hahead := ahead_of_turn h'
  rcases turn_backslash_cases h with ⟨rfl, rfl, rfl⟩ | ⟨rfl, rfl, rfl⟩
  · have hescape := ahead_of_turn_escape h'
    simpa [Place.ahead] using hescape
  · rcases hc with rfl | rfl
    · cases h'
    · obtain ⟨rfl, rfl⟩ := Turn.go.inj h'
      exact le_rfl

section

variable {n : ℕ} (hcs : ∀ place text, readFrom place cs = some (text, rest) → text.length ≤ n + place.ahead)

include hcs

theorem length_le_of_cons (h : readFrom place (c :: cs) = some (text, rest)) :
    text.length ≤ n + 1 + place.ahead := by
  rcases readFrom_cons_eq_some_iff.mp h with ⟨-, rfl, -⟩ | ⟨next, found, ds, hturn, hds, rfl⟩
  · exact Nat.zero_le _
  · have hahead := ahead_of_turn hturn
    have hle := hcs next ds hds
    rw [List.length_append]
    omega

theorem length_le_of_escape (hc : c = '"' ∨ c = 'n')
    (h : readFrom place ('\\' :: c :: cs) = some (text, rest)) :
    text.length ≤ n + 1 + place.ahead := by
  rcases readFrom_cons_eq_some_iff.mp h with ⟨-, rfl, -⟩ | ⟨next, found, ds, hturn, hds, rfl⟩
  · exact Nat.zero_le _
  rcases readFrom_cons_eq_some_iff.mp hds with ⟨-, rfl, -⟩ | ⟨last, found', es, hturn', hes, rfl⟩
  · have hahead := ahead_of_turn hturn
    rw [List.append_nil]
    omega
  · have hahead := ahead_of_turns hc hturn hturn'
    have hle := hcs last es hes
    rw [List.length_append, List.length_append]
    omega

end

theorem length_le_of_readFrom (h : readFrom place (escapedChars cs ++ '"' :: rest) = some (text, rest'))
    (hrest : rest.length ≤ rest'.length) : text.length ≤ cs.length + place.ahead := by
  induction cs generalizing place text with
  | nil =>
    rcases readFrom_cons_eq_some_iff.mp h with ⟨-, rfl, -⟩ | ⟨next, found, ds, -, hds, rfl⟩
    · exact Nat.zero_le _
    · have hbehind := length_lt_of_readFrom hds
      omega
  | cons c cs ih =>
    have hcs (place : Place) (text : List Char)
        (h : readFrom place (escapedChars cs ++ '"' :: rest) = some (text, rest')) :
        text.length ≤ cs.length + place.ahead := ih h
    by_cases hquote : c = '"'
    · rw [hquote, escapedChars_quote] at h
      exact length_le_of_escape hcs (.inl rfl) h
    by_cases hfeed : c = '\n'
    · rw [hfeed, escapedChars_lineFeed] at h
      exact length_le_of_escape hcs (.inr rfl) h
    · rw [escapedChars_of_ne hquote hfeed] at h
      exact length_le_of_cons hcs h

theorem readFrom_escape_ne (cs rest : List Char) :
    readFrom .escape (escapedChars cs ++ '"' :: rest) ≠ some ('\\' :: cs, rest) := by
  intro h
  cases cs with
  | nil =>
    rw [escapedChars_nil, List.nil_append, readFrom_of_found turn_escape_quote] at h
    simp at h
  | cons c cs =>
    by_cases hquote : c = '"'
    · rw [hquote, escapedChars_quote, List.cons_append, List.cons_append,
        readFrom_of_found turn_escape_backslash, readFrom_of_finish rfl] at h
      simp at h
    by_cases hfeed : c = '\n'
    · have hn : turn .plain 'n' = .go .plain (some 'n') := rfl
      rw [hfeed, escapedChars_lineFeed, List.cons_append, List.cons_append,
        readFrom_of_found turn_escape_backslash, readFrom_of_found hn] at h
      simp at h
    · rw [escapedChars_of_ne hquote hfeed, List.cons_append] at h
      rcases readFrom_cons_eq_some_iff.mp h with ⟨-, heq, -⟩ | ⟨next, found, ds, hturn, hds, heq⟩
      · exact absurd heq (List.cons_ne_nil _ _)
      · have hahead := ahead_of_turn_escape hturn
        have hle := length_le_of_readFrom hds le_rfl
        have hlength := congrArg List.length heq
        simp only [List.length_append, List.length_cons] at hlength
        omega

theorem readFrom_escapedChars_iff :
    readFrom .plain (escapedChars cs ++ '"' :: rest) = some (cs, rest) ↔ '\\' ∉ cs ∧ '\r' ∉ cs := by
  induction cs with
  | nil => simp [readFrom_of_finish (show turn .plain '"' = .finish from rfl)]
  | cons c cs ih =>
    by_cases hback : c = '\\'
    · have hescape : escapedChars (c :: cs) ++ '"' :: rest =
          '\\' :: (escapedChars cs ++ '"' :: rest) := by
        rw [hback]
        rfl
      rw [hescape, readFrom_of_silent turn_backslash, hback]
      simp [readFrom_escape_ne]
    by_cases hreturn : c = '\r'
    · have hrefuse : readFrom .plain (escapedChars (c :: cs) ++ '"' :: rest) = none := by
        rw [hreturn]
        rfl
      rw [hrefuse, hreturn]
      simp
    · rw [readFrom_escapedChars_cons_iff hback hreturn, ih]
      simp [Ne.symm hback, Ne.symm hreturn]

theorem escapedChars_ne_quote_cons (cs ds : List Char) : escapedChars cs ≠ '"' :: ds := by
  cases cs with
  | nil => exact (List.cons_ne_nil _ _).symm
  | cons c cs =>
    by_cases hquote : c = '"'
    · simp [hquote]
    by_cases hfeed : c = '\n'
    · simp [hfeed]
    · simp [escapedChars_of_ne hquote hfeed, hquote]

theorem escapedChars_eq_cons (h : escapedChars ds = c :: cs) :
    ∃ d es, ds = d :: es ∧
      ((d = '"' ∧ c = '\\' ∧ cs = '"' :: escapedChars es) ∨
        (d = '\n' ∧ c = '\\' ∧ cs = 'n' :: escapedChars es) ∨ (d = c ∧ cs = escapedChars es)) := by
  cases ds with
  | nil => cases h
  | cons d es =>
    refine ⟨d, es, rfl, ?_⟩
    by_cases hquote : d = '"'
    · rw [hquote, escapedChars_quote] at h
      obtain ⟨hc, hcs⟩ := List.cons.inj h
      exact .inl ⟨hquote, hc.symm, hcs.symm⟩
    by_cases hfeed : d = '\n'
    · rw [hfeed, escapedChars_lineFeed] at h
      obtain ⟨hc, hcs⟩ := List.cons.inj h
      exact .inr (.inl ⟨hfeed, hc.symm, hcs.symm⟩)
    · rw [escapedChars_of_ne hquote hfeed] at h
      obtain ⟨hc, hcs⟩ := List.cons.inj h
      exact .inr (.inr ⟨hc, hcs.symm⟩)

theorem eq_of_escapedChars_eq (h : escapedChars cs = escapedChars ds) :
    cs = ds ∨ ('\n' ∈ cs ∧ '\\' ∈ ds) ∨ ('\\' ∈ cs ∧ '\n' ∈ ds) := by
  induction cs generalizing ds with
  | nil =>
    exact .inl (escapedChars_eq_nil_iff.mp h.symm).symm
  | cons c cs ih =>
    have hrest {es : List Char} (h : escapedChars cs = escapedChars es) :
        c :: cs = c :: es ∨ ('\n' ∈ c :: cs ∧ '\\' ∈ c :: es) ∨ ('\\' ∈ c :: cs ∧ '\n' ∈ c :: es) := by
      rcases ih h with rfl | ⟨hcs, hes⟩ | ⟨hcs, hes⟩
      · exact .inl rfl
      · exact .inr (.inl ⟨List.mem_cons_of_mem _ hcs, List.mem_cons_of_mem _ hes⟩)
      · exact .inr (.inr ⟨List.mem_cons_of_mem _ hcs, List.mem_cons_of_mem _ hes⟩)
    by_cases hquote : c = '"'
    · subst hquote
      obtain ⟨d, es, rfl, ⟨rfl, -, heq⟩ | ⟨-, -, heq⟩ | ⟨rfl, heq⟩⟩ := escapedChars_eq_cons h.symm
      · exact hrest (List.tail_eq_of_cons_eq heq)
      · exact absurd (List.head_eq_of_cons_eq heq) (by decide)
      · exact absurd heq.symm (escapedChars_ne_quote_cons _ _)
    by_cases hfeed : c = '\n'
    · subst hfeed
      obtain ⟨d, es, rfl, ⟨-, -, heq⟩ | ⟨rfl, -, heq⟩ | ⟨rfl, -⟩⟩ := escapedChars_eq_cons h.symm
      · exact absurd (List.head_eq_of_cons_eq heq) (by decide)
      · exact hrest (List.tail_eq_of_cons_eq heq)
      · exact .inr (.inl ⟨List.mem_cons_self, List.mem_cons_self⟩)
    · rw [escapedChars_of_ne hquote hfeed] at h
      obtain ⟨d, es, rfl, ⟨-, -, heq⟩ | ⟨rfl, rfl, -⟩ | ⟨rfl, heq⟩⟩ := escapedChars_eq_cons h.symm
      · exact absurd heq (escapedChars_ne_quote_cons _ _)
      · exact .inr (.inr ⟨List.mem_cons_self, List.mem_cons_self⟩)
      · exact hrest heq

end

theorem literal_ne (text : String) : literal text ≠ "" := by
  intro h
  exact absurd (String.append_eq_empty_iff.mp h).2 (by decide)

theorem readLiteral_literal_iff (text : String) (rest : List Char) :
    readLiteral ((literal text).toList ++ rest) = some (text.toList, rest) ↔
      Lacks '\\' text ∧ Lacks '\r' text := by
  rw [literal_append]
  exact readFrom_escapedChars_iff

/-- A literal is printed on a line of its own or as the message of an attribute. It is read as its text,
up to the closing quote that was printed, just if the text has neither a backslash nor a carriage
return. Two texts are escaped in the same way only if they are the same, or one has a line feed and the
other a backslash. -/
theorem literal_reads_back_iff (w : Workshop) (s : Session) (text : String) :
    Gives ((Action.literal (some text)).perform w) s (s.printer.indent.Fits s.printer.level) .nothing
      { s with printer := s.printer.put ⟨0, literal text⟩ } ∧
    Gives ((Action.deprecation true (.text text)).perform w) s
      (s.printer.indent.Fits s.printer.level) .nothing
      { s with printer :=
          s.printer.put ⟨0, "@available(*, deprecated, message: " ++ literal text ++ ")"⟩ } ∧
    (∀ rest, readLiteral ((literal text).toList ++ rest) = some (text.toList, rest) ↔
      Lacks '\\' text ∧ Lacks '\r' text) ∧
    ∀ other, escapedText text = escapedText other →
      text = other ∨ (¬ Lacks '\n' text ∧ ¬ Lacks '\\' other) ∨
        (¬ Lacks '\\' text ∧ ¬ Lacks '\n' other) := by
  refine ⟨?_, ?_, readLiteral_literal_iff text, ?_⟩
  · refine ((gives_line (literal_ne text)).seq (gives_pure _ _)).congr ?_
    simp
  · have hattribute : Gives (deprecationAttribute (.text text)) s
        (s.printer.indent.Fits s.printer.level) ()
        { s with printer := s.printer.put ⟨0, deprecation text⟩ } :=
      (gives_deprecationAttribute (.text text)).congr (by simp [GraphQL.Note.words?])
    refine (hattribute.seq (gives_pure _ _)).congr ?_
    simp
  · intro other h
    have hchars := congrArg String.toList h
    rw [toList_escapedText, toList_escapedText] at hchars
    simpa [Lacks, String.toList_inj] using eq_of_escapedChars_eq hchars

theorem folder_literal_runs_on :
    readLiteral (literal "C:\\").toList = none ∧ escapedText "\\n" = escapedText "\n" := by
  decide

end RealmModels.Swift
