import RealmModels.Log.Event
import RealmModels.Text.LetterCase

namespace RealmModels.Log

def qualified (root name : String) : String :=
  if name = root || (root ++ ".").toList.isPrefixOf name.toList then name else root ++ "." ++ name

inductive HandlerKind where
  | styled
  | plain
  deriving DecidableEq, Repr

inductive LevelValue where
  | number (n : Int)
  | truth (b : Bool)
  deriving DecidableEq, Repr

structure Handler where
  kind : HandlerKind
  level : LevelValue
  deriving DecidableEq, Repr

inductive LevelRequest where
  | value (v : LevelValue)
  | name (s : String)
  | neither
  deriving DecidableEq, Repr

inductive LevelError where
  | notNumber
  | wrongType
  deriving DecidableEq, Repr

def levelNumbers : List (String × Int) :=
  [("CRITICAL", 50), ("FATAL", 50), ("ERROR", 40), ("WARNING", 30), ("WARN", 30), ("INFO", 20),
   ("DEBUG", 10), ("NOTSET", 0)]

def formatNames : List (String × LevelError) :=
  [("BASIC_FORMAT", .notNumber), ("_STYLES", .wrongType)]

def LevelRequest.resolve : LevelRequest → Except LevelError LevelValue
  | value v => .ok v
  | neither => .error .wrongType
  | name s =>
    let upper := String.ofList (Text.upper s.toList)
    match formatNames.find? (·.1 == upper) with
    | some (_, e) => .error e
    | none =>
      let found := levelNumbers.find? (·.1 == upper)
      .ok (.number ((found.map Prod.snd).getD Level.warning.number))

structure Setup where
  level : LevelValue := .number Level.warning.number
  handlers : List Handler := []
  deriving DecidableEq, Repr

def Setup.apply (s : Setup) (request : LevelRequest) (kind : HandlerKind) :
    Except LevelError Setup := do
  let v ← request.resolve
  let handlers :=
    if s.handlers.isEmpty then [⟨kind, v⟩] else s.handlers.map fun h => { h with level := v }
  return { level := v, handlers := handlers }

end RealmModels.Log
