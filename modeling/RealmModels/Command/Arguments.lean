import RealmModels.Command.Options
import RealmModels.Text.Digits

namespace RealmModels.Command

inductive Word where
  | plain (s : String)
  | switch (s : Switch) (attached : Option String)
  | unknown
  | separator
  deriving DecidableEq, Repr

def isNegativeNumber (cs : List Char) : Bool :=
  match cs with
  | '-' :: cs =>
    let (whole, rest) := cs.span Text.isDecimalDigit
    let isEnd := fun (cs : List Char) => cs = [] || cs = ['\n']
    match rest with
    | '.' :: rest =>
      let (fraction, rest) := rest.span Text.isDecimalDigit
      !fraction.isEmpty && isEnd rest
    | _ => !whole.isEmpty && isEnd rest
  | _ => false

def spelled? (s : List Char) : Option Switch :=
  (spellings.find? (·.1.toList == s)).map Prod.snd

def attached (cs : List Char) : List Char × Option String :=
  match cs.span (· != '=') with
  | (name, '=' :: value) => (name, some (String.ofList value))
  | _ => (cs, none)

def candidates (cs : List Char) : List Word :=
  let starting := fun (name : List Char) (value : Option String) =>
    (spellings.filter fun s => name.isPrefixOf s.1.toList).map fun s => Word.switch s.2 value
  match cs with
  | '-' :: '-' :: _ =>
    let (name, value) := attached cs
    starting name value
  | _ =>
    ((spelled? (cs.take 2)).map fun s => .switch s (some (String.ofList (cs.drop 2)))).toList ++
      starting cs none

def word? (s : String) : Option Word :=
  let cs := s.toList
  if cs.head? != some '-' || cs.length == 1 then some (.plain s)
  else
    match spelled? cs with
    | some switch => some (.switch switch none)
    | none =>
      let (name, value) := attached cs
      match value, spelled? name with
      | some value, some switch => some (.switch switch (some value))
      | _, _ =>
        match candidates cs with
        | [] => some (if isNegativeNumber cs || cs.contains ' ' then .plain s else .unknown)
        | [w] => some w
        | _ => none

def words? : List String → Option (List Word)
  | [] => some []
  | "--" :: rest => some (.separator :: rest.map .plain)
  | s :: rest => do return (← word? s) :: (← words? rest)

structure Reading where
  options : Options := {}
  hasExtra : Bool := false

namespace Reading

def withFlag (r : Reading) (f : Flag) : Reading :=
  { r with options := { r.options with flags := r.options.flags ++ [f] } }

def withSchema? (r : Reading) (s : String) : Option Reading :=
  if (r.options.value? .url).isSome then none
  else some { r with options := { r.options with schema := some s } }

def withValue? (r : Reading) (k : Key) (v : String) : Option Reading :=
  if k = .url && r.options.schema.isSome then none
  else if k = .logLevel && !(levelNames.any (·.1 == v)) then none
  else some { r with options := { r.options with values := r.options.values ++ [(k, v)] } }

def withExtra (r : Reading) : Reading := { r with hasExtra := true }

def plainRest (r : Reading) : List Word → Option Reading
  | [] => some r
  | .plain s :: rest => do
    if r.options.schema.isSome then return r.withExtra
    let r ← r.withSchema? s
    return if rest.isEmpty then r else r.withExtra
  | _ => some r.withExtra

def words (r : Reading) : List Word → Option Reading
  | [] => some r
  | .plain s :: .separator :: rest => do
    if r.options.schema.isSome then return r.withExtra
    let r ← r.withSchema? s
    return if rest.isEmpty then r else r.withExtra
  | .plain s :: rest => do
    if r.options.schema.isSome then words r.withExtra rest
    else words (← r.withSchema? s) rest
  | .switch (.flag f) none :: rest =>
    if f = .help then some (r.withFlag f) else words (r.withFlag f) rest
  | .switch (.flag _) (some _) :: _ => none
  | .switch (.key k) (some v) :: rest => do words (← r.withValue? k v) rest
  | .switch (.key k) none :: .plain v :: rest => do words (← r.withValue? k v) rest
  | .switch (.key _) none :: _ => none
  | .unknown :: rest => words r.withExtra rest
  | .separator :: rest => if r.options.schema.isSome then some r.withExtra else plainRest r rest

end Reading

def Options.ofArguments? (arguments : List String) : Option Options := do
  let r ← Reading.words {} (← words? arguments)
  if r.hasExtra && !r.options.has .help then none else return r.options

end RealmModels.Command
