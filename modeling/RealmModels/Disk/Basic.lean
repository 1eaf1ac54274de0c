import RealmModels.Disk.Path
import RealmModels.Text.Quoted

namespace RealmModels

inductive Content where
  | text (s : String)
  | bytes (bs : ByteArray)

def Content.decode? : Content → Option String
  | text s => some s
  | bytes bs => String.fromUTF8? bs

structure Disk where
  files : List (List String × Content)
  folders : List (List String) := []

inductive OpenError where
  | missing
  | notFolder
  | isFolder
  | nameTooLong
  | nulInName
  deriving DecidableEq, Repr

def OpenError.message (e : OpenError) (path : Path) : String :=
  let (number, words) :=
    match e with
    | missing => ("2", "No such file or directory")
    | notFolder => ("20", "Not a directory")
    | isFolder => ("21", "Is a directory")
    | nameTooLong => ("36", "File name too long")
    | nulInName => ("22", "Invalid argument")
  "[Errno " ++ number ++ "] " ++ words ++ ": " ++ Text.quoted path.toString

namespace Disk

def file? (d : Disk) (place : List String) : Option Content :=
  (d.files.find? (·.1 == place)).map Prod.snd

def rootName : String := "/"

def isFolder (d : Disk) (place : List String) : Bool :=
  place.all (· == "..") || place == [rootName] ||
    (d.folders ++ d.files.map (fun f => f.1.dropLast)).any (place.isPrefixOf ·)

def above (place : List String) : List String :=
  if place.all (· == "..") then place ++ [".."]
  else if place == [rootName] then place
  else place.dropLast

def longestName : Nat := 255

def longestPath : Nat := 4095

def walk (d : Disk) (place : List String) : List String → Except OpenError (List String)
  | [] => .ok place
  | name :: rest =>
    if d.isFolder place then
      if longestName < name.utf8ByteSize then .error .nameTooLong else
      d.walk (if name = ".." then above place else place ++ [name]) rest
    else if (d.file? place).isSome then .error .notFolder
    else .error .missing

def start (p : Path) : List String := if p.isAbsolute then [rootName] else []

def locate (d : Disk) (p : Path) : Except OpenError (List String) :=
  if p.toString.contains '\x00' then .error .nulInName
  else if longestPath < p.toString.utf8ByteSize then .error .nameTooLong
  else d.walk (start p) p.names

def pathExists? (d : Disk) (p : Path) : Except OpenError Bool :=
  match d.locate p with
  | .ok place => .ok (d.isFolder place || (d.file? place).isSome)
  | .error .nameTooLong => .error .nameTooLong
  | .error _ => .ok false

def content (d : Disk) (p : Path) : Except OpenError Content := do
  let place ← d.locate p
  if d.isFolder place then throw .isFolder
  match d.file? place with
  | some c => return c
  | none => throw .missing

def write (d : Disk) (p : Path) (text : String) : Except OpenError Disk := do
  let place ← d.locate p
  if d.isFolder place then throw .isFolder
  return { d with files := d.files.filter (·.1 != place) ++ [(place, .text text)] }

def ofPaths (files : List (String × Content)) (folders : List String) : Disk :=
  let place := fun p => start (Path.ofString p) ++ (Path.ofString p).names
  { files := files.map fun (p, c) => (place p, c)
    folders := folders.map place }

end Disk

end RealmModels
