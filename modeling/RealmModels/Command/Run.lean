import RealmModels.Command.Arguments
import RealmModels.Console.Table
import RealmModels.Loading
import RealmModels.Report
import RealmModels.Settings.Source

/-!
Running the command: a schema is loaded, models are generated from it, and their source is written
to a file or to the standard output. What is said about it goes to a console.
-/

namespace RealmModels.Command

open Remote

inductive Shown where
  | output (text : String)
  | console (ls : List (List Char))

namespace Shown

def text : Shown → String
  | output s => s
  | console _ => ""

def lines : Shown → List (List Char)
  | output _ => []
  | console ls => ls

end Shown

structure Desk where
  disk : Disk
  journal : Journal := {}
  shown : List Shown := []

namespace Desk

def output (d : Desk) : String := String.join (d.shown.map Shown.text)

def console (d : Desk) : List (List Char) := d.shown.flatMap Shown.lines

def showing (d : Desk) (s : Shown) : Desk := { d with shown := d.shown ++ [s] }

end Desk

/-- The most places of white space in front of a line, and of lists and objects of JSON in each other,
that a run has room for. -/
structure Limits where
  places : Option Nat := none
  levels : Option Nat := none

/-- What a run depends on besides its input: the limits of the machine, and what libraries say about
errors that they have found themselves, behind what is said about the place of the error. -/
structure Surroundings where
  limits : Limits := {}
  definitions : String := ""
  introspection : String := ""
  fault : Fault → String := fun _ => ""

namespace Surroundings

def onLoad (w : Surroundings) : LoadError → String
  | .trouble (.fileNotDefinitions _) => w.definitions
  | .noResult .invalid _ => w.introspection
  | _ => ""

def onFault (w : Surroundings) (f : Fault) : String := if f.message?.isNone then w.fault f else ""

end Surroundings

inductive Stop where
  | load (e : LoadError)
  | settings (e : SettingsError)
  | outputNotPath
  | unusablePath
  | marks (fault : Console.MarkFault)
  deriving DecidableEq, Repr

inductive Ending where
  | exit (code : Nat)
  | misused
  | stopped (s : Stop)
  deriving DecidableEq, Repr

abbrev Running := EStateM Stop Desk

def consoleWidth : Nat := 200

namespace Running

def sayLines (ls : List (List Char)) : Running Unit := modify fun d => d.showing (.console ls)

def print (code : String) : Running Unit := modify fun d => d.showing (.output (code ++ "\n"))

def say (markup : String) : Running Unit :=
  match Console.plain markup with
  | .ok cs => sayLines (Console.wrap .fold consoleWidth cs)
  | .error fault => throw (.marks fault)

def sayTable (t : Console.Table) : Running Unit :=
  match t.render consoleWidth with
  | .ok ls => sayLines ls
  | .error fault => throw (.marks fault)

def refuse (message : String) : Running Nat := do
  say ("[red]✗ Error:[/red] " ++ message)
  return 1

def load (send : Request → Reply) (w : Surroundings) (o : Options) :
    Running (Except String GraphQL.Schema) := fun d =>
  let request : Request := { url := o.value .url }
  match Loading.either d.disk send (o.schema.getD "") request w.limits.levels d.journal with
  | .ok loaded j => .ok (.ok loaded.schema) { d with journal := j }
  | .error e j =>
    match e.message? with
    | some m => .ok (.error (m ++ w.onLoad e)) { d with journal := j }
    | none => .error (.load e) { d with journal := j }

def settings (w : Surroundings) (o : Options) : Running (Except String Settings) := fun d =>
  let file := if o.isSet .config then some (Path.ofString (o.value .config)) else none
  let (events, loaded) := Settings.load d.disk file o.overrides w.limits.levels
  let d := { d with journal := { d.journal with events := d.journal.events ++ events } }
  match loaded with
  | .ok s => .ok (.ok s) d
  | .error e => if e.isReported then .ok (.error e.message) d else .error (.settings e) d

def report (w : Surroundings) (s : Settings) (schema : GraphQL.Schema) : Running Report := fun d =>
  match Report.generate s schema (s.session w.limits.places) with
  | .ok r after =>
    .ok r { d with journal := { d.journal with events := d.journal.events ++ after.events } }
  | .error f after =>
    .ok (.failure f)
      { d with journal := { d.journal with events := d.journal.events ++ after.events } }

def metadataTable (m : Metadata) : Console.Table :=
  { title := "📊 Generation Metadata"
    head := ("Property", "Value")
    rows := [("Language", m.language), ("File Extension", m.fileExtension),
      ("Type Count", toString m.typeCount), ("Namespace", m.namespaceName.display),
      ("Has Uncaught Scalars", (Json.bool m.hasUncaughtScalars).display)] }

def sayMetadata (m : Metadata) : Running Unit := do
  sayLines [[]]
  sayTable (metadataTable m)

def sayWarnings (ws : List Warning) : Running Unit := do
  if !ws.isEmpty then
    say "\n[yellow]⚠️  Warnings:[/yellow]"
    ws.forM fun w => say ("  [yellow]•[/yellow] " ++ w.message)

def save (p : Path) (code : String) : Running Bool := do
  match (← get).disk.write p (code ++ "\n") with
  | .ok disk =>
    modify fun d => { d with disk := disk }
    say ("[green]✓[/green] Generated Realm models saved to [cyan]" ++ p.toString ++ "[/cyan]")
    return true
  | .error .nulInName => throw .unusablePath
  | .error reason =>
    say ("[red]✗ Failed to write to " ++ p.toString ++ ":[/red] " ++ reason.message p)
    return false

def deliver (s : Settings) (code : String) : Running Bool := do
  match s.value .outputFile with
  | .str path =>
    if path ≠ "" then save (Path.ofString path) code
    else
      print code
      return true
  | v =>
    if v.truthy then throw .outputNotPath
    print code
    return true

def generate (w : Surroundings) (o : Options) (s : Settings) (schema : GraphQL.Schema) :
    Running Nat := do
  match ← report w s schema with
  | .failure f =>
    say ("[red]✗ Code generation failed:[/red] " ++ Report.errorMessage f ++ w.onFault f)
    return 1
  | .success code ws m =>
    if !(← deliver s code) then return 1
    if o.has .verbose then sayMetadata m
    sayWarnings ws
    return 0

def main (send : Request → Reply) (w : Surroundings) (o : Options) : Running Nat := do
  if o.schema.getD "" = "" && !o.isSet .url then
    refuse "Input source required (schema file or --url)"
  else
    match ← load send w o with
    | .error message => refuse message
    | .ok schema =>
      match ← settings w o with
      | .error message => refuse message
      | .ok s => generate w o s schema

end Running

def run (d : Disk) (send : Request → Reply) (arguments : List String) (w : Surroundings := {}) :
    Ending × Desk :=
  match Options.ofArguments? arguments with
  | none => (.misused, { disk := d })
  | some o =>
    if o.has .help then (.exit 0, { disk := d })
    else
      match Running.main send w o { disk := d } with
      | .ok code desk => (.exit code, desk)
      | .error s desk => (.stopped s, desk)

end RealmModels.Command
