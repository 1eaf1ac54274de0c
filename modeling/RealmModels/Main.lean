import RealmModels.Command.Run

/-!
The command itself: reads the files that its arguments name, runs, writes what has changed and prints
the rest. It has no way to send requests, so a URL is always answered with a failure.
-/

open RealmModels

namespace RealmModels.Main

def usage : String := "usage: realm-models [schema | --url URL] [-o OUTPUT] [--config FILE] [options]"

def visit (d : Disk) (path : String) : IO Disk := do
  if path = "" then return d
  let found ← (IO.FS.readBinFile path).toBaseIO
  let here := match found with
    | .ok bytes => Disk.ofPaths [(path, .bytes bytes)] []
    | .error (.noFileOrDirectory ..) => Disk.ofPaths [] []
    | .error _ => Disk.ofPaths [] [path]
  return { files := d.files ++ here.files, folders := d.folders ++ here.folders }

def allowing (d : Disk) (output : Path) : Disk :=
  { d with folders := d.folders ++ [Disk.start output ++ output.names.dropLast] }

def prepared (o : Command.Options) : IO Disk := do
  let d ← visit (← visit ⟨[], []⟩ (o.schema.getD "")) (o.value .config)
  let file := if o.isSet .config then some (Path.ofString (o.value .config)) else none
  match (Settings.load d file o.overrides).2 with
  | .ok s =>
    match s.value .outputFile with
    | .str output => return allowing d (Path.ofString output)
    | _ => return d
  | .error _ => return d

def noTransport : Remote.Reply := .failed .other "requests cannot be sent from here"

def pathOf (place : List String) : String :=
  match place with
  | first :: rest =>
    if first = Disk.rootName then "/" ++ Text.joinWith "/" rest else Text.joinWith "/" place
  | [] => "."

def writeAll (d : Disk) : IO Unit :=
  d.files.forM fun (place, c) => do
    match c with
    | .text s => IO.FS.writeFile (pathOf place) s
    | .bytes _ => pure ()

def exitCode : Command.Ending → UInt32
  | .exit code => code.toUInt32
  | .misused => 2
  | .stopped _ => 1

end RealmModels.Main

open RealmModels.Main

def main (arguments : List String) : IO UInt32 := do
  match Command.Options.ofArguments? arguments with
  | none =>
    IO.eprintln usage
    return 2
  | some o =>
    if o.has .help then IO.println usage
    let disk ← prepared o
    let (ending, desk) := Command.run disk (fun _ => noTransport) arguments
    writeAll desk.disk
    desk.shown.forM fun
      | .output s => IO.print s
      | .console ls => ls.forM fun l => IO.println (String.ofList l)
    if let .stopped _ := ending then IO.eprintln "stopped without a report"
    return exitCode ending
