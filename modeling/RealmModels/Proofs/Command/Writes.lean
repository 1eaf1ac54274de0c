import Mathlib
import RealmModels.Proofs.Command.Course

/-!
What a run changes. A failed one changes no file and puts nothing on the standard output; a successful
one writes the code for the schema and the settings to the file that they name, or else shows it first.
-/

namespace RealmModels.Command

open Remote

inductive Delivered (d : Disk) (v : Json) (text : String) (desk : Desk) : Prop
  | saved (name : String) (hv : v = .str name) (hname : name ≠ "")
      (hsaves : d.Saves desk.disk (Path.ofString name) text) (hshown : ∀ s ∈ desk.shown, s.IsRemark)
  | printed (remarks : List Shown) (hv : v.truthy = false) (hdisk : desk.disk = d)
      (hshown : desk.shown = .output text :: remarks) (hremarks : ∀ s ∈ remarks, s.IsRemark)

theorem Left.delivered {d : Disk} {v : Json} {text : String} {desk : Desk}
    (h : Left { disk := d } v text desk) : Delivered d v text desk := by
  cases h with
  | saved name d' hv hname h hremarks =>
    obtain ⟨remarks, hshown, hall⟩ := hremarks.shown
    refine .saved name hv hname ?_ ?_
    · rw [hremarks.disk]
      exact Disk.saves_of_write h
    · rwa [hshown]
  | printed hv hremarks =>
    obtain ⟨remarks, hshown, hall⟩ := hremarks.shown
    exact .printed remarks hv hremarks.disk hshown hall

variable {d : Disk} {send : Request → Reply} {arguments : List String} {w : Surroundings} {o : Options}

theorem run_eq (h : Options.ofArguments? arguments = some o) (hhelp : o.has .help = false) :
    run d send arguments w =
      match Running.main send w o { disk := d } with
      | .ok code desk => (.exit code, desk)
      | .error s desk => (.stopped s, desk) := by
  simp only [run, h, hhelp]
  rfl

theorem ended_of_run {exit : ℕ} {desk : Desk} (h : Options.ofArguments? arguments = some o)
    (hhelp : o.has .help = false) (hrun : run d send arguments w = (.exit exit, desk)) :
    Ended { disk := d } send w o exit desk := by
  rw [run_eq h hhelp] at hrun
  obtain ⟨exit', hmain⟩ := ends_main send w o { disk := d }
  rcases hmain with ⟨-, s, desk', hmain⟩ | ⟨-, desk', hmain, hended⟩
  · rw [hmain] at hrun
    cases hrun
  · rw [hmain] at hrun
    cases hrun
    exact hended

def pebbleText : String := "type Pebble \x7b mass: Int \x7d"

def pebbleDisk : Disk := ⟨[(["a.gql"], .text pebbleText)], []⟩

def noTransport : Request → Reply := fun _ => .failed .other ""

theorem pebbleDisk_reads : pebbleDisk.Reads (Path.ofString "a.gql") pebbleText :=
  ⟨.text pebbleText, pebbleText, by cbv, rfl, by decide +kernel⟩

def succeedsQuietly (s : GraphQL.Schema) : Bool :=
  match Report.generate .default s Settings.default.session with
  | .ok (.success _ ws _) _ => ws.isEmpty
  | _ => false

theorem reports_of_succeedsQuietly {s : GraphQL.Schema} (h : succeedsQuietly s = true) :
    ∃ code facts, Running.Reports {} .default s (.success code [] facts) := by
  rw [succeedsQuietly] at h
  split at h
  · next code ws facts after hreport =>
    obtain rfl := List.isEmpty_iff.mp h
    exact ⟨code, facts, after, hreport⟩
  · cases h

theorem pebble_reports : ∃ s code facts, GraphQL.Schema.ofText pebbleText = .ok s ∧
    Running.Reports {} .default s (.success code [] facts) := by
  have hall : (GraphQL.Schema.ofText pebbleText).toOption.any succeedsQuietly = true := by
    decide +kernel
  cases hs : GraphQL.Schema.ofText pebbleText with
  | error e =>
    rw [hs] at hall
    cases hall
  | ok s =>
    rw [hs] at hall
    obtain ⟨code, facts, hreport⟩ := reports_of_succeedsQuietly hall
    exact ⟨s, code, facts, rfl, hreport⟩

theorem pebble_run : ∃ desk, run pebbleDisk noTransport ["a.gql"] = (.exit 0, desk) := by
  obtain ⟨s, code, facts, hschema, hreport⟩ := pebble_reports
  have hdefinitions : Loading.Yields (Loading.schemaOf (Path.ofString "a.gql") pebbleText none) (.ok s) := by
    rw [Loading.schemaOf, if_neg (by decide +kernel), Loading.schemaOfDefinitions, hschema]
    exact Loading.yields_pure s
  have hload : Loading.Yields (Options.loading { schema := some "a.gql" } pebbleDisk noTransport {}) _ :=
    Loading.yields_file_of_text (Loading.yields_readText_of_reads pebbleDisk_reads) hdefinitions
  have hmain : Running.Ends (Running.main noTransport {} { schema := some "a.gql" })
      { disk := pebbleDisk } _ _ _ :=
    ends_main_printed (s := .default) (fun h => absurd h.1 (by decide)) hload rfl hreport rfl
  rcases hmain with ⟨hnot, -⟩ | ⟨-, desk, hmain, -⟩
  · rcases hnot with ⟨hverbose, -⟩ | ⟨warning, hwarning, -⟩
    · cases hverbose
    · exact absurd hwarning List.not_mem_nil
  · refine ⟨desk, ?_⟩
    rw [run_eq (o := { schema := some "a.gql" }) rfl rfl, hmain]

end RealmModels.Command
