import Mathlib
import RealmModels.Proofs.Model.SourceOutcome
import RealmModels.Proofs.Printer.Indent
import RealmModels.Report

namespace RealmModels

namespace Line

def Within (d : ℕ) (ls : List Line) : Prop := ∀ l ∈ ls, l.depth ≤ d

namespace Within

variable {d e : ℕ} {ls ls' : List Line}

theorem append (h : Within d ls) (h' : Within d ls') : Within d (ls ++ ls') :=
  List.forall_mem_append.mpr ⟨h, h'⟩

theorem mono (h : Within d ls) (hde : d ≤ e) : Within e ls := fun l hl => (h l hl).trans hde

theorem flat (texts : List String) : Within d (texts.map (Line.mk 0)) :=
  List.forall_mem_map.mpr fun _ _ => Nat.zero_le d

theorem blank (h : Within d ls) : Within d (.blank :: ls) :=
  List.forall_mem_cons.mpr ⟨Nat.zero_le d, h⟩

theorem block (h : Within d ls) (header : String) :
    Within (d + 1) (Writing.bracedLines header ls) := by
  refine List.forall_mem_cons.mpr ⟨Nat.zero_le _, Within.append ?_ ?_⟩
  · exact List.forall_mem_map.mpr fun l hl => Nat.succ_le_succ (h l hl)
  · exact List.forall_mem_singleton.mpr (Nat.zero_le _)

theorem hasRoom (h : Within d ls) {p : Printer} (hp : p.indent.Fits (p.level + d)) :
    p.HasRoom ls := fun l hl _ => Indent.fits_mono (Nat.add_le_add_left (h l hl) p.level) hp

end Within

end Line

theorem Settings.unit_indent (settings : Settings) (room : Option ℕ) :
    (settings.indent room).unit = settings.indent.unit := by
  unfold indent
  split
  · rfl
  · split <;> rfl

theorem Settings.session_indent (settings : Settings) (room : Option ℕ) :
    (settings.session room).printer.indent = settings.indent room := rfl

namespace Model

open GraphQL Swift Writing Line

theorem within_propertyLines (naming : TypeNaming) (t : TypeRef) (name : String) :
    Within 1 (propertyLines naming t name) := by
  rw [propertyLines]
  split
  · exact List.forall_mem_nil _
  · refine List.forall_mem_cons.mpr ⟨Nat.zero_le 1, ?_⟩
    split
    · exact Within.block (List.forall_mem_singleton.mpr (Nat.zero_le 0)) _
    · exact List.forall_mem_nil _

theorem within_fieldLines (style : Style) (f : Field) (name : String) :
    Within 1 (fieldLines style f name) := by
  refine Within.append (Within.append (Within.flat _) ?_) (within_propertyLines _ _ _)
  rw [attributeLines]
  split
  · exact List.forall_mem_singleton.mpr (Nat.zero_le 1)
  · exact List.forall_mem_nil _

theorem within_initializerLines (style : Style) (xs : List (Field × String)) :
    Within 1 (initializerLines style xs) := by
  refine Within.append (Within.blank (Within.block (Within.append ?_ ?_) _)) ?_
  · exact List.forall_mem_map.mpr fun _ _ => Nat.zero_le 0
  · exact List.forall_mem_singleton.mpr (Nat.zero_le 0)
  · intro l hl
    obtain ⟨x, -, hx⟩ := List.mem_flatMap.mp hl
    exact Within.blank (Within.block (List.forall_mem_singleton.mpr (Nat.zero_le 0)) _) l hx

theorem within_classLines (style : Style) (name : String) (fs : List Field) :
    Within 2 (classLines style name fs) := by
  refine Within.block (Within.append ?_ ?_) _
  · intro l hl
    obtain ⟨x, -, hx⟩ := List.mem_flatMap.mp hl
    exact within_fieldLines style x.1 x.2 l hx
  · split
    · exact within_initializerLines style _
    · exact List.forall_mem_nil _

theorem within_classesLines (style : Style) (isFirst : Bool) (ms : List ObjectType) :
    Within 2 (classesLines style isFirst ms) := by
  induction ms generalizing isFirst with
  | nil => exact List.forall_mem_nil _
  | cons m ms ih =>
    refine Within.append (Within.append ?_ (within_classLines style m.name m.fields)) (ih false)
    split
    · exact List.forall_mem_nil _
    · exact List.forall_mem_singleton.mpr (Nat.zero_le 2)

theorem within_sourceLines (style : Style) (s : Schema) : Within 3 (sourceLines style s) := by
  refine Within.append (Within.flat _) ?_
  split
  · exact List.forall_mem_nil _
  · rw [modelLines]
    split
    · exact (within_classesLines style false s.models).mono (by decide)
    · exact Within.append (Within.blank (Within.flat _))
        (Within.block (within_classesLines style true s.models) _)

structure ClassFits (style : Style) (p : Printer) (fs : List Field) : Prop where
  indent : p.indent.Fits (p.level + 2)
  fields : ∀ f ∈ fs, Declarable style f
  scopes : p.scopes.all (·.isText) = true

theorem ClassFits.declareClass {style : Style} {s : Session} {fs : List Field}
    (h : ClassFits style s.printer fs) (name : String) :
    ∃ t, Model.declareClass style name (some fs) s = .ok () t := by
  obtain ⟨p, n, e⟩ := s
  have hcan : CanDeclare style p.scopes (namedFields fs) := by
    intro x hx
    exact ⟨h.fields x.1 (mem_of_mem_namedFields hx), fun _ => h.scopes⟩
  have hroom : p.HasRoom (classLines style name fs) :=
    (within_classLines style name fs).hasRoom h.indent
  exact ⟨_, (gives_declareClass style name fs).ok ⟨hroom, hcan⟩⟩

theorem declarable_of_words {style : Style} {f : Field}
    (hstart : style.typeNaming.customPrefix.isSome = true) (htype : f.type.IsOutput)
    (hwords : f.description.words?.isSome = true ∧ f.deprecationReason.words?.isSome = true) :
    Declarable style f := by
  refine ⟨⟨htype, fun _ _ => hstart⟩, ?_, fun _ => hwords.2⟩
  rw [shownDescription]
  split
  · exact hwords.1
  · rfl

theorem canDeclare_models {style : Style} {s : Schema}
    (hscope : ∀ frame ∈ style.scope, frame.isText = true)
    (hfields : ∀ m ∈ s.models, ∀ f ∈ m.fields, Declarable style f) :
    ∀ m ∈ s.models, CanDeclare style style.scope.toList (namedFields m.fields) := by
  intro m hm x hx
  refine ⟨hfields m hm x.1 (mem_of_mem_namedFields hx), fun _ => List.all_eq_true.mpr ?_⟩
  intro frame hframe
  exact hscope frame (Option.mem_toList.mp hframe)

/-- What writing the models of a schema needs: room for the deepest line, texts for the prefix and the
namespace, and for each field an output type and words for what is said about it. -/
structure Fitting (style : Style) (i : Indent) (s : Schema) : Prop where
  indent : i.Fits 3
  customPrefix : style.typeNaming.customPrefix.isSome = true
  scope : ∀ frame ∈ style.scope, frame.isText = true
  types : ∀ m ∈ s.models, ∀ f ∈ m.fields, f.type.IsOutput
  notes : ∀ m ∈ s.models, ∀ f ∈ m.fields,
    f.description.words?.isSome = true ∧ f.deprecationReason.words?.isSome = true

namespace Fitting

variable {style : Style} {i : Indent} {s : Schema}

theorem hasRoom (h : Fitting style i s) : (Printer.fresh i).HasRoom (sourceLines style s) := by
  refine (within_sourceLines style s).hasRoom ?_
  exact (Nat.zero_add 3).symm ▸ h.indent

theorem declarable (h : Fitting style i s) {m : ObjectType} (hm : m ∈ s.models) {f : Field}
    (hf : f ∈ m.fields) : Declarable style f :=
  declarable_of_words h.customPrefix (h.types m hm f hf) (h.notes m hm f hf)

theorem source (h : Fitting style i s) {w : Session} (hw : w.printer.indent = i) :
    ∃ code t, Model.source style s w = .ok code t := by
  obtain ⟨p, n, e⟩ := w
  obtain rfl : p.indent = i := hw
  have hcan := canDeclare_models h.scope fun m hm f hf => h.declarable hm hf
  exact ⟨_, _, (gives_source s).ok ⟨h.hasRoom, hcan⟩⟩

theorem declareClass (h : Fitting style i s) {m : ObjectType} (hm : m ∈ s.models) :
    ∃ t, Model.declareClass style m.name (some m.fields) (Session.new i) = .ok () t := by
  apply ClassFits.declareClass
  constructor
  · exact Indent.fits_mono (k := 0 + 2) (by decide) h.indent
  · intro f hf
    exact h.declarable hm hf
  · rfl

end Fitting

def friend : Field :=
  ⟨"friend", .named ⟨"Node", .interface⟩, [], .text "The closest one.", .absent⟩

def person : TypeDef :=
  ⟨"Person", .object []
    [⟨"id", .nonNull (.named ⟨"ID", .scalar⟩), [], .absent, .absent⟩,
      ⟨"nick_name", .named ⟨"String", .scalar⟩, [], .absent, .absent⟩,
      ⟨"nickName", .named ⟨"String", .scalar⟩, [], .absent, .absent⟩,
      ⟨"born", .named ⟨"Date", .scalar⟩, [], .absent, .absent⟩, friend]⟩

def people : Schema where
  types := [⟨"Node", .interface [] [⟨"id", .named ⟨"ID", .scalar⟩, [], .absent, .absent⟩]⟩, person]

theorem person_mem_models : person.modelOf ∈ people.models := by decide

theorem keyed_people : people.Keyed where
  types := by decide
  fields := by
    intro t ht fs hfs
    fin_cases ht <;> cases hfs <;> decide

theorem spelled_people : people.Spelled := ⟨by decide, by decide⟩

theorem fitting_people : Fitting Settings.default.style Settings.default.indent people where
  indent := by decide
  customPrefix := by decide
  scope := by decide
  types := by decide
  notes := by decide

end Model

end RealmModels
