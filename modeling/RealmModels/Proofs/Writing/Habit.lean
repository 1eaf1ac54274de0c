import Mathlib
import RealmModels.Proofs.Model.ClassOutcome
import RealmModels.Proofs.Swift.FullName
import RealmModels.Model.Source

/-!
Properties that all programs have which are put together from printing actions and blocks. What is
shown once for the actions and for the two kinds of blocks holds for every part of the generator.
-/

namespace RealmModels

namespace Model

open GraphQL Swift Writing

def resetNames : Writing Unit := modify fun s => { s with names := .empty }

def classDeclaration (style : Style) (name : String) (fields : Option (List Field)) : Writing Unit :=
  (classBlock name ["public", "final"] "" ["Object"]).around do
    match fields with
    | some fs => classBody style fs
    | none => throw (.noFields name)

theorem declareClass_eq (style : Style) (name : String) (fields : Option (List Field)) :
    declareClass style name fields = (do
      report (.generating name)
      resetNames
      classDeclaration style name fields) := rfl

def sourceBody (style : Style) (s : Schema) : Writing String := do
  header
  unless s.models.isEmpty do
    (namespaceBlock style.scope).around (s.types.forM (declareIfModel style))
  return (← get).printer.output

theorem source_eq (style : Style) (s : Schema) :
    source style s = (do onPrinter Printer.reset; sourceBody style s) := rfl

end Model

namespace Writing

open GraphQL Swift

theorem Block.around_bare {α : Type} (body : Writing α) : Block.bare.around body = body := by
  funext s
  change closing body (pure ()) s = body s
  rw [closing]
  cases body s <;> rfl

/-- A property of the single actions that passes to sequences and blocks of them. Unless it is
tolerant, it does not extend to programs that raise a fault of their own. -/
structure Habit (tolerant : Prop) (Q : ∀ α : Type, Writing α → Prop) : Prop where
  pure {α : Type} (a : α) : Q α (Pure.pure a)
  bind {α β : Type} {w : Writing α} {f : α → Writing β} (hw : Q α w)
    (hf : ∀ s a t, w s = .ok a t → Q β (f a)) : Q β (w >>= f)
  throw {α : Type} (e : Fault) (htolerant : tolerant) : Q α (MonadExcept.throw e)
  print (text : String) : Q Unit (print text)
  newline : Q Unit newline
  line (text : String) : Q Unit (line text)
  qualified (name : String) : Q String (look (·.qualified name))
  printed : Q String (do return (← get).printer.output)
  report (e : Log.Event) : Q Unit (report e)
  braces {α : Type} {body : Writing α} (hbody : Q α body) : Q α (Block.braces.around body)
  declaration {α : Type} {body : Writing α} (frame : Frame) (header : Header)
    (hframe : (frame.isText = true ∧ header.description.words?.isSome = true) ∨ tolerant)
    (hbody : Q α body) : Q α ((declaration frame header).around body)

namespace Habit

variable {tolerant : Prop} {Q : ∀ α : Type, Writing α → Prop} (h : Habit tolerant Q)
  {α β : Type}
include h

theorem seq {w : Writing α} {v : Writing β} (hw : Q α w) (hv : Q β v) : Q β (w >>= fun _ => v) :=
  h.bind hw fun _ _ _ _ => hv

theorem forM {f : α → Writing Unit} {as : List α} (hf : ∀ a ∈ as, Q Unit (f a)) :
    Q Unit (as.forM f) := by
  induction as with
  | nil => exact h.pure ()
  | cons a as ih =>
    obtain ⟨ha, has⟩ := List.forall_mem_cons.mp hf
    exact h.seq ha (ih has)

theorem mapM {f : α → Writing β} {as : List α} (hf : ∀ a ∈ as, Q β (f a)) :
    Q (List β) (as.mapM f) := by
  induction as with
  | nil => exact h.pure []
  | cons a as ih =>
    obtain ⟨ha, has⟩ := List.forall_mem_cons.mp hf
    rw [List.mapM_cons]
    exact h.bind ha fun _ _ _ _ => h.bind (ih has) fun _ _ _ _ => h.pure _

theorem filterM {f : α → Writing Bool} {as : List α} (hf : ∀ a ∈ as, Q Bool (f a)) :
    Q (List α) (as.filterM f) := by
  have haux (acc : List α) : Q (List α) (as.filterAuxM f acc) := by
    induction as generalizing acc with
    | nil => exact h.pure acc
    | cons a as ih =>
      obtain ⟨ha, has⟩ := List.forall_mem_cons.mp hf
      exact h.bind ha fun _ _ _ _ => ih has _
  exact h.bind (haux []) fun _ _ _ _ => h.pure _

theorem ofExcept {x : Except Fault α} (hx : x.isOk = true ∨ tolerant) :
    Q α (MonadExcept.ofExcept x) := by
  cases x with
  | ok a => exact h.pure a
  | error e => exact h.throw e (hx.resolve_left Bool.false_ne_true)

theorem classified (t : TypeRef) (ht : t.IsOutput ∨ tolerant) : Q Classified (classified t) := by
  by_cases hout : t.IsOutput
  · simp only [Writing.classified, classify_of_isOutput hout]
    exact h.pure _
  · simp only [Writing.classified, classify_of_not_isOutput hout]
    exact h.throw _ (ht.resolve_left hout)

theorem words (note : Note) (hwords : note.words?.isSome = true ∨ tolerant) :
    Q String (words note) := by
  rw [Swift.words]
  cases hnote : note.words? with
  | some s => exact h.pure s
  | none =>
    rw [hnote] at hwords
    exact h.throw _ (hwords.resolve_left Bool.false_ne_true)

theorem comment (note : Note) (hwords : note.words?.isSome = true ∨ tolerant) :
    Q Unit (comment note) :=
  h.bind (h.words note hwords) fun _ _ _ _ => h.forM fun _ _ => h.line _

theorem deprecationAttribute (note : Note) (hwords : note.words?.isSome = true ∨ tolerant) :
    Q Unit (deprecationAttribute note) :=
  h.bind (h.words note hwords) fun _ _ _ _ => h.line _

theorem primaryKey (name : Option String) (hname : name.isSome = true ∨ tolerant) :
    Q Unit (primaryKey name) := by
  apply h.seq (h.line _)
  apply h.braces
  cases name with
  | some n => exact h.line _
  | none => exact h.throw _ (hname.resolve_left Bool.false_ne_true)

theorem orRoot (n : TypeNaming) (c : Classified) (typeName : Option String)
    (hroot : (n.root c).isOk = true ∨ tolerant) : Q String (n.orRoot c typeName) := by
  unfold TypeNaming.orRoot
  split
  · exact h.ofExcept hroot
  · exact h.ofExcept hroot
  · exact h.pure _

theorem printProperty (n : TypeNaming) (c : Classified) (name : String) (typeName : Option String)
    (hroot : (n.root c).isOk = true ∨ tolerant) : Q Unit (printProperty n c name typeName) := by
  apply h.bind (h.orRoot n c typeName hroot)
  intro _ type _ _
  split
  · exact h.pure ()
  · apply h.seq (h.line _)
    split
    · exact h.primaryKey _ (.inl rfl)
    · exact h.pure ()

theorem storedOf {ps : List Property} (hps : (∀ p ∈ ps, p.type.IsOutput) ∨ tolerant) :
    Q (List Property) (Model.storedOf ps) := by
  apply h.filterM
  intro p hp
  exact h.bind (h.classified p.type (hps.imp_left fun hout => hout p hp)) fun _ _ _ _ => h.pure _

theorem parameters {n : TypeNaming} {ps : List Property} (hps : (∀ p ∈ ps, n.Names p.type) ∨ tolerant) :
    Q Unit (Model.parameters n ps) := by
  have hok : (ps.mapM (Model.parameter n)).isOk = true ∨ tolerant := by
    apply hps.imp_left
    intro hnames
    rw [(mapM_eq_ok_iff ps (Model.parameter_eq_ok_iff n) _).mpr ⟨hnames, rfl⟩]
    rfl
  apply h.seq (h.print _)
  exact h.bind (h.ofExcept hok) fun _ _ _ _ => h.seq (h.print _) (h.print _)

theorem memberwise {n : TypeNaming} {ps : List Property} (hps : (∀ p ∈ ps, n.Names p.type) ∨ tolerant) :
    Q Unit (Model.memberwise n ps) := by
  apply h.bind (h.storedOf (hps.imp_left fun hnames p hp => (hnames p hp).1))
  intro s stored t hstored
  have hnames : (∀ p ∈ stored, n.Names p.type) ∨ tolerant := by
    apply hps.imp_left
    intro hnames p hp
    obtain ⟨-, rfl, -⟩ := (Model.gives_storedOf (fun p hp => (hnames p hp).1) s _ _).mp hstored
    exact hnames p (List.mem_of_mem_filter hp)
  apply h.seq h.newline
  apply h.seq (h.line _)
  apply h.seq (h.parameters hnames)
  apply h.braces
  apply h.seq _ (h.line _)
  apply h.forM
  intro p hp
  apply h.bind (h.classified p.type (hnames.imp_left fun hnames => (hnames p hp).1))
  intro _ _ _ _
  exact h.line _

theorem required : Q Unit Model.required := by
  apply h.forM
  intro x _
  apply h.seq h.newline
  apply h.seq (h.line _)
  exact h.braces (h.line _)

theorem header : Q Unit Model.header := by
  apply h.forM
  intro l _
  split
  · exact h.newline
  · exact h.line _

theorem reportRenaming (spelling name : String) : Q Unit (Model.reportRenaming spelling name) := by
  rw [Model.reportRenaming_eq]
  split
  · exact h.bind (h.qualified _) fun _ _ _ _ => h.report _
  · exact h.pure ()

theorem reasonBefore {style : Style} {f : Field}
    (hwords : (style.deprecations = true → f.deprecationReason.words?.isSome = true) ∨ tolerant)
    {w : Writing α} (hw : Q α w) :
    Q α (if (style.deprecations && decide (f.deprecationReason ≠ .absent)) = true then do
        Swift.deprecationAttribute f.deprecationReason
        w
      else w) := by
  split
  · next hshown =>
    apply h.seq (h.deprecationAttribute _ (hwords.imp_left ?_)) hw
    intro hreason
    exact hreason (Bool.and_eq_true_iff.mp hshown).1
  · exact hw

theorem declareField {style : Style} {f : Field} (hf : Model.Declarable style f ∨ tolerant)
    (hname : Q String (Model.giveName f.name)) : Q Property (Model.declareField style f) := by
  have hroot : (style.typeNaming.rootOf f.type).isOk = true ∨ tolerant :=
    hf.imp_left fun hfits => (style.typeNaming.rootOf_isOk_iff f.type).mpr hfits.type
  apply h.bind hname
  intro _ name _ _
  apply h.seq (h.reportRenaming f.name name)
  apply h.bind (h.ofExcept hroot)
  intro _ root _ _
  apply h.bind (h.classified f.type (hf.imp_left fun hfits => hfits.type.1))
  intro s c t hc
  have hproperty : Q Unit (Swift.printProperty style.typeNaming c name (some root)) := by
    apply h.printProperty
    apply hf.imp_left
    intro hfits
    obtain ⟨-, rfl, -⟩ := (gives_classified f.type s c t).mp hc
    rw [TypeNaming.rootOf_eq hfits.type]
    rfl
  have hprinted (p : Property) : Q Property (do
      Swift.printProperty style.typeNaming c name (some root)
      if (c.isUncaught && !c.isList) = true then do
        Writing.report (.uncaught c.typeName f.name)
        return p
      else return p) := by
    apply h.seq hproperty
    split
    · exact h.seq (h.report _) (h.pure p)
    · exact h.pure p
  apply h.seq (h.comment _ (hf.imp_left fun hfits => hfits.description))
  apply h.reasonBefore (hf.imp_left fun hfits => hfits.reason)
  exact hprinted _

theorem classBody {style : Style} {fs : List Field}
    (hfs : (∀ f ∈ fs, Model.Declarable style f) ∨ tolerant)
    (hname : ∀ f ∈ fs, Q String (Model.giveName f.name)) : Q Unit (Model.classBody style fs) := by
  have hfields : ∀ f ∈ fs, Q Property (Model.declareField style f) := by
    intro f hf
    exact h.declareField (hfs.imp_left fun hfits => hfits f hf) (hname f hf)
  apply h.bind (h.mapM hfields)
  intro s ps t hps
  split
  · have hnames : (∀ p ∈ ps, style.typeNaming.Names p.type) ∨ tolerant := by
      apply hfs.imp_left
      intro hfits p hp
      obtain ⟨-, rfl, -⟩ := (Model.gives_declareFields style fs ps t).mp hps
      obtain ⟨x, hx, rfl⟩ := List.mem_map.mp hp
      have hmem : x.1 ∈ (Model.nameFields fs s.names).1.map Prod.fst := List.mem_map_of_mem hx
      rw [Model.nameFields_fst] at hmem
      exact (hfits x.1 hmem).type
    exact h.seq (h.memberwise hnames) h.required
  · exact h.pure ()

theorem classDeclaration {style : Style} {name : String} {fields : Option (List Field)}
    (hfields : (∃ fs, fields = some fs ∧ ∀ f ∈ fs, Model.Declarable style f) ∨ tolerant)
    (hname : ∀ spelling, Q String (Model.giveName spelling)) :
    Q Unit (Model.classDeclaration style name fields) := by
  apply h.declaration _ _ (.inl ⟨rfl, rfl⟩)
  cases fields with
  | none => exact h.throw _ (hfields.resolve_left fun ⟨fs, hnone, _⟩ => nomatch hnone)
  | some fs =>
    refine h.classBody (hfields.imp_left ?_) fun f _ => hname f.name
    rintro ⟨_, heq, hfits⟩
    rwa [Option.some.inj heq]

theorem declareClass {style : Style} {name : String} {fields : Option (List Field)}
    (hclass : Q Unit (Model.classDeclaration style name fields)) (hreset : Q Unit Model.resetNames) :
    Q Unit (Model.declareClass style name fields) := by
  rw [Model.declareClass_eq]
  exact h.seq (h.report _) (h.seq hreset hclass)

theorem declareIfModel {style : Style} {t : TypeDef}
    (hclass : ∀ m, t.model? = some m → Q Unit (Model.declareClass style m.name (some m.fields))) :
    Q Unit (Model.declareIfModel style t) := by
  rw [Model.declareIfModel]
  cases ht : t.model? with
  | some m => exact hclass m ht
  | none => exact h.report _

theorem namespaceBlock {frame : Option Frame} {body : Writing α}
    (hframe : (∀ f ∈ frame, f.isText = true) ∨ tolerant) (hbody : Q α body) :
    Q α ((namespaceBlock frame).around body) := by
  cases frame with
  | none => rwa [Swift.namespaceBlock, Block.around_bare]
  | some f =>
    apply h.declaration f _ _ hbody
    exact hframe.imp_left fun htext => ⟨htext f rfl, rfl⟩

theorem sourceBody {style : Style} {s : Schema}
    (hframe : (∀ f ∈ style.scope, f.isText = true) ∨ tolerant)
    (hclass : ∀ m ∈ s.models, Q Unit (Model.declareClass style m.name (some m.fields))) :
    Q String (Model.sourceBody style s) := by
  have htypes : Q Unit (s.types.forM (Model.declareIfModel style)) := by
    apply h.forM
    intro t ht
    apply h.declareIfModel
    intro m hm
    exact hclass m (List.mem_filterMap.mpr ⟨t, ht, hm⟩)
  apply h.seq h.header
  split
  · exact h.printed
  · exact h.seq (h.namespaceBlock hframe htypes) h.printed

end Habit

end Writing

end RealmModels
