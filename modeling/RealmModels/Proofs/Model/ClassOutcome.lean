import Mathlib
import RealmModels.Proofs.Model.ClassLines

namespace RealmModels.Model

open GraphQL Swift Writing

variable {p : Printer} {n : Naming.Scope} {e : List Log.Event} {style : Style}

theorem gives_giveName (spelling : String) :
    Gives (giveName spelling) ⟨p, n, e⟩ True (give .camel spelling n).1
      ⟨p, (give .camel spelling n).2, e⟩ := by
  refine gives_of_ok ?_
  simp only [giveName, bind, EStateM.bind, get, getThe, MonadStateOf.get, EStateM.get, name_naming]
  rfl

theorem gives_qualified (name : String) :
    Gives (look (·.qualified name)) ⟨p, n, e⟩ (p.scopes.all (·.isText) = true)
      (p.scopes.foldl (fun inner frame => frame.name ++ "." ++ inner) name) ⟨p, n, e⟩ := by
  refine gives_look fun q => ?_
  simp only [Printer.qualified]
  split
  · next h => simp [h, eq_comm]
  · next h => simp [h]

theorem reportRenaming_eq (spelling name : String) :
    reportRenaming spelling name =
      if name ≠ escapeIdentifier (Naming.base .camel spelling) then do
        report (.renamed (← look (·.qualified spelling)) name (Naming.base .camel spelling))
      else pure () := by
  unfold reportRenaming
  have h := escaped_naming (Naming.base .camel spelling)
  -- the conditions are decided by evaluating names, which the rewriting must not start to do
  generalize Naming.base .camel spelling = base at h ⊢
  dsimp only
  rewrite [h]
  rfl

theorem gives_reportRenaming (f : Field) (name : String) :
    Gives (reportRenaming f.name name) ⟨p, n, e⟩
      (IsRenamed f name → p.scopes.all (·.isText) = true) ()
      ⟨p, n, e ++ renamingEvents p.scopes f name⟩ := by
  rw [reportRenaming_eq, renamingEvents]
  by_cases h : IsRenamed f name
  · have hne : name ≠ escapeIdentifier (Naming.base .camel f.name) := h
    rw [if_pos hne, if_pos h]
    refine ((gives_qualified f.name).bind fun _ => gives_report _ _).congr ?_
    simp only [and_true, h, forall_const]
  · have heq : ¬ name ≠ escapeIdentifier (Naming.base .camel f.name) := h
    rw [if_neg heq, if_neg h, List.append_nil]
    exact (gives_pure _ _).congr ⟨fun _ hr => absurd hr h, fun _ => trivial⟩

theorem gives_attribute {β : Type} {w : Writing β} {D : Prop} {b : β} {t : Session} (f : Field)
    (hw : Gives w ⟨p.putAll (attributeLines style f), n, e⟩ D b t) :
    Gives (if (style.deprecations && decide (f.deprecationReason ≠ .absent)) = true then do
        deprecationAttribute f.deprecationReason
        w
      else w) ⟨p, n, e⟩
      (((style.deprecations = true → f.deprecationReason.words?.isSome = true) ∧
        p.HasRoom (attributeLines style f)) ∧ D) b t := by
  by_cases h : style.deprecations = true ∧ f.deprecationReason ≠ .absent
  · have hshown : attributeLines style f = [⟨0, deprecation (shownWords f.deprecationReason)⟩] :=
      if_pos h
    rw [if_pos (by simpa using h)]
    rw [hshown] at hw ⊢
    refine ((gives_deprecationAttribute f.deprecationReason).seq hw).congr ?_
    simp [h.1, Printer.hasRoom_cons, Printer.hasRoom_nil, deprecation_ne]
  · have hshown : attributeLines style f = [] := if_neg h
    have hwords (hon : style.deprecations = true) : f.deprecationReason.words?.isSome = true := by
      have habsent : f.deprecationReason = .absent := not_not.mp fun hne => h ⟨hon, hne⟩
      rw [habsent]
      rfl
    rw [if_neg (by simpa using h)]
    rw [hshown] at hw ⊢
    refine hw.congr (Iff.symm ?_)
    exact and_iff_right ⟨hwords, Printer.hasRoom_nil p⟩

theorem gives_uncaught {β : Type} (f : Field) (b : β) :
    Gives (if (f.type.classified.isUncaught && !f.type.classified.isList) = true then do
        report (.uncaught f.type.classified.typeName f.name)
        pure b
      else pure b) ⟨p, n, e⟩ True b ⟨p, n, e ++ uncaughtEvents f⟩ := by
  have halone : isUncaughtAlone f.type =
      (f.type.classified.isUncaught && !f.type.classified.isList) := rfl
  rw [uncaughtEvents, ← halone]
  by_cases h : isUncaughtAlone f.type = true
  · rw [if_pos h, if_pos h]
    exact (gives_report _ _).then (gives_pure b _)
  · rw [if_neg h, if_neg h, List.append_nil]
    exact gives_pure b _

theorem gives_rootOf (naming : TypeNaming) (t : TypeRef) (s : Session) :
    Gives (MonadExcept.ofExcept (naming.rootOf t)) s (naming.Names t) (naming.rootName t) s :=
  gives_ofExcept fun root => naming.rootOf_eq_ok_iff t root

theorem hasRoom_fieldLines (f : Field) (name : String) :
    p.HasRoom (fieldLines style f name) ↔
      p.HasRoom (docLines (shownDescription style f)) ∧
      (p.putAll (docLines (shownDescription style f))).HasRoom (attributeLines style f) ∧
      (p.putAll (markLines style f)).HasRoom (propertyLines style.typeNaming f.type name) := by
  have hroom (ls ls' : List Line) : (p.putAll ls).HasRoom ls' ↔ p.HasRoom ls' :=
    Printer.hasRoom_congr (p.putAll_indent ls) (p.putAll_level ls) ls'
  rw [fieldLines, markLines, Printer.hasRoom_append, Printer.hasRoom_append, hroom, hroom, and_assoc]

theorem gives_declareField (style : Style) (f : Field) :
    Gives (declareField style f) ⟨p, n, e⟩
      (p.HasRoom (fieldLines style f (give .camel f.name n).1) ∧ Declarable style f ∧
        (IsRenamed f (give .camel f.name n).1 → p.scopes.all (·.isText) = true))
      (propertyOf style f (give .camel f.name n).1)
      ⟨p.putAll (fieldLines style f (give .camel f.name n).1), (give .camel f.name n).2,
        e ++ fieldEvents p.scopes f (give .camel f.name n).1⟩ := by
  have hname := gives_giveName (p := p) (n := n) (e := e) f.name
  generalize give .camel f.name n = given at hname ⊢
  obtain ⟨name, m⟩ := given
  dsimp only at hname ⊢
  have hrenaming := gives_reportRenaming (p := p) (n := m) (e := e) f name
  have hlines : p.putAll (fieldLines style f name) =
      (p.putAll (markLines style f)).putAll (propertyLines style.typeNaming f.type name) :=
    p.putAll_append _ _
  rw [fieldEvents, ← List.append_assoc, hlines]
  generalize e ++ renamingEvents p.scopes f name = renamed at hrenaming ⊢
  have hroot := gives_rootOf style.typeNaming f.type ⟨p, m, renamed⟩
  have hcomment := gives_comment (p := p) (n := m) (e := renamed) (shownDescription style f)
  let commented := p.putAll (docLines (shownDescription style f))
  let marked := p.putAll (markLines style f)
  have hmarked : commented.putAll (attributeLines style f) = marked :=
    (p.putAll_append _ _).symm
  refine Gives.congr (C := (IsRenamed f name → p.scopes.all (·.isText) = true) ∧
    style.typeNaming.Names f.type ∧ f.type.IsOutput ∧
    ((shownDescription style f).words?.isSome = true ∧
      p.HasRoom (docLines (shownDescription style f))) ∧
    ((style.deprecations = true → f.deprecationReason.words?.isSome = true) ∧
      commented.HasRoom (attributeLines style f)) ∧
    marked.HasRoom (propertyLines style.typeNaming f.type name)) ?_ ?_
  · -- the steps in their order: name, report, type names, marks and what stands for the property
    apply Gives.use hname
    apply Gives.seq hrenaming
    apply Gives.bind hroot
    intro hnames
    apply Gives.bind (gives_classified f.type _)
    intro _
    apply Gives.seq hcomment
    apply gives_attribute f
    rw [hmarked]
    have hproperty := gives_printProperty (p := marked) (n := m) (e := renamed) style.typeNaming
      f.type name hnames
    exact (hproperty.seq (gives_uncaught f (propertyOf style f name))).congr (and_true _).to_iff
  · rw [hasRoom_fieldLines]
    constructor
    · rintro ⟨hrename, hnames, -, ⟨hwords, hdoc⟩, ⟨hreason, hattribute⟩, hown⟩
      exact ⟨⟨hdoc, hattribute, hown⟩, ⟨hnames, hwords, hreason⟩, hrename⟩
    · rintro ⟨⟨hdoc, hattribute, hown⟩, ⟨hnames, hwords, hreason⟩, hrename⟩
      exact ⟨hrename, hnames, hnames.1, ⟨hwords, hdoc⟩, ⟨hreason, hattribute⟩, hown⟩

theorem gives_declareFields (style : Style) (fs : List Field) :
    Gives (fs.mapM (declareField style)) ⟨p, n, e⟩
      (p.HasRoom ((nameFields fs n).1.flatMap fun x => fieldLines style x.1 x.2) ∧
        CanDeclare style p.scopes (nameFields fs n).1)
      ((nameFields fs n).1.map fun x => propertyOf style x.1 x.2)
      ⟨p.putAll ((nameFields fs n).1.flatMap fun x => fieldLines style x.1 x.2),
        (nameFields fs n).2,
        e ++ (nameFields fs n).1.flatMap fun x => fieldEvents p.scopes x.1 x.2⟩ := by
  induction fs generalizing p n e with
  | nil =>
    simp only [nameFields, List.flatMap_nil, List.append_nil]
    exact (gives_pure _ _).congr (by simp [Printer.hasRoom_nil, CanDeclare])
  | cons f fs ih =>
    have hf := gives_declareField (p := p) (n := n) (e := e) style f
    simp only [nameFields]
    generalize give .camel f.name n = given at hf ⊢
    obtain ⟨name, m⟩ := given
    dsimp only at hf ⊢
    have hfs := ih (p := p.putAll (fieldLines style f name)) (n := m)
      (e := e ++ fieldEvents p.scopes f name)
    rw [Printer.putAll_scopes,
      Printer.hasRoom_congr (q := p) (p.putAll_indent _) (p.putAll_level _)] at hfs
    rw [List.flatMap_cons, List.flatMap_cons, Printer.putAll_append, ← List.append_assoc,
      List.map_cons, List.mapM_cons, Printer.hasRoom_append]
    refine (hf.bind fun _ => hfs.bind (f := fun qs => pure (propertyOf style f name :: qs))
      fun _ => gives_pure _ _).congr ?_
    simp only [CanDeclare, List.forall_mem_cons, and_true]
    tauto

theorem parameter_eq_ok_iff (naming : TypeNaming) (q : Property) (s : String) :
    parameter naming q = .ok s ↔ naming.Names q.type ∧ s = shownParameter naming q :=
  map_eq_ok_iff (naming.full_eq_ok_iff true q.type)
    (fun type => q.name ++ ": " ++ type ++ (if isNullable q then " = nil" else "")) s

theorem gives_parameters {naming : TypeNaming} {ps : List Property} {text : String}
    (hps : ∀ q ∈ ps, naming.Names q.type) (ht : text ≠ "") :
    Gives (parameters naming ps) ⟨p.put ⟨0, text⟩, n, e⟩ True ()
      ⟨p.put ⟨0, text ++ "(" ++ Text.joinWith ", " (ps.map (shownParameter naming)) ++ ")"⟩,
        n, e⟩ := by
  have hmap := mapM_eq_ok_iff ps (parameter_eq_ok_iff naming)
  have hopen : text ++ "(" ≠ "" := append_ne ht
  rw [← Printer.print_put (append_ne hopen), ← Printer.print_put hopen, ← Printer.print_put ht]
  exact (gives_print "(").then (((gives_ofExcept hmap).bind fun _ =>
    (gives_print _).then (gives_print ")")).congr (by simpa using hps))

theorem gives_storedOf {ps : List Property} (hps : ∀ q ∈ ps, q.type.IsOutput) (s : Session) :
    Gives (storedOf ps) s True (storedProperties ps) s := by
  have hask (q : Property) : Gives (do return isStored (← classified q.type)) s q.type.IsOutput
      (isStored q.type.classified) s :=
    ((gives_classified q.type s).bind (f := fun c => pure (isStored c)) fun _ =>
      gives_pure _ s).congr (and_true _).to_iff
  exact (gives_filterM ps fun q _ => hask q).congr (by simpa using hps)

theorem assignment_ne (c : Classified) (q : Property) : assignment c q ≠ "" := by
  simp only [assignment]
  split
  · exact append_ne (append_ne (append_ne (append_ne (by decide))))
  · split
    · exact append_ne (append_ne (append_ne (by decide)))
    · exact append_ne (append_ne (append_ne (by decide)))

theorem gives_assignments {ps : List Property} (hps : ∀ q ∈ ps, q.type.IsOutput) :
    Gives (do
        ps.forM fun q => do line (assignment (← classified q.type) q)
        line "super.init()") ⟨p, n, e⟩
      (p.HasRoom (assignmentLines ps)) () ⟨p.putAll (assignmentLines ps), n, e⟩ := by
  have heach := gives_printEach (p := p) (n := n) (e := e)
    (f := fun q : Property => do line (assignment (← classified q.type) q))
    (k := fun q => [⟨0, assignment q.type.classified q⟩]) ps fun q hq r => by
      refine ((gives_classified q.type _).bind fun _ => gives_line (assignment_ne _ q)).congr ?_
      simp [hps q hq, Printer.hasRoom_cons, Printer.hasRoom_nil, assignment_ne]
  rw [← List.map_eq_flatMap] at heach
  have hne : "super.init()" ≠ "" := by decide
  have hsuper := gives_line (p := p.putAll (ps.map fun q => ⟨0, assignment q.type.classified q⟩))
    (n := n) (e := e) hne
  rw [Printer.putAll_indent, Printer.putAll_level] at hsuper
  rw [assignmentLines, Printer.putAll_append, Printer.hasRoom_append]
  refine (heach.seq hsuper).congr ?_
  simp [Printer.hasRoom_cons, Printer.hasRoom_nil]

theorem gives_memberwise {naming : TypeNaming} {ps : List Property}
    (hps : ∀ q ∈ ps, naming.Names q.type) :
    Gives (memberwise naming ps) ⟨p, n, e⟩ (p.HasRoom (memberwiseLines naming ps)) ()
      ⟨p.putAll (memberwiseLines naming ps), n, e⟩ := by
  have hstored : ∀ q ∈ storedProperties ps, naming.Names q.type := fun q hq =>
    hps q (List.mem_of_mem_filter hq)
  rw [memberwiseLines]
  generalize hheader : "public init(" ++
    Text.joinWith ", " ((storedProperties ps).map (shownParameter naming)) ++ ")" = header
  have hinit : "public init" ≠ "" := by decide
  have hparameters := gives_parameters (p := p.put .blank) (n := n) (e := e) hstored hinit
  have hstart : "public init" ++ "(" = "public init(" := by decide
  rw [hstart, hheader] at hparameters
  have hne : header ≠ "" := by
    rw [← hheader]
    exact append_ne (append_ne (by decide))
  have hbraces := gives_braces (p := p.put .blank) hne
    (gives_assignments (n := n) (e := e) fun q hq => (hstored q hq).1)
  have hblock := (gives_line (by decide)).seq (hparameters.then hbraces)
  apply Gives.congr
  · apply Gives.use (gives_storedOf (fun q hq => (hps q hq).1) _)
    exact gives_newline.then hblock
  · rw [hasRoom_blank, hasRoom_block hne]
    tauto

theorem gives_requiredInitializer (signature selector : String) :
    Gives (requiredInitializer signature selector) ⟨p, n, e⟩
      (p.HasRoom (requiredInitializerLines signature selector)) ()
      ⟨p.putAll (requiredInitializerLines signature selector), n, e⟩ := by
  rw [requiredInitializerLines, requiredInitializer]
  generalize hheader : "required public " ++ signature = header
  generalize htext : "fatalError(\"" ++ selector ++ " has not been implemented\")" = text
  have hne : header ≠ "" := by
    rw [← hheader]
    exact append_ne (by decide)
  have htext : text ≠ "" := by
    rw [← htext]
    exact append_ne (append_ne (by decide))
  let q := ((p.put .blank).put ⟨0, header ++ " \x7b"⟩).deepen
  have hbody : Gives (line text) ⟨q, n, e⟩ (q.indent.Fits q.level) ()
      ⟨q.putAll [⟨0, text⟩], n, e⟩ := gives_line htext
  have hblock := gives_block hne hbody
  rw [Printer.putAll_cons]
  refine (gives_newline.then hblock).congr ?_
  rw [hasRoom_blank, hasRoom_block hne]
  simp [q, Printer.hasRoom_cons, Printer.hasRoom_nil, htext]

theorem gives_required :
    Gives required ⟨p, n, e⟩ (p.HasRoom requiredLines) () ⟨p.putAll requiredLines, n, e⟩ :=
  gives_printEach requiredInitializers fun _ _ _ => gives_requiredInitializer _ _

theorem gives_initializers {xs : List (Field × String)}
    (hxs : ∀ x ∈ xs, style.typeNaming.Names x.1.type) :
    Gives (do
        memberwise style.typeNaming (xs.map fun x => propertyOf style x.1 x.2)
        required) ⟨p, n, e⟩ (p.HasRoom (initializerLines style xs)) ()
      ⟨p.putAll (initializerLines style xs), n, e⟩ := by
  have hps : ∀ q ∈ xs.map (fun x => propertyOf style x.1 x.2), style.typeNaming.Names q.type := by
    intro q hq
    obtain ⟨x, hx, rfl⟩ := List.mem_map.mp hq
    exact hxs x hx
  have hmemberwise := gives_memberwise (p := p) (n := n) (e := e) hps
  rw [initializerLines, Printer.putAll_append, Printer.hasRoom_append]
  generalize memberwiseLines style.typeNaming (xs.map fun x => propertyOf style x.1 x.2) = ls
    at hmemberwise ⊢
  have hrequired := gives_required (p := p.putAll ls) (n := n) (e := e)
  rw [Printer.hasRoom_congr (q := p) (p.putAll_indent _) (p.putAll_level _)] at hrequired
  exact hmemberwise.seq hrequired

theorem gives_classBody (style : Style) (fs : List Field) :
    Gives (classBody style fs) ⟨p, n, e⟩
      (p.HasRoom (bodyLines style (nameFields fs n).1) ∧
        CanDeclare style p.scopes (nameFields fs n).1) ()
      ⟨p.putAll (bodyLines style (nameFields fs n).1), (nameFields fs n).2,
        e ++ (nameFields fs n).1.flatMap fun x => fieldEvents p.scopes x.1 x.2⟩ := by
  have hfields := gives_declareFields (p := p) (n := n) (e := e) style fs
  generalize nameFields fs n = named at hfields ⊢
  obtain ⟨xs, m⟩ := named
  dsimp only at hfields ⊢
  rw [classBody, bodyLines, Printer.putAll_append, Printer.hasRoom_append]
  cases hstyle : style.initializers with
  | true =>
    have hinitializers (hxs : CanDeclare style p.scopes xs) := gives_initializers
      (p := p.putAll (xs.flatMap fun x => fieldLines style x.1 x.2)) (n := m)
      (e := e ++ xs.flatMap fun x => fieldEvents p.scopes x.1 x.2) fun x hx => (hxs x hx).1.type
    rw [Printer.hasRoom_congr (q := p) (p.putAll_indent _) (p.putAll_level _)] at hinitializers
    apply Gives.congr
    · apply Gives.bind hfields
      intro hC
      exact hinitializers hC.2
    · simp only [↓reduceIte]
      tauto
  | false =>
    apply Gives.congr
    · apply Gives.bind hfields
      intro _
      exact gives_pure () _
    · simp [Printer.hasRoom_nil]

theorem canDeclare_class (name : String) (scopes : List Frame) (xs : List (Field × String)) :
    CanDeclare style ({ name := name, keyword := "class" } :: scopes) xs ↔
      CanDeclare style scopes xs := Iff.rfl

theorem gives_declareClass (style : Style) (name : String) (fs : List Field) :
    Gives (declareClass style name (some fs)) ⟨p, n, e⟩
      (p.HasRoom (classLines style name fs) ∧ CanDeclare style p.scopes (namedFields fs)) ()
      ⟨p.putAll (separator p ++ classLines style name fs), (nameFields fs .empty).2,
        e ++ classEvents p.scopes name fs⟩ := by
  generalize hframe : ({ name := name, keyword := "class" } : Frame) = frame
  generalize hheader : ({ modifiers := ["public", "final"], inherited := ["", "Object"] } : Header) =
    header
  have hnote : header.description = .absent := by rw [← hheader]
  have htext : declarationHeader frame header = classHeader name := by
    rw [← hframe, ← hheader, classHeader_eq]
  have hbody := gives_classBody (p := opened frame header p) (n := .empty)
    (e := e ++ [.generating name]) style fs
  have hclass := gives_declaration frame header hbody
  have hroom := hasRoom_bracedLines (p := p) (opened_indent frame header p)
    (opened_level frame header p) (classHeader_ne name) (bodyLines style (namedFields fs))
  have hcan : CanDeclare style (frame :: p.scopes) (namedFields fs) ↔
      CanDeclare style p.scopes (namedFields fs) := by
    rw [← hframe, canDeclare_class]
  have hwords : Note.absent.words?.isSome = true := rfl
  have hnothing : p.HasRoom [] := p.hasRoom_nil
  rw [opened_scopes, leadLines, hnote, docLines_absent, List.append_nil, htext, List.append_assoc,
    List.singleton_append] at hclass
  have hprogram : declareClass style name (some fs) = (do
      report (.generating name)
      modify fun s => { s with names := .empty }
      (declaration frame header).around (classBody style fs)) := by
    rw [← hframe, ← hheader]
    rfl
  have hmodify : Gives (modify fun s => { s with names := .empty } : Writing Unit)
      ⟨p, n, e ++ [.generating name]⟩ True () ⟨p, .empty, e ++ [.generating name]⟩ :=
    gives_of_ok rfl
  rw [hprogram, classEvents, hframe]
  refine ((gives_report (.generating name) ⟨p, n, e⟩).then (hmodify.then hclass)).congr ?_
  rw [classLines, hroom, ← hcan]
  change _ ∧ _ ∧ _ ∧ (opened frame header p).HasRoom (bodyLines style (namedFields fs)) ∧
    CanDeclare style (frame :: p.scopes) (namedFields fs) ↔ _
  tauto

end RealmModels.Model
