import Mathlib
import RealmModels.Proofs.Disk.Reading
import RealmModels.Proofs.Loading.Outcome

namespace RealmModels.Loading

variable {d : Disk} {p : Path} {levels : Option ℕ} {text : String}

inductive Unloadable (d : Disk) (p : Path) (levels : Option ℕ) : Prop
  | nameTooLong (h : d.locate p = .error .nameTooLong)
  | notText (h : d.NotText p)
  | beyond (text : String) (limit : Json.Limit) (h : d.Reads p text) (hsuffix : p.lowerSuffix = ".json")
      (hread : Json.read text levels = .error (.beyond limit)) (hlimit : limit ≠ .halves)
  | stray (text : String) (v : Json) (h : d.Reads p text) (hsuffix : p.lowerSuffix = ".json")
      (hread : Json.read text levels = .ok v)
      (hresult : GraphQL.Schema.ofIntrospection v = .error .notObject)

def IsWordless {α : Type} : Except LoadError α → Prop
  | .ok _ => False
  | .error e => e.message? = none

theorem isWordless_introspected_iff (result : Except GraphQL.IntrospectionError GraphQL.Schema)
    (place : String) :
    IsWordless (result.mapError fun e => .noResult e place) ↔ result = .error .notObject := by
  cases result with
  | ok s => simp [IsWordless, Except.mapError]
  | error e => cases e <;> simp [IsWordless, Except.mapError, LoadError.message?]

theorem yields_readText_of_reads (h : d.Reads p text) : Yields (readText d p) (.ok text) := by
  obtain ⟨c, raw, hcontent, hdecode, rfl⟩ := id h
  simp only [readText, h.pathExists?, hcontent, hdecode]
  exact yields_pure _

theorem yields_readText_of_notText (h : d.NotText p) : Yields (readText d p) (.error (.notText p)) := by
  obtain ⟨c, hcontent, hdecode⟩ := id h
  simp only [readText, h.pathExists?, hcontent, hdecode]
  exact yields_throw _

theorem yields_readText_of_closed {reason : OpenError} (h : d.Closed p reason) : Yields (readText d p)
    (.error (.trouble (.fileUnreadable p.toString (reason.message p)))) := by
  simp only [readText, h.1, h.2]
  exact yields_fail _

theorem yields_readText_of_missing (h : d.pathExists? p = .ok false) :
    Yields (readText d p) (.error (.trouble (.fileMissing p.toString))) := by
  simp only [readText, h]
  exact (yields_fail _).stop

theorem yields_readText_of_tooLong (h : d.locate p = .error .nameTooLong) :
    Yields (readText d p) (.error (.unusablePath .nameTooLong)) := by
  simp only [readText, Disk.pathExists?_eq_error_iff.mpr ⟨rfl, h⟩]
  exact (yields_throw _).stop

theorem yields_file_of_error {e : LoadError} (h : Yields (readText d p) (.error e)) :
    Yields (file d p levels) (.error e) := (yields_report _).bind h.stop

def schemaOf (p : Path) (text : String) (levels : Option ℕ) : Loading GraphQL.Schema :=
  if p.lowerSuffix = ".json" then schemaOfJson p text levels else schemaOfDefinitions p text

theorem yields_file_of_text {r : Except LoadError GraphQL.Schema} (h : Yields (readText d p) (.ok text))
    (hschema : Yields (schemaOf p text levels) r) :
    Yields (file d p levels) (r.map fun s => ⟨"📄 " ++ p.toString, s⟩) := by
  have hloaded (s : GraphQL.Schema) : Yields (do report (.fileLoaded p.toString)
                                                 return (⟨"📄 " ++ p.toString, s⟩ : Loaded))
      (.ok ⟨"📄 " ++ p.toString, s⟩) := (yields_report _).bind (yields_pure _)
  rw [schemaOf] at hschema
  refine (yields_report _).bind (h.bind ?_)
  simp only [beq_iff_eq]
  split
  · next hsuffix =>
    rw [if_pos hsuffix] at hschema
    exact hschema.bind_map hloaded
  · next hsuffix =>
    rw [if_neg hsuffix] at hschema
    split
    · exact (yields_report _).bind (hschema.bind_map hloaded)
    · exact hschema.bind_map hloaded

theorem yields_schemaOfDefinitions (p : Path) (text : String) :
    ∃ r, Yields (schemaOfDefinitions p text) r ∧ ¬ IsWordless r := by
  rw [schemaOfDefinitions]
  cases GraphQL.Schema.ofText text with
  | ok s => exact ⟨_, yields_pure s, id⟩
  | error e => exact ⟨_, yields_fail _, fun h => nomatch h⟩

theorem yields_schemaOfJson (p : Path) (text : String) (levels : Option ℕ) :
    ∃ r, Yields (schemaOfJson p text levels) r ∧ (IsWordless r ↔
      (∃ limit, Json.read text levels = .error (.beyond limit)) ∨
      ∃ v, Json.read text levels = .ok v ∧ GraphQL.Schema.ofIntrospection v = .error .notObject) := by
  cases hread : Json.read text levels with
  | ok v =>
    have hschema := yields_introspected v p.toString
    refine ⟨_, by simpa only [schemaOfJson, hread] using hschema, ?_⟩
    rw [isWordless_introspected_iff]
    simp
  | error refusal =>
    cases refusal with
    | beyond limit =>
      refine ⟨.error (.beyond limit), ?_, ?_⟩
      · simp only [schemaOfJson, hread]
        exact yields_throw _
      · simp [IsWordless, LoadError.message?]
    | lacking lack remaining =>
      refine ⟨.error (.trouble (.fileNotJson p.toString
        ((Json.Refusal.lacking lack remaining).message text))), ?_, ?_⟩
      · simp only [schemaOfJson, hread]
        exact yields_fail _
      · simp [IsWordless, LoadError.message?]

theorem unloadable_iff_of_reads (h : d.Reads p text) (hunits : d.PairsUnits p levels) :
    Unloadable d p levels ↔ p.lowerSuffix = ".json" ∧
    ((∃ limit, Json.read text levels = .error (.beyond limit)) ∨
      ∃ v, Json.read text levels = .ok v ∧ GraphQL.Schema.ofIntrospection v = .error .notObject) := by
  constructor
  · rintro (hlong | hnot | ⟨text', limit, h', hsuffix, hread, -⟩ |
      ⟨text', v, h', hsuffix, hread, hresult⟩)
    · exact absurd hlong (Disk.not_tooLong_of_pathExists? h.pathExists?)
    · exact absurd hnot h.not_notText
    · exact ⟨hsuffix, .inl ⟨limit, h.unique h' ▸ hread⟩⟩
    · exact ⟨hsuffix, .inr ⟨v, h.unique h' ▸ hread, hresult⟩⟩
  · rintro ⟨hsuffix, ⟨limit, hread⟩ | ⟨v, hread, hresult⟩⟩
    · exact .beyond text limit h hsuffix hread fun hhalves => hunits text h hsuffix (hhalves ▸ hread)
    · exact .stray text v h hsuffix hread hresult

theorem not_unloadable {isThere : Bool} (hpath : d.pathExists? p = .ok isThere)
    (hcontent : ∀ c, d.content p ≠ .ok c) : ¬ Unloadable d p levels := by
  rintro (hlong | ⟨c, h, -⟩ | ⟨_, _, ⟨c, -, h, -⟩⟩ | ⟨_, _, ⟨c, -, h, -⟩⟩)
  · exact Disk.not_tooLong_of_pathExists? hpath hlong
  all_goals exact hcontent c h

theorem yields_schemaOf_of_reads (h : d.Reads p text) (levels : Option ℕ) :
    ∃ r, Yields (schemaOf p text levels) r ∧
      (d.PairsUnits p levels → (IsWordless r ↔ Unloadable d p levels)) := by
  rw [schemaOf]
  by_cases hsuffix : p.lowerSuffix = ".json"
  · obtain ⟨r, hr, hwordless⟩ := yields_schemaOfJson p text levels
    rw [if_pos hsuffix]
    refine ⟨r, hr, fun hunits => ?_⟩
    rw [unloadable_iff_of_reads h hunits, hwordless, and_iff_right hsuffix]
  · obtain ⟨r, hr, hwords⟩ := yields_schemaOfDefinitions p text
    rw [if_neg hsuffix]
    refine ⟨r, hr, fun hunits => ?_⟩
    rw [unloadable_iff_of_reads h hunits]
    exact iff_of_false hwords fun h => hsuffix h.1

theorem exists_yields_file (d : Disk) (p : Path) (levels : Option ℕ) :
    ∃ r, Yields (file d p levels) r ∧
      (d.PairsUnits p levels → (IsWordless r ↔ Unloadable d p levels)) := by
  rcases Disk.reading_cases d p with hlong | hmissing | ⟨reason, hclosed⟩ | hnot | ⟨text, hreads⟩
  · exact ⟨_, yields_file_of_error (yields_readText_of_tooLong hlong),
      fun _ => iff_of_true rfl (.nameTooLong hlong)⟩
  · refine ⟨_, yields_file_of_error (yields_readText_of_missing hmissing),
      fun _ => iff_of_false (fun h => nomatch h) (not_unloadable hmissing fun c h => ?_)⟩
    rw [Disk.pathExists?_of_content h] at hmissing
    cases hmissing
  · refine ⟨_, yields_file_of_error (yields_readText_of_closed hclosed),
      fun _ => iff_of_false (fun h => nomatch h) (not_unloadable hclosed.1 fun c h => ?_)⟩
    rw [hclosed.2] at h
    cases h
  · exact ⟨_, yields_file_of_error (yields_readText_of_notText hnot),
      fun _ => iff_of_true rfl (.notText hnot)⟩
  · obtain ⟨r, hr, hwordless⟩ := yields_schemaOf_of_reads hreads levels
    refine ⟨_, yields_file_of_text (yields_readText_of_reads hreads) hr, fun hunits => ?_⟩
    refine Iff.trans ?_ (hwordless hunits)
    cases r <;> rfl

end RealmModels.Loading
