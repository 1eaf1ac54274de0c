import Mathlib
import RealmModels.Proofs.Loading.Outcome

/-!
Which loads from an endpoint end in a schema or in an error of the loader. The URL is taken apart and
the errors of a payload are listed without asking whether that can be done.
-/

namespace RealmModels

open Remote

namespace LoadError

/-- An error that the loader reports in words; that a file is missing is told apart from all others. -/
def IsLoaderError (e : LoadError) : Prop :=
  e.message?.isSome ∧ ∀ path, e ≠ .trouble (.fileMissing path)

end LoadError

namespace Remote

namespace Url

def authorityIn (s : String) : List Char := authorityOf (cutScheme (cleaned s.toList)).2

def IsAmbiguous (s : String) : Prop :=
  bracketsFit (authorityIn s) = false ∨ ∃ c ∈ authorityIn s, looksLikeEnd c = true

def IsAsked (s : String) : Prop := ∃ u, ofString? s = some u ∧ u.isComplete = true

theorem ofString?_eq_none_iff (s : String) : ofString? s = none ↔ IsAmbiguous s := by
  change (if bracketsFit (authorityIn s) && !(authorityIn s).any looksLikeEnd then
    some (⟨_, authorityIn s⟩ : Url) else none) = none ↔ _
  rw [ite_eq_right_iff, IsAmbiguous]
  cases bracketsFit (authorityIn s) <;> simp

theorem exists_incomplete {s : String} (h : ¬ IsAmbiguous s) (hasked : ¬ IsAsked s) :
    ∃ u, ofString? s = some u ∧ u.isComplete = false := by
  obtain ⟨u, hu⟩ := Option.ne_none_iff_exists'.mp (mt (ofString?_eq_none_iff s).mp h)
  exact ⟨u, hu, Bool.eq_false_iff.mpr fun hcomplete => hasked ⟨u, hu, hcomplete⟩⟩

end Url

inductive IsLone : Json → Prop
  | bool (b : Bool) : IsLone (.bool b)
  | int (n : Int) : IsLone (.int n)
  | real (x : Float) : IsLone (.real x)

theorem reportedErrors?_eq_some_iff {payload errors : Json} : reportedErrors? payload = some errors ↔
    payload.get? "errors" = some errors ∧ errors.truthy = true := by
  have hfilter : reportedErrors? payload = (payload.get? "errors").filter Json.truthy := by
    rw [reportedErrors?]
    cases payload.get? "errors" <;> rfl
  rw [hfilter, Option.filter_eq_some_iff]

theorem errorTexts?_eq_none_iff {errors : Json} (h : errors.truthy = true) :
    errorTexts? errors = none ↔ IsLone errors := by
  cases errors with
  | null => cases h
  | bool b => exact iff_of_true rfl (.bool b)
  | int n => exact iff_of_true rfl (.int n)
  | real x => exact iff_of_true rfl (.real x)
  | str | arr | obj => exact iff_of_false (fun h => by cases h) (fun h => by cases h)

end Remote

namespace Loading

/-- A payload that ends a load otherwise than in a schema or an error of the loader. -/
inductive Unreadable : Json → Prop
  | loneErrors {payload errors : Json} (h : payload.get? "errors" = some errors)
      (hset : errors.truthy = true) (hlone : IsLone errors) : Unreadable payload
  | stray {payload : Json} (h : reportedErrors? payload = none)
      (hresult : GraphQL.Schema.ofIntrospection payload = .error .notObject) : Unreadable payload

inductive Unread : Reply → Prop
  | noStatus (reason : String) : Unread (.failed .rejected reason)
  | payload {v : Json} (h : Unreadable v) : Unread (.answered (.ok v))

def IsReported {α : Type} : Except LoadError α → Prop
  | .ok _ => True
  | .error e => e.IsLoaderError

theorem Yields.isReported_iff {α : Type} {x : Loading α} {r : Except LoadError α} (h : Yields x r)
    (j : Journal) : ((∃ a j', x j = .ok a j') ∨ ∃ e j', x j = .error e j' ∧ e.IsLoaderError) ↔
      IsReported r := by
  obtain ⟨j', hx⟩ := h j
  rw [hx]
  cases r with
  | ok a => simp [IsReported]
  | error e => simp [IsReported]

theorem isLoaderError_trouble {t : Log.LoadTrouble} (h : ∀ path, t ≠ .fileMissing path) :
    (LoadError.trouble t).IsLoaderError :=
  ⟨rfl, fun path ht => h path (LoadError.trouble.inj ht)⟩

theorem isLoaderError_noResult_iff (e : GraphQL.IntrospectionError) (place : String) :
    (LoadError.noResult e place).IsLoaderError ↔ e ≠ .notObject := by
  cases e with
  | absent | invalid => exact iff_of_true ⟨rfl, fun _ h => by cases h⟩ (fun h => by cases h)
  | notObject => exact iff_of_false (fun h => by cases h.1) (fun h => h rfl)

section

variable {send : Request → Reply} {r : Request}

theorem yields_endpoint_of_isAmbiguous (h : Url.IsAmbiguous r.url) :
    Yields (endpoint send r) (.error (.ambiguousUrl r.url)) := by
  refine (yields_report _).bind ?_
  rw [(Url.ofString?_eq_none_iff _).mpr h]
  exact (yields_throw _).stop

theorem yields_endpoint_of_incomplete {u : Url} (h : Url.ofString? r.url = some u)
    (hu : u.isComplete = false) : Yields (endpoint send r) (.error (.trouble (.badUrl r.url))) := by
  refine (yields_report _).bind ?_
  rw [h]
  dsimp only
  rw [hu]
  exact (yields_fail _).stop

theorem yields_endpoint_of_isAsked {x : Except LoadError Loaded} (h : Url.IsAsked r.url)
    (hx : Yields (do
      let payload ← payloadOf r.url (send r)
      checkErrors r.url payload
      let schema ← introspected payload r.url
      report (.introspected r.url)
      return ⟨"🌐 " ++ r.url, schema⟩) x) : Yields (endpoint send r) x := by
  obtain ⟨u, hurl, hu⟩ := h
  refine (yields_report _).bind ?_
  rw [hurl]
  dsimp only
  rw [hu]
  exact (yields_modify _).bind hx

theorem yields_checkErrors_of_lone {payload errors : Json} (h : reportedErrors? payload = some errors)
    (hlone : errorTexts? errors = none) (url : String) :
    Yields (checkErrors url payload) (.error (.unreadableErrors url)) := by
  simp only [checkErrors, h, hlone]
  exact yields_throw _

theorem yields_checkErrors_of_texts {payload errors : Json} {texts : List String}
    (h : reportedErrors? payload = some errors) (htexts : errorTexts? errors = some texts) (url : String) :
    Yields (checkErrors url payload) (.error (.trouble (.refused url (Text.joinWith "; " texts)))) := by
  simp only [checkErrors, h, htexts]
  exact yields_fail _

theorem reports_payload_iff {payload : Json} (h : Url.IsAsked r.url)
    (hpayload : Yields (payloadOf r.url (send r)) (.ok payload)) :
    ∃ x, Yields (endpoint send r) x ∧ (IsReported x ↔ ¬ Unreadable payload) := by
  cases herrors : reportedErrors? payload with
  | some errors =>
    obtain ⟨hmember, hset⟩ := reportedErrors?_eq_some_iff.mp herrors
    cases htexts : errorTexts? errors with
    | none =>
      have hcheck := yields_checkErrors_of_lone herrors htexts r.url
      refine ⟨_, yields_endpoint_of_isAsked h (hpayload.bind hcheck.stop), ?_⟩
      refine iff_of_false (fun h => nomatch h.1) fun hnot => ?_
      exact hnot (.loneErrors hmember hset ((errorTexts?_eq_none_iff hset).mp htexts))
    | some texts =>
      have hcheck := yields_checkErrors_of_texts herrors htexts r.url
      refine ⟨_, yields_endpoint_of_isAsked h (hpayload.bind hcheck.stop), ?_⟩
      refine iff_of_true (isLoaderError_trouble (by simp)) fun hunread => ?_
      cases hunread with
      | loneErrors hmember' _ hlone =>
        obtain rfl := Option.some.inj (hmember.symm.trans hmember')
        rw [(errorTexts?_eq_none_iff hset).mpr hlone] at htexts
        cases htexts
      | stray hnone => rw [herrors] at hnone; cases hnone
  | none =>
    have hcheck : Yields (checkErrors r.url payload) (.ok ()) := by
      rw [checkErrors, herrors]
      exact yields_pure _
    have hnotLone {errors : Json} (h : payload.get? "errors" = some errors)
        (hset : errors.truthy = true) : False := by
      rw [reportedErrors?_eq_some_iff.mpr ⟨h, hset⟩] at herrors
      cases herrors
    have hschema := yields_introspected payload r.url
    cases hresult : GraphQL.Schema.ofIntrospection payload with
    | ok s =>
      rw [hresult] at hschema
      refine ⟨.ok ⟨"🌐 " ++ r.url, s⟩, yields_endpoint_of_isAsked h (hpayload.bind (hcheck.bind
        (hschema.bind ((yields_report _).bind (yields_pure _))))), iff_of_true trivial fun hunread => ?_⟩
      cases hunread with
      | loneErrors h hset => exact hnotLone h hset
      | stray _ hstray => rw [hresult] at hstray; cases hstray
    | error e =>
      rw [hresult] at hschema
      refine ⟨.error (.noResult e r.url), yields_endpoint_of_isAsked h (hpayload.bind (hcheck.bind
        hschema.stop)), (isLoaderError_noResult_iff e r.url).trans (not_congr ?_)⟩
      constructor
      · rintro rfl
        exact .stray herrors hresult
      · intro hunread
        cases hunread with
        | loneErrors h hset => exact (hnotLone h hset).elim
        | stray _ hstray => exact Except.error.inj (hresult.symm.trans hstray)

theorem reports_reply_iff (h : Url.IsAsked r.url) :
    ∃ x, Yields (endpoint send r) x ∧ (IsReported x ↔ ¬ Unread (send r)) := by
  -- replies that are refused before anyone looks at their payload
  have hfail {t : Log.LoadTrouble} (ht : ∀ path, t ≠ .fileMissing path)
      (hyields : Yields (payloadOf r.url (send r)) (.error (.trouble t)))
      (hnot : ¬ Unread (send r)) :
      ∃ x, Yields (endpoint send r) x ∧ (IsReported x ↔ ¬ Unread (send r)) :=
    ⟨_, yields_endpoint_of_isAsked h hyields.stop, iff_of_true (isLoaderError_trouble ht) hnot⟩
  cases hreply : send r with
  | failed failure reason =>
    rw [hreply] at hfail
    cases failure with
    | rejected =>
      refine ⟨.error (.unknownStatus r.url), yields_endpoint_of_isAsked h ?_,
        iff_of_false (fun h => nomatch h.1) fun hnot => hnot (.noStatus reason)⟩
      rw [hreply]
      exact (yields_throw _).stop
    | timeout | connection | invalid | other =>
      exact hfail (by simp) (yields_fail _) (fun hunread => by cases hunread)
  | refused status =>
    rw [hreply] at hfail
    exact hfail (t := .status (toString status) r.url) (by simp) (yields_fail _)
      (fun hunread => by cases hunread)
  | answered payload =>
    rw [hreply] at hfail
    cases payload with
    | error reason =>
      exact hfail (t := .replyNotJson r.url reason) (by simp) (yields_fail _)
        (fun hunread => by cases hunread)
    | ok v =>
      have hpayload : Yields (payloadOf r.url (send r)) (.ok v) := by
        rw [hreply]
        exact yields_pure v
      obtain ⟨x, hx, hreported⟩ := reports_payload_iff h hpayload
      refine ⟨x, hx, hreported.trans (not_congr ⟨.payload, ?_⟩)⟩
      rintro ⟨⟩
      assumption

end

theorem exists_yields_endpoint (send : Request → Reply) (r : Request) :
    ∃ x, Yields (endpoint send r) x ∧
      (IsReported x ↔ ¬ (Url.IsAmbiguous r.url ∨ Url.IsAsked r.url ∧ Unread (send r))) := by
  by_cases hambiguous : Url.IsAmbiguous r.url
  · exact ⟨_, yields_endpoint_of_isAmbiguous hambiguous,
      iff_of_false (fun h => nomatch h.1) (fun h => h (.inl hambiguous))⟩
  · by_cases hasked : Url.IsAsked r.url
    · obtain ⟨x, hx, hreported⟩ := @reports_reply_iff send r hasked
      exact ⟨x, hx, by simp [hambiguous, hasked, hreported]⟩
    · obtain ⟨u, hurl, hcomplete⟩ := Url.exists_incomplete hambiguous hasked
      exact ⟨_, yields_endpoint_of_incomplete hurl hcomplete,
        iff_of_true (isLoaderError_trouble (by simp)) (by simp [hambiguous, hasked])⟩

end Loading

end RealmModels
