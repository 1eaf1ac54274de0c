import Mathlib
import RealmModels.Proofs.Model.Fitting
import RealmModels.Proofs.Swift.History

namespace RealmModels.Model

open GraphQL Swift Writing

def nameRequests (fs : List Field) : List Naming.Request := fs.map fun f => .name f.name .camel

theorem respondAll_nameRequests (fs : List Field) (n : Naming.Scope) :
    respondAll n (nameRequests fs) =
      ((nameFields fs n).1.map fun x => some x.2, (nameFields fs n).2) := by
  induction fs generalizing n with
  | nil => rfl
  | cons f fs ih =>
    have hrest := ih (give .camel f.name n).2
    rw [nameRequests] at hrest ⊢
    rw [List.map_cons, respondAll, respond, hrest]
    rfl

theorem answers_nameRequests (fs : List Field) :
    Naming.Scope.empty.answers naming (nameRequests fs) =
      .ok (((namedFields fs).map Prod.snd).map some, (nameFields fs .empty).2) := by
  rw [answers_naming, respondAll_nameRequests, List.map_map]
  rfl

theorem zip_namedFields (fs : List Field) : fs.zip ((namedFields fs).map Prod.snd) = namedFields fs := by
  calc fs.zip ((namedFields fs).map Prod.snd)
      = ((namedFields fs).map Prod.fst).zip ((namedFields fs).map Prod.snd) := by
        rw [namedFields, nameFields_fst]
    _ = namedFields fs := (List.zip_of_prod rfl rfl).symm

theorem zip_of_answers {fs : List Field} {names : List String} {n : Naming.Scope}
    (h : Naming.Scope.empty.answers naming (nameRequests fs) = .ok (names.map some, n)) :
    fs.zip names = namedFields fs := by
  rw [answers_nameRequests] at h
  obtain ⟨hnames, -⟩ := Prod.mk.inj (Except.ok.inj h)
  rw [← List.map_injective_iff.mpr (Option.some_injective _) hnames, zip_namedFields]

theorem mem_given_nameFields {fs : List Field} {n : Naming.Scope} {x : Field × String}
    (h : x ∈ (nameFields fs n).1) :
    (Naming.keyOf x.1.name .camel, x.2) ∈ (nameFields fs n).2.given := by
  induction fs generalizing n with
  | nil => exact absurd h List.not_mem_nil
  | cons f fs ih =>
    rcases List.mem_cons.mp h with rfl | h
    · have hrest := given_subset_respondAll (give .camel f.name n).2 (nameRequests fs)
      rw [respondAll_nameRequests] at hrest
      exact hrest (mem_given_give .camel f.name n)
    · exact ih h

theorem distinct_nameFields (fs : List Field) : Distinct (nameFields fs .empty).2 := by
  have h := respondAll_keep (P := Distinct) (fun _ r hs => hs.respond r) (nameRequests fs)
    Distinct.empty
  rwa [respondAll_nameRequests] at h

theorem filled_nameFields (fs : List Field) {n : Naming.Scope} (h : Filled n) :
    Filled (nameFields fs n).2 := by
  induction fs generalizing n with
  | nil => exact h
  | cons f fs ih => exact ih (h.give f.name)

theorem namedFields_ne {fs : List Field} {x : Field × String} (h : x ∈ namedFields fs) : x.2 ≠ "" :=
  filled_nameFields fs (fun _ he => absurd he List.not_mem_nil) _ (mem_given_nameFields h)

theorem nodup_unquoted_namedFields {fs : List Field} (h : (fs.map Field.name).Nodup) :
    ((namedFields fs).map fun x => unquoted x.2).Nodup := by
  have hfields : ((namedFields fs).map fun x => x.1.name).Nodup := by
    rw [← nameFields_fst fs .empty, List.map_map] at h
    exact h
  refine List.Nodup.map_on ?_ hfields.of_map
  intro x hx y hy hname
  have hkey := (distinct_nameFields fs).apart.eq_of_read (mem_given_nameFields hx)
    (mem_given_nameFields hy) hname
  have hspelling := (Naming.keyOf_injective (Prod.mk.inj hkey).1).1
  exact List.inj_on_of_nodup_map hfields hx hy hspelling

/-- What a scope has answered in Swift since it was empty: two names are the same just for the same
spelling and style, and no name is one that was taken before it was first asked for. Therefore no two
properties of a class have the same name, backticks or not. -/
theorem given_names_distinct :
    (∀ rs : List Naming.Request, ∃ answers scope,
      Naming.Scope.empty.answers naming rs = .ok (answers, scope) ∧
      answers.length = rs.length ∧
      (∀ n c a, (.name n c, a) ∈ rs.zip answers → a.isSome = true) ∧
      (∀ n c a m d b, (.name n c, some a) ∈ rs.zip answers → (.name m d, some b) ∈ rs.zip answers →
        (a = b ↔ n = m ∧ c = d) ∧ (unquoted a = unquoted b ↔ n = m ∧ c = d)) ∧
      ∀ before w after n c a, rs = before ++ .take w :: after → .name n c ∉ before →
        (.name n c, some a) ∈ rs.zip answers → unquoted a ≠ w) ∧
    ∀ (style : Style) (name : String) (fs : List Field) (s t : Session),
      (fs.map Field.name).Nodup → declareClass style name (some fs) s = .ok () t →
      ∃ names : List String,
        Naming.Scope.empty.answers naming (nameRequests fs) = .ok (names.map some, t.names) ∧
        t.printer = s.printer.putAll (separator s.printer ++
          bracedLines (classHeader name) (bodyLines style (fs.zip names))) ∧
        (names.map unquoted).Nodup := by
  constructor
  · intro rs
    have hdistinct := respondAll_keep (P := Distinct) (fun _ r hs => hs.respond r) rs Distinct.empty
    refine ⟨_, _, answers_naming .empty rs, length_respondAll .empty rs, ?_, ?_, ?_⟩
    · intro n c a ha
      obtain ⟨name, rfl, -⟩ := mem_given_of_answer ha
      rfl
    · intro n c a m d b ha hb
      obtain ⟨a', ha', hgiven⟩ := mem_given_of_answer ha
      obtain ⟨b', hb', hgiven'⟩ := mem_given_of_answer hb
      obtain rfl := Option.some.inj ha'
      obtain rfl := Option.some.inj hb'
      have hkey : Naming.keyOf n c = Naming.keyOf m d ↔ n = m ∧ c = d :=
        ⟨Naming.keyOf_injective, fun h => by rw [h.1, h.2]⟩
      rw [← hkey]
      exact hdistinct.name_eq_iff hgiven hgiven'
    · intro before w after n c a hrs hbefore ha
      obtain ⟨a', ha', hgiven⟩ := mem_given_of_answer ha
      obtain rfl := Option.some.inj ha'
      have havoids := avoids_of_take after (w := w) hbefore
      rw [← hrs] at havoids
      exact havoids.given a hgiven
  · rintro style name fs ⟨p, n, e⟩ t hnodup hrun
    obtain ⟨-, -, rfl⟩ := (gives_declareClass style name fs () t).mp hrun
    refine ⟨(namedFields fs).map Prod.snd, answers_nameRequests fs, ?_, ?_⟩
    · rw [zip_namedFields]
      rfl
    · rw [List.map_map]
      exact nodup_unquoted_namedFields hnodup

theorem colliding_names_distinct :
    (∃ answers scope,
      Naming.Scope.empty.answers naming
        [.take "nickName", .name "nick_name" .camel, .name "nickName" .camel] =
          .ok (answers, scope) ∧
      ∃ a b, answers.tail = [some a, some b] ∧ unquoted a ≠ unquoted b ∧
        unquoted a ≠ "nickName") ∧
    (person.modelOf.fields.map Field.name).Nodup ∧
    ∃ (names : List String) (t : Session),
      declareClass Settings.default.style person.modelOf.name (some person.modelOf.fields)
        Settings.default.session = .ok () t ∧
      Naming.Scope.empty.answers naming (nameRequests person.modelOf.fields) =
        .ok (names.map some, t.names) ∧
      (names.map unquoted).Nodup := by
  have hnodup : (person.modelOf.fields.map Field.name).Nodup := by decide
  obtain ⟨hanswers, hclass⟩ := given_names_distinct
  refine ⟨?_, hnodup, ?_⟩
  · obtain ⟨answers, scope, hrun, hlength, hsome, heq, htaken⟩ :=
      hanswers [.take "nickName", .name "nick_name" .camel, .name "nickName" .camel]
    obtain ⟨taken, a, b, rfl⟩ := List.length_eq_three.mp hlength
    obtain ⟨a, rfl⟩ := Option.isSome_iff_exists.mp (hsome "nick_name" .camel a (by simp))
    obtain ⟨b, rfl⟩ := Option.isSome_iff_exists.mp (hsome "nickName" .camel b (by simp))
    have hne := (heq "nick_name" .camel a "nickName" .camel b (by simp) (by simp)).2
    refine ⟨_, scope, hrun, a, b, rfl, fun h => ?_, ?_⟩
    · exact absurd (hne.mp h).1 (by decide)
    · exact htaken [] "nickName" _ "nick_name" .camel a rfl List.not_mem_nil (by simp)
  · obtain ⟨t, hrun⟩ := fitting_people.declareClass person_mem_models
    obtain ⟨names, hnames, -, hdistinct⟩ := hclass _ _ _ _ t hnodup hrun
    exact ⟨names, t, hrun, hnames, hdistinct⟩

end RealmModels.Model
