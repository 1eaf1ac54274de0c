import Mathlib
import RealmModels.Proofs.Json.Writing
import RealmModels.Proofs.Settings.Precedence
import RealmModels.Proofs.Text.LineEnds

/-!
Settings that are saved and loaded again. Members that are kept under the last setting are saved beside
the others, so that they come back just if none of them has a key that a setting is known by.
-/

namespace RealmModels.Settings

open Setting

variable {s : Settings} {ms : List (String × Json)}

theorem eq_of_value {s s' : Settings} (h : ∀ setting, s.value setting = s'.value setting) : s = s' :=
  congrArg Settings.mk (funext h)

theorem value_set (s : Settings) (setting other : Setting) (v : Json) :
    (s.set setting v).value other = if other = setting then v else s.value other := rfl

def fields : List Setting := Setting.all.filter (· != .custom)

def ownMembers (s : Settings) (ms : List (String × Json)) : List (String × Json) :=
  fields.map fun setting => (setting.key, (Json.lookup setting.key ms).getD (s.value setting))

def otherMembers (ms : List (String × Json)) : List (String × Json) :=
  ms.filter fun e => !fields.any (·.key == e.1)

theorem savedMembers_eq (h : s.value .custom = .obj ms) :
    s.savedMembers = .ok (s.ownMembers ms ++ otherMembers ms) := by
  rw [savedMembers, h, Json.table]
  change Except.ok _ = _
  rw [Json.Table.toMembers_ofMembers]
  rfl

theorem lastGiven?_own (s : Settings) (ms : List (String × Json)) (setting : Setting) :
    lastGiven? setting.key (s.ownMembers ms) =
      if setting = .custom then none
      else some ((Json.lookup setting.key ms).getD (s.value setting)) := by
  cases setting <;> rfl

theorem unknownMembers_own (s : Settings) (ms : List (String × Json)) :
    unknownMembers (s.ownMembers ms) = [] := rfl

theorem unknownMembers_other (ms : List (String × Json)) :
    unknownMembers (otherMembers ms) = unknownMembers ms := by
  rw [unknownMembers, otherMembers, List.filter_filter]
  apply List.filter_congr
  intro e _
  cases hfield : fields.any (·.key == e.1) with
  | false => simp
  | true =>
    obtain ⟨setting, -, hkey⟩ := List.any_eq_true.mp hfield
    have hknown : isKnown (normalKey e.1) = true :=
      isKnown_normalKey_iff.mpr ⟨setting, .inl (beq_iff_eq.mp hkey).symm⟩
    simp [hknown]

theorem lastGiven?_custom (members : List (String × Json)) :
    lastGiven? Setting.custom.key members = Json.last? Setting.custom.key members := by
  rw [lastGiven?, Json.last?]
  congr 2
  apply List.filter_congr
  intro e _
  have hspells : normalKey e.1 = Setting.custom.key ↔ e.1 = Setting.custom.key := by
    rw [normalKey_eq_iff, Spells]
    simp [camelKey?]
  rw [Bool.eq_iff_iff, beq_iff_eq, beq_iff_eq, hspells]

theorem last?_other (ms : List (String × Json)) :
    Json.last? Setting.custom.key (otherMembers ms) = Json.last? Setting.custom.key ms := by
  rw [Json.last?, Json.last?, otherMembers, List.filter_filter]
  congr 2
  apply List.filter_congr
  intro e _
  cases hkey : e.1 == Setting.custom.key with
  | false => rfl
  | true =>
    rw [beq_iff_eq.mp hkey]
    rfl

theorem merge_saved (s : Settings) (hnodup : (Json.keys ms).Nodup) :
    merge (s.ownMembers ms ++ otherMembers ms) [] =
      assemble (preferred (s.ownMembers ms ++ otherMembers ms) []) (unknownMembers ms) := by
  have hkeys : (Json.keys ([] ++ unknownMembers ms)).Nodup :=
    (List.filter_sublist.map Prod.fst).nodup hnodup
  rw [merge_eq_assemble, unknownMembers_append, unknownMembers_own, unknownMembers_other,
    List.nil_append, show unknownMembers [] = [] from rfl, List.append_nil, Json.putAll_of_nodup hkeys]
  rfl

theorem preferred_custom (s : Settings) (hnodup : (Json.keys ms).Nodup) :
    preferred (s.ownMembers ms ++ otherMembers ms) [] .custom =
      (Json.lookup Setting.custom.key ms).getD (.obj []) := by
  rw [preferred, lastGiven?_append, lastGiven?_own, lastGiven?_custom (otherMembers ms), last?_other,
    Json.last?_of_nodup hnodup]
  cases Json.lookup Setting.custom.key ms <;> rfl

def NoneSpelled (ms : List (String × Json)) : Prop :=
  ∀ e ∈ ms, ∀ setting : Setting, ¬ setting.Spells e.1

namespace NoneSpelled

variable (h : NoneSpelled ms)

include h

theorem lookup_eq_none (setting : Setting) : Json.lookup setting.key ms = none := by
  rw [Json.lookup_eq_none_iff]
  intro hmem
  obtain ⟨e, he, hkey⟩ := List.mem_map.mp hmem
  exact h e he setting (.inl hkey)

theorem unknownMembers : unknownMembers ms = ms := by
  apply List.filter_eq_self.mpr
  intro e he
  have hunknown : ¬ isKnown (normalKey e.1) = true := by
    rw [isKnown_normalKey_iff]
    rintro ⟨setting, hspells⟩
    exact h e he setting hspells
  simpa using hunknown

theorem preferred_saved (s : Settings) {setting : Setting} (hsetting : setting ≠ .custom) :
    preferred (s.ownMembers ms ++ otherMembers ms) [] setting = s.value setting := by
  have hother : lastGiven? setting.key (otherMembers ms) = none := by
    rw [lastGiven?, Option.map_eq_none_iff, List.getLast?_eq_none_iff, List.filter_eq_nil_iff]
    intro e he hkey
    exact h e (List.mem_filter.mp he).1 setting (normalKey_eq_iff.mp (beq_iff_eq.mp hkey))
  rw [preferred, lastGiven?_append, hother, lastGiven?_own, if_neg hsetting, h.lookup_eq_none]
  rfl

theorem merge_saved (hcustom : s.value .custom = .obj ms) (hnodup : (Json.keys ms).Nodup) :
    merge (s.ownMembers ms ++ otherMembers ms) [] = .ok s := by
  have hgiven := preferred_custom s hnodup
  rw [h.lookup_eq_none, Option.getD_none] at hgiven
  have hputAll : Json.putAll [] ms = ms := Json.putAll_of_nodup (show (Json.keys ([] ++ ms)).Nodup from hnodup)
  rw [Settings.merge_saved s hnodup, h.unknownMembers]
  by_cases hms : ms = []
  · subst hms
    refine congrArg Except.ok (eq_of_value fun setting => ?_)
    by_cases hsetting : setting = .custom
    · rw [hsetting, hcustom]
      exact hgiven
    · exact h.preferred_saved s hsetting
  · have hassembled := assemble_of_unknown hms (.inl hgiven)
    rw [hputAll] at hassembled
    rw [hassembled]
    refine congrArg Except.ok (eq_of_value fun setting => ?_)
    rw [value_set]
    split
    · next hsetting => rw [hsetting, hcustom]
    · next hsetting => exact h.preferred_saved s hsetting

end NoneSpelled

def Same (s s' : Settings) : Prop := ∀ setting, (s.value setting).same (s'.value setting) = true

theorem depth_lt_of_baseTable {v k w : Json} {base : Json.Table} (h : baseTable v = .ok base)
    (hmem : (k, w) ∈ base) : w.depth < v.depth := by
  rw [baseTable] at h
  split at h
  · exact Json.depth_lt_of_table h hmem
  · obtain rfl := Except.ok.inj h
    exact absurd hmem List.not_mem_nil

theorem mem_of_laid {base : Json.Table} {unknown : List (String × Json)} {key : String} {w : Json}
    (h : Json.lookup key (Json.Table.putAll base (.ofMembers unknown)).toMembers = some w) :
    (∃ k, (k, w) ∈ base) ∨ (key, w) ∈ unknown := by
  obtain ⟨⟨k, v⟩, hkv, heq⟩ := List.mem_map.mp (Json.mem_of_lookup h)
  obtain ⟨hkey, rfl⟩ := Prod.mk.inj heq
  rcases Json.Table.mem_putAll hkv with hbase | ⟨stored, hstored, hsame⟩
  · exact .inl ⟨k, hbase⟩
  · obtain ⟨⟨name, v'⟩, hname, heq⟩ := List.mem_map.mp hstored
    obtain ⟨rfl, rfl⟩ := Prod.mk.inj heq
    obtain rfl : k = .str name := hsame.elim id Json.Table.eq_of_sameKey_text
    exact .inr (hkey ▸ hname)

theorem not_spells_of_mem_unknown {e : String × Json} (he : e ∈ unknownMembers ms) (setting : Setting) :
    ¬ setting.Spells e.1 := by
  have hunknown : ¬ isKnown (normalKey e.1) = true := by simpa using (List.mem_filter.mp he).2
  rw [isKnown_normalKey_iff] at hunknown
  exact fun hspells => hunknown ⟨setting, hspells⟩

theorem noneSpelled_of_same {s' : Settings} (hnodup : (Json.keys ms).Nodup)
    (hmerge : merge (s.ownMembers ms ++ otherMembers ms) [] = .ok s')
    (hsame : (Json.obj ms).same (s'.value .custom) = true) : NoneSpelled ms := by
  intro e he setting hspells
  have hgiven := preferred_custom s hnodup
  have hpart {v : Json} (hv : Json.lookup Setting.custom.key ms = some v) :
      v.depth < (Json.obj ms).depth :=
    Nat.lt_succ_of_le (Json.depth_le_of_mem_members (Json.mem_of_lookup hv))
  rw [merge_saved s hnodup] at hmerge
  by_cases hunknown : unknownMembers ms = []
  · rw [hunknown] at hmerge
    obtain rfl := Except.ok.inj hmerge
    change Json.same _ (preferred _ _ .custom) = true at hsame
    rw [hgiven] at hsame
    cases hv : Json.lookup Setting.custom.key ms with
    | none =>
      rw [hv, Option.getD_none, Json.same, Bool.and_eq_true, beq_iff_eq] at hsame
      rw [List.eq_nil_of_length_eq_zero hsame.1] at he
      exact List.not_mem_nil he
    | some v =>
      -- what was given is loaded as it is, although it is a part of what was saved
      rw [hv] at hsame
      exact absurd (Json.depth_le_of_same hsame) (not_le.mpr (hpart hv))
  · rw [assemble, if_neg (mt List.isEmpty_iff.mp hunknown)] at hmerge
    cases hbase : baseTable (preferred (s.ownMembers ms ++ otherMembers ms) [] .custom) with
    | error fault =>
      rw [hbase] at hmerge
      cases hmerge
    | ok base =>
      rw [hbase] at hmerge
      obtain rfl := Except.ok.inj hmerge
      rw [value_set, if_pos rfl, Json.same, Bool.and_eq_true] at hsame
      have hfound := Json.sameMembers_iff.mp hsame.2
      rw [hgiven] at hbase
      cases hv : Json.lookup Setting.custom.key ms with
      | none =>
        -- nothing lies below, so that only members that are not known come back
        rw [hv] at hbase
        obtain rfl := Except.ok.inj hbase
        obtain ⟨w, hw, -⟩ := hfound e he
        rcases mem_of_laid hw with ⟨k, hk⟩ | hmem
        · exact List.not_mem_nil hk
        · exact not_spells_of_mem_unknown hmem setting hspells
      | some v =>
        -- the member for what was given is not known under its own key, nor can it be a part of itself
        rw [hv] at hbase
        obtain ⟨w, hw, hvw⟩ := hfound _ (Json.mem_of_lookup hv)
        rcases mem_of_laid hw with ⟨k, hk⟩ | hmem
        · exact absurd (Json.depth_le_of_same hvw) (not_le.mpr (depth_lt_of_baseTable hbase hk))
        · exact not_spells_of_mem_unknown hmem .custom (.inl rfl)

theorem readText_of_save {d : Disk} {p : Path} {members : List (String × Json)}
    (hsaved : s.savedMembers = .ok members) (hwritable : d.Writable p) :
    ∃ d', s.save d p = .ok d' ∧ readText d' p = .ok (Json.pretty (.obj members)) := by
  let text := Json.pretty (.obj members)
  obtain ⟨d', hwrite, hcontent⟩ := Disk.content_of_write hwritable text
  refine ⟨d', ?_, ?_⟩
  · rw [save, savedText, hsaved]
    dsimp only [bind, Except.bind]
    rw [hwrite]
    rfl
  · have hunified : Text.unifyLineEnds text.toList = text.toList :=
      Text.unifyLineEnds_of_not_mem (Json.lacks_indented _ 0)
    rw [readText, hcontent]
    change Except.ok (String.ofList (Text.unifyLineEnds text.toList)) = _
    rw [hunified, String.ofList_toList]

/-- Settings that are saved and loaded again are equal to what they were just if no member that is kept
under the last of them has a key that a setting is known by. -/
theorem load_save (s : Settings) (ms : List (String × Json)) (d : Disk) (p : Path)
    (levels : Option ℕ) (hcustom : s.value .custom = .obj ms)
    (hproper : ∀ setting, (s.value setting).isProper = true)
    (hsuffix : p.lowerSuffix = ".json") (hwritable : d.Writable p)
    (hread : ∀ members, s.savedMembers = .ok members →
      Json.read (Json.pretty (.obj members)) levels = .ok (.obj members)) :
    ∃ d', s.save d p = .ok d' ∧
      ((∃ s', (load d' (some p) [] levels).2 = .ok s' ∧ s.Same s') ↔ NoneSpelled ms) ∧
      (NoneSpelled ms → (load d' (some p) [] levels).2 = .ok s) := by
  have hsaved := savedMembers_eq hcustom
  obtain ⟨d', hsave, htext⟩ := readText_of_save hsaved hwritable
  have hholds : Holds d' p levels (s.ownMembers ms ++ otherMembers ms) :=
    ⟨hsuffix, _, htext, hread _ hsaved⟩
  have hnodup : (Json.keys ms).Nodup := by
    have hobject := hproper .custom
    rw [hcustom] at hobject
    exact (Json.properMembers_iff.mp hobject).1
  have hback (h : NoneSpelled ms) : (load d' (some p) [] levels).2 = .ok s := by
    rw [hholds.load, merged, h.merge_saved hcustom hnodup]
  refine ⟨d', hsave, ⟨?_, ?_⟩, hback⟩
  · rintro ⟨s', hload, hsame⟩
    have hmerge : merge (s.ownMembers ms ++ otherMembers ms) [] = .ok s' := by
      rw [hholds.load, merged] at hload
      split at hload
      · next hmerge =>
        obtain rfl := Except.ok.inj hload
        exact hmerge
      · cases hload
    exact noneSpelled_of_same hnodup hmerge (hcustom ▸ hsame .custom)
  · intro h
    exact ⟨s, hback h, fun setting => Json.same_self (hproper setting)⟩

def shadedSettings : Settings := default.set .custom (.obj [("shade", .str "dark")])

def shadedSaved : List (String × Json) :=
  [("output_file", .null), ("namespace", .null), ("passthrough_custom_scalars", .bool false),
    ("custom_scalars_prefix", .str ""), ("indent_size", .int 2), ("use_tabs", .bool false),
    ("add_comments", .bool true), ("generate_initializers", .bool false),
    ("add_deprecation_attributes", .bool false), ("shade", .str "dark")]

def shadedSavedText : String :=
  "\x7b\n  \"output_file\": null,\n  \"namespace\": null,\n  \"passthrough_custom_scalars\": false," ++
    "\n  \"custom_scalars_prefix\": \"\",\n  \"indent_size\": 2,\n  \"use_tabs\": false," ++
    "\n  \"add_comments\": true,\n  \"generate_initializers\": false," ++
    "\n  \"add_deprecation_attributes\": false,\n  \"shade\": \"dark\"\n\x7d"

theorem shaded_pretty : Json.pretty (.obj shadedSaved) = shadedSavedText := by cbv

set_option maxRecDepth 20000 in
theorem shaded_read : Json.read shadedSavedText = .ok (.obj shadedSaved) := by cbv

theorem shaded_load_save :
    ∃ d', shadedSettings.save ⟨[], []⟩ (Path.ofString "a.json") = .ok d' ∧
      (load d' (some (Path.ofString "a.json")) []).2 = .ok shadedSettings := by
  have hproper (setting : Setting) : (shadedSettings.value setting).isProper = true := by
    cases setting <;> rfl
  have hwritable : (⟨[], []⟩ : Disk).Writable (Path.ofString "a.json") := ⟨["a.json"], by cbv, rfl⟩
  have hcustom : shadedSettings.value .custom = .obj [("shade", .str "dark")] := rfl
  have hsaved : shadedSettings.savedMembers = .ok shadedSaved := savedMembers_eq hcustom
  have hread (members : List (String × Json)) (h : shadedSettings.savedMembers = .ok members) :
      Json.read (Json.pretty (.obj members)) = .ok (.obj members) := by
    obtain rfl := Except.ok.inj (hsaved.symm.trans h)
    rw [shaded_pretty, shaded_read]
  have hnone : NoneSpelled [("shade", .str "dark")] := by
    intro e he setting
    obtain rfl := List.mem_singleton.mp he
    rw [← normalKey_eq_iff]
    cases setting <;> decide
  obtain ⟨d', hsave, -, hback⟩ := load_save shadedSettings [("shade", .str "dark")] ⟨[], []⟩
    (Path.ofString "a.json") none hcustom hproper (by decide) hwritable hread
  exact ⟨d', hsave, hback hnone⟩

/-- A name that starts with its only point has no suffix. -/
theorem pointed_name_is_not_loaded :
    ∃ d', default.save ⟨[], []⟩ (Path.ofString ".json") = .ok d' ∧
      (load d' (some (Path.ofString ".json")) []).2 =
        .error (.notJsonFile (Path.ofString ".json")) := by
  have hwritable : (⟨[], []⟩ : Disk).Writable (Path.ofString ".json") := ⟨[".json"], by cbv, rfl⟩
  obtain ⟨d', hsave, htext⟩ := readText_of_save (savedMembers_eq (s := default) rfl) hwritable
  refine ⟨d', hsave, ?_⟩
  have hsuffix : ((Path.ofString ".json").lowerSuffix != ".json") = true := by decide
  rw [load, membersOf, pathExists?_of_readText htext]
  dsimp only
  rw [hsuffix]
  rfl

end RealmModels.Settings
