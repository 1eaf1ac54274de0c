import Mathlib
import RealmModels.Proofs.Disk.Writing
import RealmModels.Proofs.Json.Members
import RealmModels.Settings.File

/-!
Which value a setting gets from a file and from a caller. Members of both layers are sorted out by the
one spelling of their keys, and then the last one counts.
-/

namespace RealmModels

namespace Setting

def Spells (setting : Setting) (key : String) : Prop :=
  key = setting.key ∨ setting.camelKey? = some key

theorem ofKey?_key (setting : Setting) : ofKey? setting.key = some setting := by
  cases setting <;> rfl

theorem key_injective : Function.Injective key := by
  intro a b h
  have hsame := congrArg ofKey? h
  rw [ofKey?_key, ofKey?_key] at hsame
  exact Option.some.inj hsame

end Setting

namespace Settings

open Setting

variable {setting : Setting} {key : String} {file overrides members : List (String × Json)}

theorem normalKey_key (setting : Setting) : normalKey setting.key = setting.key := by
  cases setting <;> rfl

theorem normalKey_camelKey (h : setting.camelKey? = some key) : normalKey key = setting.key := by
  cases setting with
  | namespaceName | custom => cases h
  | outputFile | passthrough | customPrefix | indentSize | useTabs | addComments | initializers
    | deprecations =>
    obtain rfl := Option.some.inj h
    rfl

theorem normalKey_cases (key : String) :
    (∃ setting : Setting, setting.camelKey? = some key ∧ normalKey key = setting.key) ∨
      normalKey key = key := by
  rw [normalKey]
  split
  · next setting h =>
    have hcamel : setting.camelKey? = some key := by simpa using List.find?_some h
    exact .inl ⟨setting, hcamel, rfl⟩
  · exact .inr rfl

theorem normalKey_eq_iff : normalKey key = setting.key ↔ setting.Spells key := by
  constructor
  · intro h
    rcases normalKey_cases key with ⟨other, hcamel, hkey⟩ | hkey
    · obtain rfl := key_injective (hkey.symm.trans h)
      exact .inr hcamel
    · exact .inl (hkey.symm.trans h)
  · rintro (rfl | h)
    · exact normalKey_key setting
    · exact normalKey_camelKey h

theorem isKnown_key (setting : Setting) : isKnown setting.key = true := by
  rw [isKnown, ofKey?_key]
  rfl

theorem isKnown_iff : isKnown key = true ↔ ∃ setting : Setting, key = setting.key := by
  rw [isKnown, Option.isSome_iff_exists]
  constructor
  · rintro ⟨setting, h⟩
    have hkey := List.find?_some (p := fun other : Setting => other.key == key) h
    exact ⟨setting, (beq_iff_eq (a := setting.key)).mp hkey |>.symm⟩
  · rintro ⟨setting, rfl⟩
    exact ⟨setting, ofKey?_key setting⟩

theorem isKnown_normalKey_iff : isKnown (normalKey key) = true ↔ ∃ setting : Setting, setting.Spells key := by
  rw [isKnown_iff]
  exact exists_congr fun _ => normalKey_eq_iff

def lastGiven? (key : String) (members : List (String × Json)) : Option Json :=
  (members.filter fun e => normalKey e.1 == key).getLast?.map Prod.snd

def preferred (file overrides : List (String × Json)) (setting : Setting) : Json :=
  ((lastGiven? setting.key overrides).or (lastGiven? setting.key file)).getD setting.default

def unknownMembers (members : List (String × Json)) : List (String × Json) :=
  members.filter fun e => !isKnown (normalKey e.1)

def respell (members : List (String × Json)) : List (String × Json) :=
  members.map fun e => (normalKey e.1, e.2)

theorem normalize_eq (members : List (String × Json)) :
    normalize members = Json.putAll [] (respell members) := rfl

theorem last?_respell (key : String) (members : List (String × Json)) :
    Json.last? key (respell members) = lastGiven? key members := by
  rw [Json.last?, respell, List.filter_map, List.getLast?_map, Option.map_map]
  rfl

theorem lastGiven?_append (key : String) (file overrides : List (String × Json)) :
    lastGiven? key (file ++ overrides) = (lastGiven? key overrides).or (lastGiven? key file) := by
  simp only [← last?_respell, respell, List.map_append, Json.last?_append]

theorem unknownMembers_append (file overrides : List (String × Json)) :
    unknownMembers (file ++ overrides) = unknownMembers file ++ unknownMembers overrides :=
  List.filter_append _ _

theorem filter_respell (members : List (String × Json)) :
    (respell members).filter (fun e => !isKnown e.1) = unknownMembers members := by
  rw [respell, List.filter_map]
  refine (List.map_congr_left ?_).trans (List.map_id _)
  rintro ⟨key, v⟩ he
  have hunknown : isKnown (normalKey key) ≠ true := by simpa using (List.mem_filter.mp he).2
  rcases normalKey_cases key with ⟨setting, -, hkey⟩ | hkey
  · exact absurd (hkey ▸ isKnown_key setting) hunknown
  · exact Prod.ext hkey rfl

theorem putAll_normalize (file overrides : List (String × Json)) :
    Json.putAll (normalize file) (normalize overrides) = normalize (file ++ overrides) := by
  simp only [normalize_eq]
  rw [Json.putAll_putAll_nil, ← Json.putAll_append, respell, respell, respell, List.map_append]

theorem lookup_normalize (key : String) (members : List (String × Json)) :
    Json.lookup key (normalize members) = lastGiven? key members := by
  rw [normalize_eq, Json.lookup_putAll, last?_respell]
  exact Option.or_none

theorem filter_normalize (members : List (String × Json)) :
    (normalize members).filter (fun e => !isKnown e.1) = Json.putAll [] (unknownMembers members) := by
  rw [normalize_eq, Json.filter_putAll (fun key => !isKnown key), filter_respell]
  rfl

def baseTable (v : Json) : Except NotPairs Json.Table := if v.truthy then v.table else .ok []

def assemble (given : Setting → Json) (unknown : List (String × Json)) : Except NotPairs Settings :=
  if unknown.isEmpty then .ok ⟨given⟩
  else (baseTable (given .custom)).map fun base =>
    (⟨given⟩ : Settings).set .custom
      (.obj (Json.Table.putAll base (.ofMembers unknown)).toMembers)

theorem ofMembers_eq_assemble (members : List (String × Json)) :
    ofMembers members =
      assemble (ofKnown members).value (members.filter fun e => !isKnown e.1) := by
  generalize hunknown : members.filter (fun e => !isKnown e.1) = unknown
  generalize hknown : ofKnown members = known
  have hmembers : ofMembers members =
      if unknown.isEmpty = true then .ok known
      else if (known.value .custom).truthy = true then
        (known.value .custom).table >>= fun base =>
          .ok (known.set .custom (.obj (Json.Table.putAll base (.ofMembers unknown)).toMembers))
      else .ok (known.set .custom (.obj (Json.Table.putAll [] (.ofMembers unknown)).toMembers)) := by
    subst hunknown hknown
    rfl
  rw [hmembers, assemble, baseTable]
  split
  · rfl
  · split
    · cases (known.value .custom).table <;> rfl
    · rfl

theorem merge_eq_assemble (file overrides : List (String × Json)) :
    merge file overrides = assemble (preferred file overrides)
      (Json.putAll [] (unknownMembers file ++ unknownMembers overrides)) := by
  have hgiven : (ofKnown (normalize (file ++ overrides))).value = preferred file overrides := by
    funext setting
    change (Json.lookup setting.key (normalize (file ++ overrides))).getD setting.default = _
    rw [lookup_normalize, lastGiven?_append]
    rfl
  rw [merge, putAll_normalize, ofMembers_eq_assemble, hgiven, filter_normalize,
    unknownMembers_append]

theorem putAll_ne_nil {unknown : List (String × Json)} (h : unknown ≠ []) :
    Json.putAll [] unknown ≠ [] := by
  obtain ⟨others, e, rfl⟩ := (List.eq_nil_or_concat' unknown).resolve_left h
  rw [Json.putAll_concat]
  intro hnil
  have hmem : e.1 ∈ Json.keys (Json.put e.1 e.2 (Json.putAll [] others)) :=
    Json.mem_keys_put.mpr (.inl rfl)
  rw [hnil] at hmem
  exact List.not_mem_nil hmem

theorem assemble_of_unknown {given : Setting → Json} {unknown ms : List (String × Json)}
    (hunknown : unknown ≠ [])
    (hms : given .custom = .obj ms ∨ (given .custom).truthy = false ∧ ms = []) :
    assemble given (Json.putAll [] unknown) =
      .ok ((⟨given⟩ : Settings).set .custom (.obj (Json.putAll ms unknown))) := by
  have hempty : (Json.putAll [] unknown).isEmpty ≠ true :=
    mt List.isEmpty_iff.mp (putAll_ne_nil hunknown)
  have hbase : baseTable (given .custom) = .ok (Json.Table.ofMembers ms) := by
    rw [baseTable]
    rcases hms with h | ⟨hfalse, rfl⟩
    · rw [h]
      cases ms <;> rfl
    · rw [hfalse]
      rfl
  rw [assemble, if_neg hempty, hbase, Except.map, Json.Table.putAll_ofMembers,
    Json.Table.toMembers_ofMembers, Json.putAll_putAll_nil]

/-- There is a JSON file at a path, and its text is that of an object with these members, in which not
too many lists and objects lie in each other. -/
structure Holds (d : Disk) (p : Path) (levels : Option ℕ) (members : List (String × Json)) : Prop where
  suffix : p.lowerSuffix = ".json"
  text : ∃ text, readText d p = .ok text ∧ Json.read text levels = .ok (.obj members)

theorem pathExists?_of_readText {d : Disk} {p : Path} {text : String} (h : readText d p = .ok text) :
    d.pathExists? p = .ok true := by
  rw [readText] at h
  cases hcontent : d.content p with
  | ok c => exact Disk.pathExists?_of_content hcontent
  | error e =>
    rw [hcontent] at h
    cases h

theorem Holds.membersOf {d : Disk} {p : Path} {levels : Option ℕ} (h : Holds d p levels members) :
    membersOf d p levels = .ok members := by
  obtain ⟨text, htext, hread⟩ := h.text
  have hsuffix : (p.lowerSuffix != ".json") = false := bne_eq_false_iff_eq.mpr h.suffix
  rw [Settings.membersOf, pathExists?_of_readText htext]
  dsimp only
  rw [hsuffix, htext]
  dsimp only [Bool.not_true, Bool.false_eq_true, bind, Except.bind]
  rw [hread]
  rfl

theorem Holds.load {d : Disk} {p : Path} {levels : Option ℕ} (h : Holds d p levels file)
    (overrides : List (String × Json)) : (load d (some p) overrides levels).2 = merged file overrides := by
  rw [Settings.load, h.membersOf]

/-- `l'` has one key of `l` in one of the spellings of the same setting, perhaps elsewhere, and no
other key spells that setting. -/
def Respelled (l l' : List (String × Json)) : Prop :=
  ∃ (setting : Setting) (old new : String) (v : Json) (a b a' b' : List (String × Json)),
    setting.Spells old ∧ setting.Spells new ∧ (∀ e ∈ a ++ b, ¬ setting.Spells e.1) ∧
    a ++ b = a' ++ b' ∧ l = a ++ (old, v) :: b ∧ l' = a' ++ (new, v) :: b'

theorem filter_spelled (q : String → Bool) (h : setting.Spells key) (v : Json)
    (a b : List (String × Json)) :
    (a ++ (key, v) :: b).filter (fun e => q (normalKey e.1)) =
      if q setting.key then
        a.filter (fun e => q (normalKey e.1)) ++ (key, v) :: b.filter (fun e => q (normalKey e.1))
      else (a ++ b).filter fun e => q (normalKey e.1) := by
  have hkey := normalKey_eq_iff.mpr h
  cases hq : q setting.key <;> simp [hkey, hq]

theorem Respelled.lastGiven? {l l' : List (String × Json)} (h : Respelled l l') (key : String) :
    lastGiven? key l = lastGiven? key l' := by
  obtain ⟨setting, old, new, v, a, b, a', b', hold, hnew, hothers, hsame, rfl, rfl⟩ := h
  have hnone (c : List (String × Json)) (hc : ∀ e ∈ c, ¬ setting.Spells e.1) :
      c.filter (fun e => normalKey e.1 == setting.key) = [] :=
    List.filter_eq_nil_iff.mpr fun e he heq => hc e he (normalKey_eq_iff.mp (beq_iff_eq.mp heq))
  rw [Settings.lastGiven?, Settings.lastGiven?, filter_spelled (· == key) hold,
    filter_spelled (· == key) hnew, hsame]
  by_cases hkey : setting.key = key
  · subst hkey
    obtain ⟨ha, hb⟩ := List.forall_mem_append.mp hothers
    obtain ⟨ha', hb'⟩ := List.forall_mem_append.mp (hsame ▸ hothers)
    simp [hnone a ha, hnone b hb, hnone a' ha', hnone b' hb']
  · rw [if_neg (by simpa using hkey), if_neg (by simpa using hkey)]

theorem Respelled.unknownMembers {l l' : List (String × Json)} (h : Respelled l l') :
    unknownMembers l = unknownMembers l' := by
  obtain ⟨setting, old, new, v, a, b, a', b', hold, hnew, -, hsame, rfl, rfl⟩ := h
  have hknown : (!isKnown setting.key) ≠ true := by simp [isKnown_key]
  rw [Settings.unknownMembers, Settings.unknownMembers, filter_spelled (fun key => !isKnown key) hold,
    filter_spelled (fun key => !isKnown key) hnew, if_neg hknown, if_neg hknown, hsame]

theorem merge_congr {file file' overrides overrides' : List (String × Json)}
    (hfile : file = file' ∨ Respelled file file')
    (hoverrides : overrides = overrides' ∨ Respelled overrides overrides') :
    merge file overrides = merge file' overrides' := by
  have hpart {l l' : List (String × Json)} (h : l = l' ∨ Respelled l l') :
      (∀ key, lastGiven? key l = lastGiven? key l') ∧ unknownMembers l = unknownMembers l' := by
    rcases h with rfl | h
    · exact ⟨fun _ => rfl, rfl⟩
    · exact ⟨h.lastGiven?, h.unknownMembers⟩
  obtain ⟨hgiven, hunknown⟩ := hpart hfile
  obtain ⟨hgiven', hunknown'⟩ := hpart hoverrides
  have hpreferred : preferred file overrides = preferred file' overrides' := by
    funext setting
    rw [preferred, preferred, hgiven, hgiven']
  rw [merge_eq_assemble, merge_eq_assemble, hpreferred, hunknown, hunknown']

/-- A setting has the value of the last override that spells it, else of the last such member of the
file, else its default. Members that spell no setting are laid over those that are given as such, the
overrides last. Nothing else matters: neither where the members stand nor how they are spelled. -/
theorem load_precedence (d : Disk) (p : Path) (levels : Option ℕ)
    (file overrides : List (String × Json)) (hfile : Holds d p levels file) :
    (unknownMembers file = [] ∧ unknownMembers overrides = [] →
      (load d (some p) overrides levels).2 = .ok ⟨preferred file overrides⟩) ∧
    (∀ ms, ¬ (unknownMembers file = [] ∧ unknownMembers overrides = []) →
      (preferred file overrides .custom = .obj ms ∨
        (preferred file overrides .custom).truthy = false ∧ ms = []) →
      (load d (some p) overrides levels).2 = .ok ((⟨preferred file overrides⟩ : Settings).set .custom
        (.obj (Json.putAll (Json.putAll ms (unknownMembers file)) (unknownMembers overrides))))) ∧
    (load d none file levels).2 = (load d (some p) [] levels).2 ∧
    (∀ overrides', Respelled overrides overrides' →
      (load d (some p) overrides' levels).2 = (load d (some p) overrides levels).2) ∧
    (∀ d' p' levels' file', Holds d' p' levels' file' → Respelled file file' →
      (load d' (some p') overrides levels').2 = (load d (some p) overrides levels).2) := by
  have hload (overrides : List (String × Json)) := hfile.load overrides
  refine ⟨?_, ?_, ?_, ?_, ?_⟩
  · rintro ⟨hnone, hnone'⟩
    rw [hload, merged, merge_eq_assemble, hnone, hnone']
    rfl
  · intro ms hsome hms
    have hunknown : unknownMembers file ++ unknownMembers overrides ≠ [] :=
      mt List.append_eq_nil_iff.mp hsome
    rw [hload, merged, merge_eq_assemble, assemble_of_unknown hunknown hms, Json.putAll_append]
  · have hcontent : merge [] file = merge file [] := by
      rw [merge, merge, putAll_normalize, putAll_normalize, List.nil_append, List.append_nil]
    rw [hload, merged, ← hcontent]
    rfl
  · intro overrides' hrespelled
    rw [hload, hload, merged, merged, merge_congr (.inl rfl) (.inr hrespelled)]
  · intro d' p' levels' file' hfile' hrespelled
    rw [hload, hfile'.load, merged, merged, merge_congr (.inr hrespelled) (.inl rfl)]

def shadedText : String := "\x7b\"useTabs\": true, \"indentSize\": 4, \"shade\": \"dark\"\x7d"

def shadedDisk : Disk := ⟨[(["a.json"], .text shadedText)], []⟩

def shadedMembers : List (String × Json) :=
  [("useTabs", .bool true), ("indentSize", .int 4), ("shade", .str "dark")]

theorem shadedDisk_holds : Holds shadedDisk (Path.ofString "a.json") none shadedMembers where
  suffix := by decide
  text := ⟨shadedText, by cbv, by cbv⟩

theorem shaded_load_precedence :
    Holds shadedDisk (Path.ofString "a.json") none shadedMembers ∧
    ∃ s, (load shadedDisk (some (Path.ofString "a.json"))
        [("mood", .null), ("indent_size", .int 8)]).2 = .ok s ∧
      s.value .useTabs = .bool true ∧ s.value .indentSize = .int 8 ∧
      s.value .addComments = .bool true ∧
      s.value .custom = .obj [("shade", .str "dark"), ("mood", .null)] := by
  have hload := (load_precedence shadedDisk (Path.ofString "a.json") none shadedMembers
    [("mood", .null), ("indent_size", .int 8)] shadedDisk_holds).2.1 [] (fun h => by cases h.1)
    (.inl rfl)
  exact ⟨shadedDisk_holds, _, hload, rfl, rfl, rfl, rfl⟩

end Settings

end RealmModels
