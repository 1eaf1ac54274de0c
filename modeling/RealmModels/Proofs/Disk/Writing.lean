import Mathlib
import RealmModels.Disk.Basic

namespace RealmModels.Disk

variable {d d' : Disk} {p : Path} {place q r : List String} {text : String}

def Writable (d : Disk) (p : Path) : Prop :=
  ∃ place, d.locate p = .ok place ∧ d.isFolder place = false

theorem isFolder_iff : d.isFolder q = true ↔
    q.all (· == "..") = true ∨ q = [rootName] ∨ ∃ r ∈ d.folders ++ d.files.map (fun f => f.1.dropLast), q <+: r := by
  rw [isFolder, Bool.or_eq_true, Bool.or_eq_true, beq_iff_eq, List.any_eq_true, or_assoc]
  simp only [List.isPrefixOf_iff_prefix]

theorem isFolder_of_prefix (hqr : q <+: r) (h : d.isFolder r = true) : d.isFolder q = true := by
  rw [isFolder_iff] at h ⊢
  rcases h with h | rfl | ⟨s, hs, hrs⟩
  · exact .inl (List.all_eq_true.mpr fun name hname => List.all_eq_true.mp h name (hqr.subset hname))
  · rcases List.prefix_cons_iff.mp hqr with rfl | ⟨t, rfl, ht⟩
    · exact .inl rfl
    · rw [List.prefix_nil.mp ht]
      exact .inr (.inl rfl)
  · exact .inr (.inr ⟨s, hs, hqr.trans hrs⟩)

theorem isFolder_above (h : d.isFolder q = true) : d.isFolder (above q) = true := by
  rw [above]
  split
  · next hall =>
    refine isFolder_iff.mpr (.inl ?_)
    rw [List.all_append, hall]
    rfl
  · split
    · exact h
    · exact isFolder_of_prefix (List.dropLast_prefix q) h

theorem inFolder_of_walk {names : List String} (hq : d.isFolder q = true ∨ d.isFolder q.dropLast = true)
    (h : d.walk q names = .ok r) : d.isFolder r = true ∨ d.isFolder r.dropLast = true := by
  induction names generalizing q with
  | nil =>
    obtain rfl := Except.ok.inj h
    exact hq
  | cons name names ih =>
    rw [walk] at h
    split at h
    · next hfolder =>
      split at h
      · cases h
      · refine ih ?_ h
        -- `..` leads to a folder, any other name into the one that it is read in
        split
        · exact .inl (isFolder_above hfolder)
        · rw [List.dropLast_concat]
          exact .inr hfolder
    · split at h <;> cases h

theorem isFolder_start (d : Disk) (p : Path) : d.isFolder (start p) = true := by
  rw [start, isFolder_iff]
  split
  · exact .inr (.inl rfl)
  · exact .inl rfl

theorem locate_eq_ok_iff : d.locate p = .ok place ↔
    p.toString.contains '\x00' = false ∧ ¬ longestPath < p.toString.utf8ByteSize ∧
      d.walk (start p) p.names = .ok place := by
  rw [locate]
  split
  · next h => simp [h]
  · next h =>
    split
    · next h' => simp [h']
    · next h' => simp [h, h']

def putFile (d : Disk) (place : List String) (text : String) : Disk :=
  { d with files := d.files.filter (·.1 != place) ++ [(place, .text text)] }

theorem isFolder_putFile (h : d.isFolder place.dropLast = true) (text : String) (q : List String) :
    (d.putFile place text).isFolder q = d.isFolder q := by
  rw [Bool.eq_iff_iff]
  constructor
  · intro hq
    rw [isFolder_iff] at hq
    rcases hq with hall | hroot | ⟨r, hr, hqr⟩
    · exact isFolder_iff.mpr (.inl hall)
    · exact isFolder_iff.mpr (.inr (.inl hroot))
    · simp only [putFile, List.map_append, List.mem_append, List.mem_map, List.mem_filter,
        List.map_cons, List.map_nil, List.mem_singleton] at hr
      rcases hr with hr | ⟨f, ⟨hf, -⟩, rfl⟩ | rfl
      · exact isFolder_iff.mpr (.inr (.inr ⟨r, List.mem_append_left _ hr, hqr⟩))
      · exact isFolder_iff.mpr (.inr (.inr
          ⟨_, List.mem_append_right _ (List.mem_map_of_mem hf), hqr⟩))
      · exact isFolder_of_prefix hqr h
  · intro hq
    rw [isFolder_iff] at hq ⊢
    refine hq.imp_right (Or.imp_right ?_)
    rintro ⟨r, hr, hqr⟩
    refine ⟨r, ?_, hqr⟩
    simp only [putFile, List.map_append, List.mem_append, List.mem_map, List.mem_filter,
      List.map_cons, List.map_nil, List.mem_singleton]
    rcases List.mem_append.mp hr with hr | hr
    · exact .inl hr
    · obtain ⟨f, hf, rfl⟩ := List.mem_map.mp hr
      by_cases hplace : f.1 = place
      · exact .inr (.inr (congrArg List.dropLast hplace))
      · exact .inr (.inl ⟨f, ⟨hf, bne_iff_ne.mpr hplace⟩, rfl⟩)

theorem walk_congr (h : ∀ q, d'.isFolder q = d.isFolder q) {names : List String}
    (hwalk : d.walk q names = .ok r) : d'.walk q names = .ok r := by
  induction names generalizing q with
  | nil => exact hwalk
  | cons name names ih =>
    rw [walk] at hwalk ⊢
    rw [h]
    split at hwalk
    · next hfolder =>
      rw [if_pos hfolder]
      split at hwalk
      · cases hwalk
      · next hname =>
        rw [if_neg hname]
        exact ih hwalk
    · split at hwalk <;> cases hwalk

theorem file?_putFile (d : Disk) (place : List String) (text : String) :
    (d.putFile place text).file? place = some (.text text) := by
  have hothers : (d.files.filter (·.1 != place)).find? (·.1 == place) = none := by
    rw [List.find?_eq_none]
    intro f hf
    simpa using (List.mem_filter.mp hf).2
  rw [file?, putFile, List.find?_append, hothers]
  simp

theorem write_of_locate (hplace : d.locate p = .ok place) (hfile : d.isFolder place = false)
    (text : String) : d.write p text = .ok (d.putFile place text) := by
  rw [write, hplace]
  change (if d.isFolder place then _ else _) = _
  rw [hfile]
  rfl

theorem content_of_locate (hplace : d.locate p = .ok place) (hfile : d.isFolder place = false)
    {c : Content} (hc : d.file? place = some c) : d.content p = .ok c := by
  rw [content, hplace]
  change (if d.isFolder place then _ else _) = _
  rw [hfile, hc]
  rfl

theorem isFolder_dropLast_of_locate (hplace : d.locate p = .ok place) (hfile : d.isFolder place = false) :
    d.isFolder place.dropLast = true := by
  obtain ⟨-, -, hwalk⟩ := locate_eq_ok_iff.mp hplace
  rcases inFolder_of_walk (.inl (isFolder_start d p)) hwalk with hfolder | hparent
  · exact absurd hfolder (by rw [hfile]; exact Bool.false_ne_true)
  · exact hparent

theorem content_of_write (h : d.Writable p) (text : String) :
    ∃ d', d.write p text = .ok d' ∧ d'.content p = .ok (.text text) := by
  obtain ⟨place, hplace, hfile⟩ := h
  obtain ⟨hnul, hlong, hwalk⟩ := locate_eq_ok_iff.mp hplace
  have hsame := isFolder_putFile (isFolder_dropLast_of_locate hplace hfile) text
  refine ⟨d.putFile place text, write_of_locate hplace hfile text, ?_⟩
  have hplace' : (d.putFile place text).locate p = .ok place :=
    locate_eq_ok_iff.mpr ⟨hnul, hlong, walk_congr hsame hwalk⟩
  exact content_of_locate hplace' ((hsame place).trans hfile) (file?_putFile d place text)

theorem pathExists?_of_content {c : Content} (h : d.content p = .ok c) :
    d.pathExists? p = .ok true := by
  rw [content] at h
  rw [pathExists?]
  cases hplace : d.locate p with
  | error e =>
    rw [hplace] at h
    cases h
  | ok place =>
    rw [hplace] at h
    change (if d.isFolder place then _ else _) = _ at h
    dsimp only
    split at h
    · cases h
    · cases hfile : d.file? place with
      | none =>
        rw [hfile] at h
        cases h
      | some c => rw [Option.isSome_some, Bool.or_true]

structure Saves (d d' : Disk) (p : Path) (text : String) : Prop where
  content : d'.content p = .ok (.text text)
  others : ∃ place, d.locate p = .ok place ∧ ∀ other, other ≠ place → d'.file? other = d.file? other
  folders : ∀ place, d'.isFolder place = d.isFolder place

theorem write_eq_ok_iff {d' : Disk} : d.write p text = .ok d' ↔
    ∃ place, d.locate p = .ok place ∧ d.isFolder place = false ∧ d' = d.putFile place text := by
  constructor
  · intro h
    cases hplace : d.locate p with
    | error e =>
      rw [write, hplace] at h
      cases h
    | ok place =>
      cases hfolder : d.isFolder place with
      | true =>
        rw [write, hplace] at h
        change (if d.isFolder place then _ else _) = _ at h
        rw [hfolder] at h
        cases h
      | false =>
        rw [write_of_locate hplace hfolder] at h
        exact ⟨place, rfl, hfolder, (Except.ok.inj h).symm⟩
  · rintro ⟨place, hplace, hfolder, rfl⟩
    exact write_of_locate hplace hfolder text

theorem file?_putFile_of_ne {place other : List String} (h : other ≠ place) :
    (d.putFile place text).file? other = d.file? other := by
  have hkept : (d.files.filter (·.1 != place)).find? (·.1 == other) = d.files.find? (·.1 == other) := by
    rw [List.find?_filter]
    congr 1
    funext f
    by_cases hf : f.1 = other
    · simp [hf, h]
    · simp [hf]
  rw [file?, file?, putFile, List.find?_append, hkept]
  simp [Ne.symm h]

theorem saves_of_write {d' : Disk} (h : d.write p text = .ok d') : d.Saves d' p text := by
  obtain ⟨place, hplace, hfolder, rfl⟩ := write_eq_ok_iff.mp h
  obtain ⟨d', hd', hcontent⟩ := content_of_write ⟨place, hplace, hfolder⟩ text
  obtain rfl := Except.ok.inj (hd'.symm.trans h)
  refine ⟨hcontent, ⟨place, hplace, fun other hother => file?_putFile_of_ne hother⟩, fun q => ?_⟩
  exact isFolder_putFile (isFolder_dropLast_of_locate hplace hfolder) text q

end RealmModels.Disk
