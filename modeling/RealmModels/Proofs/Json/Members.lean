import Mathlib
import RealmModels.Json.Table

namespace RealmModels.Json

section

variable {α : Type}

def keys (l : List (String × α)) : List String := l.map Prod.fst

def last? (key : String) (l : List (String × α)) : Option α :=
  (l.filter fun e => e.1 == key).getLast?.map Prod.snd

variable {key k k' : String} {v w : α} {l base : List (String × α)}

theorem lookup_put (key k : String) (v : α) (l : List (String × α)) :
    lookup key (put k v l) = if k = key then some v else lookup key l := by
  induction l with
  | nil => rfl
  | cons e l ih =>
    obtain ⟨k', w⟩ := e
    rw [put]
    split
    · next h =>
      subst h
      rw [lookup, lookup]
      split <;> rfl
    · next h =>
      rw [lookup, lookup, ih]
      split_ifs with h₁ h₂
      · exact absurd (h₁.trans h₂.symm) h
      all_goals rfl

theorem lookup_eq_none_iff : lookup key l = none ↔ key ∉ keys l := by
  induction l with
  | nil => simp [lookup, keys]
  | cons e l ih =>
    obtain ⟨k, w⟩ := e
    rw [lookup, keys, List.map_cons, List.mem_cons, not_or, ← keys, ← ih]
    split
    · next h => simp [h]
    · next h => simp [Ne.symm h]

theorem mem_of_lookup (h : lookup key l = some v) : (key, v) ∈ l := by
  induction l with
  | nil => cases h
  | cons e l ih =>
    obtain ⟨k, w⟩ := e
    rw [lookup] at h
    split at h
    · next hk =>
      obtain rfl := Option.some.inj h
      exact hk ▸ List.mem_cons_self
    · exact List.mem_cons_of_mem _ (ih h)

theorem lookup_of_mem (h : (keys l).Nodup) {e : String × α} (he : e ∈ l) : lookup e.1 l = some e.2 := by
  induction l with
  | nil => exact absurd he List.not_mem_nil
  | cons e' l ih =>
    obtain ⟨hnew, hl⟩ := List.nodup_cons.mp h
    rw [lookup]
    rcases List.mem_cons.mp he with rfl | he
    · rw [if_pos rfl]
    · have hne : e'.1 ≠ e.1 := fun heq => hnew (heq ▸ List.mem_map_of_mem he)
      rw [if_neg hne, ih hl he]

theorem put_of_not_mem (h : k ∉ keys l) : put k v l = l ++ [(k, v)] := by
  induction l with
  | nil => rfl
  | cons e l ih =>
    obtain ⟨k', w⟩ := e
    rw [keys, List.map_cons, List.mem_cons, not_or] at h
    rw [put, if_neg (Ne.symm h.1), ih h.2, List.cons_append]

theorem mem_keys_put : k' ∈ keys (put k v l) ↔ k' = k ∨ k' ∈ keys l := by
  have h := lookup_put k' k v l
  rw [← not_iff_not, not_or, ← lookup_eq_none_iff, ← lookup_eq_none_iff, h]
  split
  · next hk => simp [hk]
  · next hk => simp [Ne.symm hk]

theorem nodup_put (h : (keys l).Nodup) : (keys (put k v l)).Nodup := by
  induction l with
  | nil => exact List.nodup_singleton k
  | cons e l ih =>
    obtain ⟨k', w⟩ := e
    obtain ⟨hk, hl⟩ := List.nodup_cons.mp h
    rw [put]
    split
    · exact h
    · next hne =>
      exact List.nodup_cons.mpr ⟨mt mem_keys_put.mp (not_or.mpr ⟨hne, hk⟩), ih hl⟩

theorem put_put_self : put k v (put k w l) = put k v l := by
  induction l with
  | nil => simp [put]
  | cons e l ih =>
    obtain ⟨k', u⟩ := e
    rw [put, put]
    split
    · next h => rw [put, if_pos h]
    · next h => rw [put, if_neg h, ih]

theorem put_comm (hk : k ∈ keys l) (hne : k' ≠ k) :
    put k v (put k' w l) = put k' w (put k v l) := by
  induction l with
  | nil => exact absurd hk List.not_mem_nil
  | cons e l ih =>
    obtain ⟨k₀, u⟩ := e
    by_cases h : k₀ = k
    · subst h
      simp [put, hne.symm]
    · have hl : k ∈ keys l := (List.mem_cons.mp hk).resolve_left (Ne.symm h)
      by_cases h' : k₀ = k'
      · subst h'
        simp [put, h]
      · simp [put, h, h', ih hl]

theorem putAll_append (base l l' : List (String × α)) :
    putAll base (l ++ l') = putAll (putAll base l) l' := List.foldl_append

theorem putAll_concat (base l : List (String × α)) (k : String) (v : α) :
    putAll base (l ++ [(k, v)]) = put k v (putAll base l) := putAll_append base l [(k, v)]

theorem nodup_putAll (h : (keys base).Nodup) (l : List (String × α)) :
    (keys (putAll base l)).Nodup := by
  induction l generalizing base with
  | nil => exact h
  | cons e l ih => exact ih (nodup_put h)

theorem putAll_of_nodup (h : (keys (base ++ l)).Nodup) : putAll base l = base ++ l := by
  induction l generalizing base with
  | nil => exact (List.append_nil base).symm
  | cons e l ih =>
    obtain ⟨k, v⟩ := e
    have hk : k ∉ keys base := by
      rw [keys, List.map_append, List.nodup_append] at h
      exact fun hmem => h.2.2 _ hmem _ List.mem_cons_self rfl
    have hassoc : base ++ (k, v) :: l = (base ++ [(k, v)]) ++ l := by simp
    rw [hassoc] at h ⊢
    rw [← ih h, ← put_of_not_mem hk]
    rfl

theorem putAll_put_of_mem (hk : k ∈ keys base) (hl : k ∉ keys l) :
    putAll (put k v base) l = put k v (putAll base l) := by
  induction l generalizing base with
  | nil => rfl
  | cons e l ih =>
    obtain ⟨k', w⟩ := e
    rw [keys, List.map_cons, List.mem_cons, not_or] at hl
    have hput : put k' w (put k v base) = put k v (put k' w base) :=
      (put_comm hk (Ne.symm hl.1)).symm
    change putAll (put k' w (put k v base)) l = put k v (putAll (put k' w base) l)
    rw [hput, ih (mem_keys_put.mpr (.inr hk)) hl.2]

theorem putAll_put (hl : (keys l).Nodup) : putAll base (put k v l) = put k v (putAll base l) := by
  induction l generalizing base with
  | nil => rfl
  | cons e l ih =>
    obtain ⟨k', w⟩ := e
    obtain ⟨hnew, hl⟩ := List.nodup_cons.mp hl
    rw [put]
    split
    · next h =>
      -- the key does not come again in `l`, so that its value may be stored last
      subst h
      change putAll (put k' v base) l = put k' v (putAll (put k' w base) l)
      rw [← putAll_put_of_mem (mem_keys_put.mpr (.inl rfl)) hnew, put_put_self]
    · exact ih hl

theorem putAll_putAll (hl : (keys l).Nodup) (more : List (String × α)) :
    putAll base (putAll l more) = putAll (putAll base l) more := by
  induction more using List.reverseRecOn with
  | nil => rfl
  | append_singleton more e ih =>
    rw [putAll_concat, putAll_concat, putAll_put (nodup_putAll hl more), ih]

theorem putAll_putAll_nil (base more : List (String × α)) :
    putAll base (putAll [] more) = putAll base more := putAll_putAll (l := []) List.nodup_nil more

theorem filter_put (p : String → Bool) (k : String) (v : α) (l : List (String × α)) :
    (put k v l).filter (fun e => p e.1) =
      if p k then put k v (l.filter fun e => p e.1) else l.filter fun e => p e.1 := by
  induction l with
  | nil => cases h : p k <;> simp [put, h]
  | cons e l ih =>
    obtain ⟨k', w⟩ := e
    rw [put]
    split
    · next h =>
      subst h
      cases hp : p k' <;> simp [hp, put]
    · next h => cases hp : p k' <;> cases hk : p k <;> simp [hp, hk, ih, put, h]

theorem filter_putAll (p : String → Bool) (base l : List (String × α)) :
    (putAll base l).filter (fun e => p e.1) =
      putAll (base.filter fun e => p e.1) (l.filter fun e => p e.1) := by
  induction l using List.reverseRecOn with
  | nil => rfl
  | append_singleton l e ih =>
    obtain ⟨k, v⟩ := e
    rw [putAll_concat, filter_put, ih, List.filter_append]
    cases hp : p k
    · simp [hp]
    · simp [hp, putAll_concat]

theorem last?_append (key : String) (l l' : List (String × α)) :
    last? key (l ++ l') = (last? key l').or (last? key l) := by
  rw [last?, List.filter_append, List.getLast?_append, last?, last?]
  cases (l'.filter fun e => e.1 == key).getLast? <;> rfl

theorem last?_eq_none_iff : last? key l = none ↔ key ∉ keys l := by
  rw [last?, Option.map_eq_none_iff, List.getLast?_eq_none_iff, List.filter_eq_nil_iff, keys,
    List.mem_map]
  refine ⟨fun h ⟨e, he, hkey⟩ => h e he (beq_iff_eq.mpr hkey), fun h e he hkey => ?_⟩
  exact h ⟨e, he, beq_iff_eq.mp hkey⟩

theorem lookup_putAll (key : String) (base l : List (String × α)) :
    lookup key (putAll base l) = (last? key l).or (lookup key base) := by
  induction l using List.reverseRecOn with
  | nil => rfl
  | append_singleton l e ih =>
    obtain ⟨k, v⟩ := e
    rw [putAll_concat, lookup_put, ih, last?_append, Option.or_assoc]
    by_cases h : k = key
    · simp [last?, h]
    · simp [last?, h]

theorem last?_of_nodup (h : (keys l).Nodup) (key : String) : last? key l = lookup key l := by
  have hall := lookup_putAll key [] l
  rw [putAll_of_nodup (show (keys ([] ++ l)).Nodup from h)] at hall
  simpa [lookup] using hall.symm

end

namespace Table

theorem sameKey_text (a b : String) : sameKey (.str a) (.str b) = (a == b) := rfl

theorem put_ofMembers (key : String) (v : Json) (ms : List (String × Json)) :
    put (.str key) v (ofMembers ms) = ofMembers (Json.put key v ms) := by
  induction ms with
  | nil => rfl
  | cons e ms ih =>
    obtain ⟨k, w⟩ := e
    rw [ofMembers, List.map_cons, ← ofMembers, put, sameKey_text, Json.put, ih]
    by_cases h : k = key <;> simp [h, ofMembers]

theorem putAll_ofMembers (ms ns : List (String × Json)) :
    putAll (ofMembers ms) (ofMembers ns) = ofMembers (Json.putAll ms ns) := by
  induction ns generalizing ms with
  | nil => rfl
  | cons e ns ih =>
    obtain ⟨k, v⟩ := e
    exact (congrArg (fun t => putAll t (ofMembers ns)) (put_ofMembers k v ms)).trans
      (ih (Json.put k v ms))

theorem mem_put {t : Table} {key k v w : Json} (h : (k, w) ∈ put key v t) :
    (k, w) ∈ t ∨ w = v ∧ (k = key ∨ sameKey k key = true) := by
  induction t with
  | nil =>
    obtain ⟨rfl, rfl⟩ := Prod.mk.inj (List.mem_singleton.mp h)
    exact .inr ⟨rfl, .inl rfl⟩
  | cons e t ih =>
    obtain ⟨k', u⟩ := e
    rw [put] at h
    split at h
    · next hsame =>
      rcases List.mem_cons.mp h with heq | h
      · obtain ⟨rfl, rfl⟩ := Prod.mk.inj heq
        exact .inr ⟨rfl, .inr hsame⟩
      · exact .inl (List.mem_cons_of_mem _ h)
    · rcases List.mem_cons.mp h with heq | h
      · exact .inl (heq ▸ List.mem_cons_self)
      · exact (ih h).imp_left (List.mem_cons_of_mem _)

theorem mem_putAll {base entries : Table} {k w : Json} (h : (k, w) ∈ putAll base entries) :
    (k, w) ∈ base ∨ ∃ key, (key, w) ∈ entries ∧ (k = key ∨ sameKey k key = true) := by
  induction entries using List.reverseRecOn with
  | nil => exact .inl h
  | append_singleton entries e ih =>
    obtain ⟨key, v⟩ := e
    rw [putAll, List.foldl_append, ← putAll] at h
    rcases mem_put h with h | ⟨rfl, hkey⟩
    · refine (ih h).imp_right ?_
      rintro ⟨key, hmem, hkey⟩
      exact ⟨key, List.mem_append_left _ hmem, hkey⟩
    · exact .inr ⟨key, List.mem_append_right _ List.mem_cons_self, hkey⟩

theorem eq_of_sameKey_text {k : Json} {key : String} (h : sameKey k (.str key) = true) :
    k = .str key := by
  cases k with
  | str s => rw [beq_iff_eq.mp h]
  | null | bool b | int n | real x | arr items | obj members => cases h

theorem toMembers_ofMembers (ms : List (String × Json)) : (ofMembers ms).toMembers = ms := by
  rw [toMembers, ofMembers, List.map_map]
  exact List.map_id ms

end Table

end RealmModels.Json
