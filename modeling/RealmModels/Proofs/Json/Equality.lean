import Mathlib
import RealmModels.Proofs.Json.Members

/-!
When two values are equal: numbers by what they count, lists item by item and objects whatever the
order of their members. A value is never equal to one of its parts, since it is nested deeper.
-/

namespace RealmModels.Json

mutual

def same : Json → Json → Bool
  | .arr items, .arr items' => sameItems items items'
  | .obj members, .obj members' =>
    members.length == members'.length && sameMembers members members'
  | v, w => v.isPlain && w.isPlain && sameKey v w

def sameItems : List Json → List Json → Bool
  | [], [] => true
  | v :: vs, w :: ws => same v w && sameItems vs ws
  | _, _ => false

def sameMembers : List (String × Json) → List (String × Json) → Bool
  | [], _ => true
  | (key, v) :: rest, members' =>
    (match lookup key members' with
      | some w => same v w
      | none => false) &&
    sameMembers rest members'

end

mutual

/-- Whether objects have each key once and all numbers are equal to themselves. -/
def isProper : Json → Bool
  | .real x => x == x
  | .arr items => properItems items
  | .obj members => properMembers members
  | _ => true

def properItems : List Json → Bool
  | [] => true
  | v :: vs => isProper v && properItems vs

def properMembers : List (String × Json) → Bool
  | [] => true
  | (key, v) :: rest => (lookup key rest).isNone && isProper v && properMembers rest

end

mutual

def depth : Json → ℕ
  | .arr items => depthOfItems items + 1
  | .obj members => depthOfMembers members + 1
  | _ => 0

def depthOfItems : List Json → ℕ
  | [] => 0
  | v :: vs => max (depth v) (depthOfItems vs)

def depthOfMembers : List (String × Json) → ℕ
  | [] => 0
  | (_, v) :: rest => max (depth v) (depthOfMembers rest)

end

@[elab_as_elim]
theorem nested_induction {P : Json → Prop} (plain : ∀ v : Json, v.isPlain = true → P v)
    (arr : ∀ items : List Json, (∀ v ∈ items, P v) → P (.arr items))
    (obj : ∀ members : List (String × Json), (∀ e ∈ members, P e.2) → P (.obj members))
    (v : Json) : P v := by
  refine @Json.rec P (fun items => ∀ v ∈ items, P v) (fun members => ∀ e ∈ members, P e.2)
    (fun e => P e.2) (plain _ rfl) (fun _ => plain _ rfl) (fun _ => plain _ rfl)
    (fun _ => plain _ rfl) (fun _ => plain _ rfl) arr obj ?_ ?_ ?_ ?_ ?_ v
  · exact List.forall_mem_nil _
  · exact fun v vs hv hvs => List.forall_mem_cons.mpr ⟨hv, hvs⟩
  · exact List.forall_mem_nil _
  · exact fun e rest he hrest => List.forall_mem_cons.mpr ⟨he, hrest⟩
  · exact fun _ _ hv => hv

variable {v w : Json} {items items' : List Json} {members members' : List (String × Json)}

theorem exists_of_sameItems (h : sameItems items items' = true) (hv : v ∈ items) :
    ∃ w ∈ items', same v w = true := by
  induction items generalizing items' with
  | nil => exact absurd hv List.not_mem_nil
  | cons u us ih =>
    cases items' with
    | nil => cases h
    | cons w ws =>
      rw [sameItems, Bool.and_eq_true] at h
      rcases List.mem_cons.mp hv with rfl | hv
      · exact ⟨w, List.mem_cons_self, h.1⟩
      · obtain ⟨w', hw', hsame⟩ := ih h.2 hv
        exact ⟨w', List.mem_cons_of_mem _ hw', hsame⟩

theorem sameItems_self (h : ∀ v ∈ items, same v v = true) : sameItems items items = true := by
  induction items with
  | nil => rfl
  | cons v vs ih =>
    obtain ⟨hv, hvs⟩ := List.forall_mem_cons.mp h
    rw [sameItems, hv, ih hvs]
    rfl

theorem sameMembers_iff : sameMembers members members' = true ↔
    ∀ e ∈ members, ∃ w, lookup e.1 members' = some w ∧ same e.2 w = true := by
  induction members with
  | nil => simp [sameMembers]
  | cons e rest ih =>
    obtain ⟨key, v⟩ := e
    rw [sameMembers, Bool.and_eq_true, ih, List.forall_mem_cons]
    cases lookup key members' <;> simp

theorem same_plain (hv : v.isPlain = true) (w : Json) :
    same v w = (v.isPlain && w.isPlain && sameKey v w) := by
  cases v with
  | arr items | obj members => cases hv
  | null | bool b | int n | real x | str s => rfl

theorem properItems_iff : properItems items = true ↔ ∀ v ∈ items, isProper v = true := by
  induction items with
  | nil => simp [properItems]
  | cons v vs ih => simp [properItems, ih]

theorem properMembers_iff : properMembers members = true ↔
    (keys members).Nodup ∧ ∀ e ∈ members, isProper e.2 = true := by
  induction members with
  | nil => simp [properMembers, keys]
  | cons e rest ih =>
    obtain ⟨key, v⟩ := e
    rw [properMembers, Bool.and_eq_true, Bool.and_eq_true, ih, Option.isNone_iff_eq_none,
      lookup_eq_none_iff, List.forall_mem_cons]
    simp only [keys, List.map_cons, List.nodup_cons]
    tauto

theorem sameKey_self (hplain : v.isPlain = true) (hproper : v.isProper = true) :
    sameKey v v = true := by
  cases v with
  | arr items | obj members => cases hplain
  | null => rfl
  | bool b => simp [sameKey, whole?]
  | int n => simp [sameKey, whole?]
  | str s => simp [sameKey]
  | real x => exact hproper

theorem same_self (h : v.isProper = true) : same v v = true := by
  induction v using nested_induction with
  | plain v hplain => rw [same_plain hplain, hplain, sameKey_self hplain h]; rfl
  | arr items ih =>
    have hall := properItems_iff.mp h
    exact sameItems_self fun v hv => ih v hv (hall v hv)
  | obj members ih =>
    obtain ⟨hnodup, hall⟩ := properMembers_iff.mp h
    rw [same, beq_self_eq_true, Bool.true_and]
    exact sameMembers_iff.mpr fun e he =>
      ⟨e.2, lookup_of_mem hnodup he, ih e he (hall e he)⟩

theorem depth_le_of_mem_items (h : v ∈ items) : v.depth ≤ depthOfItems items := by
  induction items with
  | nil => exact absurd h List.not_mem_nil
  | cons w ws ih =>
    rcases List.mem_cons.mp h with rfl | h
    · exact le_max_left _ _
    · exact (ih h).trans (le_max_right _ _)

theorem depth_le_of_mem_members {key : String} (h : (key, v) ∈ members) :
    v.depth ≤ depthOfMembers members := by
  induction members with
  | nil => exact absurd h List.not_mem_nil
  | cons e rest ih =>
    rcases List.mem_cons.mp h with rfl | h
    · exact le_max_left _ _
    · exact (ih h).trans (le_max_right _ _)

theorem depthOfItems_le {n : ℕ} (h : ∀ v ∈ items, v.depth ≤ n) : depthOfItems items ≤ n := by
  induction items with
  | nil => exact n.zero_le
  | cons v vs ih =>
    obtain ⟨hv, hvs⟩ := List.forall_mem_cons.mp h
    exact max_le hv (ih hvs)

theorem depthOfMembers_le {n : ℕ} (h : ∀ e ∈ members, e.2.depth ≤ n) : depthOfMembers members ≤ n := by
  induction members with
  | nil => exact n.zero_le
  | cons e rest ih =>
    obtain ⟨he, hrest⟩ := List.forall_mem_cons.mp h
    exact max_le he (ih hrest)

theorem depth_of_isPlain (h : v.isPlain = true) : v.depth = 0 := by
  cases v with
  | arr items | obj members => cases h
  | null | bool b | int n | real x | str s => rfl

theorem depth_le_of_same (h : same v w = true) : v.depth ≤ w.depth := by
  induction v using nested_induction generalizing w with
  | plain v hplain =>
    rw [depth_of_isPlain hplain]
    exact w.depth.zero_le
  | arr items ih =>
    cases w with
    | null | bool b | int n | real x | str s | obj members => cases h
    | arr items' =>
      refine Nat.succ_le_succ (depthOfItems_le fun v hv => ?_)
      obtain ⟨w, hw, hsame⟩ := exists_of_sameItems h hv
      exact (ih v hv hsame).trans (depth_le_of_mem_items hw)
  | obj members ih =>
    cases w with
    | null | bool b | int n | real x | str s | arr items => cases h
    | obj members' =>
      rw [same, Bool.and_eq_true] at h
      refine Nat.succ_le_succ (depthOfMembers_le fun e he => ?_)
      obtain ⟨w, hw, hsame⟩ := sameMembers_iff.mp h.2 e he
      exact (ih e he hsame).trans (depth_le_of_mem_members (mem_of_lookup hw))

theorem exists_of_mapM {α β ε : Type} {f : α → Except ε β} {as : List α} {bs : List β}
    (h : as.mapM f = .ok bs) {b : β} (hb : b ∈ bs) : ∃ a ∈ as, f a = .ok b := by
  induction as generalizing bs with
  | nil =>
    obtain rfl := Except.ok.inj h
    exact absurd hb List.not_mem_nil
  | cons a as ih =>
    rw [List.mapM_cons] at h
    cases ha : f a with
    | error e =>
      rw [ha] at h
      cases h
    | ok c =>
      cases has : as.mapM f with
      | error e =>
        rw [ha, has] at h
        cases h
      | ok cs =>
        rw [ha, has] at h
        obtain rfl := Except.ok.inj h
        rcases List.mem_cons.mp hb with rfl | hb
        · exact ⟨a, List.mem_cons_self, ha⟩
        · obtain ⟨a', ha', hfa⟩ := ih has hb
          exact ⟨a', List.mem_cons_of_mem _ ha', hfa⟩

theorem depth_le_of_pair {k : Json} (h : pair v = .ok (k, w)) : w.depth ≤ v.depth := by
  unfold pair at h
  split at h
  · next key value =>
    split at h
    · obtain ⟨rfl, rfl⟩ := Prod.mk.inj (Except.ok.inj h)
      have hvalue : value ∈ [key, value] := List.mem_cons_of_mem _ List.mem_cons_self
      exact (depth_le_of_mem_items hvalue).trans (Nat.le_succ _)
    · cases h
  · obtain ⟨rfl, rfl⟩ := Prod.mk.inj (Except.ok.inj h)
    exact Nat.zero_le _
  · split at h
    · obtain ⟨rfl, rfl⟩ := Prod.mk.inj (Except.ok.inj h)
      exact Nat.zero_le _
    · cases h
  all_goals cases h

theorem depth_lt_of_table {t : Table} {k : Json} (h : v.table = .ok t) (hmem : (k, w) ∈ t) :
    w.depth < v.depth := by
  cases v with
  | null | bool b | int n | real x => cases h
  | str s =>
    rw [table] at h
    split at h
    · obtain rfl := Except.ok.inj h
      exact absurd hmem List.not_mem_nil
    · cases h
  | obj members =>
    obtain rfl := Except.ok.inj h
    obtain ⟨⟨key, u⟩, he, heq⟩ := List.mem_map.mp hmem
    obtain ⟨-, rfl⟩ := Prod.mk.inj heq
    exact Nat.lt_succ_of_le (depth_le_of_mem_members he)
  | arr items =>
    rw [table] at h
    cases hpairs : items.mapM pair with
    | error e =>
      rw [hpairs] at h
      cases h
    | ok pairs =>
      rw [hpairs] at h
      obtain rfl := Except.ok.inj h
      rcases Table.mem_putAll hmem with hnil | ⟨key, hpair, -⟩
      · exact absurd hnil List.not_mem_nil
      · obtain ⟨item, hitem, hof⟩ := exists_of_mapM hpairs hpair
        exact Nat.lt_succ_of_le ((depth_le_of_pair hof).trans (depth_le_of_mem_items hitem))

end RealmModels.Json
