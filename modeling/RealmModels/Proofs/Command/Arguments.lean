import Mathlib
import RealmModels.Command.Arguments

namespace RealmModels.Command

namespace Reading

variable {r r' : Reading}

def IsExclusive (r : Reading) : Prop := r.options.schema.isSome = true → r.options.value? .url = none

theorem isExclusive_withSchema? {s : String} (h : r.withSchema? s = some r') : r'.IsExclusive := by
  rw [withSchema?] at h
  split at h
  · cases h
  · next hurl =>
    obtain rfl := Option.some.inj h
    exact fun _ => Option.not_isSome_iff_eq_none.mp hurl

theorem IsExclusive.withValue? (hr : r.IsExclusive) {k : Key} {v : String}
    (h : r.withValue? k v = some r') : r'.IsExclusive := by
  rw [Reading.withValue?] at h
  split at h
  · cases h
  · next hurl =>
    split at h
    · cases h
    · obtain rfl := Option.some.inj h
      intro hschema
      have hk : k ≠ .url := fun hk => hurl (by simp [hk, show r.options.schema.isSome = true from hschema])
      simpa [Options.value?, hk] using hr hschema

theorem isExclusive_of_last {s : String} {rest : List Word}
    (h : (do let r ← r.withSchema? s
             return if rest.isEmpty then r else r.withExtra) = some r') : r'.IsExclusive := by
  obtain ⟨r₁, hr₁, h⟩ := Option.bind_eq_some_iff.mp h
  have hexclusive := isExclusive_withSchema? hr₁
  obtain rfl := Option.some.inj h
  split
  · exact hexclusive
  · exact hexclusive

theorem IsExclusive.plainRest (hr : r.IsExclusive) {ws : List Word} (h : r.plainRest ws = some r') :
    r'.IsExclusive := by
  rw [Reading.plainRest.eq_def] at h
  split at h
  · exact Option.some.inj h ▸ hr
  · split at h
    · obtain rfl := Option.some.inj h
      exact hr
    · exact isExclusive_of_last h
  · obtain rfl := Option.some.inj h
    exact hr

theorem IsExclusive.words (hr : r.IsExclusive) {ws : List Word} (h : r.words ws = some r') :
    r'.IsExclusive := by
  -- a word ends the reading, leaves it as it is, or adds a schema or a value to it
  fun_induction Reading.words r ws with
  | case1 => exact Option.some.inj h ▸ hr
  | case2 | case6 | case13 =>
    obtain rfl := Option.some.inj h
    exact hr
  | case3 => exact isExclusive_of_last h
  | case4 _ _ _ _ _ ih | case7 _ _ _ _ ih | case12 _ _ ih => exact ih hr h
  | case5 _ _ _ _ _ ih =>
    obtain ⟨r₁, hr₁, h⟩ := Option.bind_eq_some_iff.mp h
    exact ih r₁ (isExclusive_withSchema? hr₁) h
  | case8 | case11 => cases h
  | case9 _ _ _ _ ih | case10 _ _ _ _ ih =>
    obtain ⟨r₁, hr₁, h⟩ := Option.bind_eq_some_iff.mp h
    exact ih r₁ (hr.withValue? hr₁) h
  | case14 => exact hr.plainRest h

end Reading

theorem Options.isSet_url_of_schema {arguments : List String} {o : Options} {path : String}
    (h : ofArguments? arguments = some o) (hschema : o.schema = some path) : o.isSet .url = false := by
  obtain ⟨ws, -, h⟩ := Option.bind_eq_some_iff.mp h
  obtain ⟨r, hr, h⟩ := Option.bind_eq_some_iff.mp h
  have hexclusive : r.IsExclusive :=
    Reading.IsExclusive.words (r := {}) (fun hschema => by cases hschema) hr
  split at h
  · cases h
  · obtain rfl := Option.some.inj h
    have hurl := hexclusive (by rw [hschema]; rfl)
    rw [Options.isSet, Options.value, hurl]
    rfl

end RealmModels.Command
