import SqlTyping.Proofs.Text.Reading
import SqlTyping.Setting.Engine
import SqlTyping.Setting.File

/-!
# Values that an engine can have

The values of an engine start with the defaults, and change when a setting is given a value, is
reset, or is named in a file. No such change leaves a setting with a value that it does not admit
(`admits_of_reachable`): a value is only put after the setting has been asked, and every default is
admitted. Only one setting is changed by each step, because no two settings share a key.
-/

namespace SqlTyping

namespace Values

/-- Putting a value changes that value alone. -/
lemma get_put (values : Values) (key other : String) (v : Int) :
    (values.put key v).get other = if other = key then v else values.get other := by
  unfold get put
  rw [List.lookup_cons]
  by_cases h : other = key
  · simp [h]
  · have hfilter : (values.filter fun entry => entry.1 != key).lookup other =
        values.lookup other := by
      induction values with
      | nil => rfl
      | cons entry values ih =>
        by_cases hentry : entry.1 = key
        · have hne : (other == entry.1) = false := by simpa [hentry] using h
          rw [List.filter_cons_of_neg (by simp [hentry]), List.lookup_cons, hne, ih]
        · rw [List.filter_cons_of_pos (by simp [hentry]), List.lookup_cons, List.lookup_cons, ih]
    have hbeq : (other == key) = false := by simpa using h
    rw [hbeq, hfilter, if_neg h]

end Values

namespace Registry

/-- Whether every declared setting admits its current value. -/
def Admits (r : Registry) (values : Values) : Prop :=
  ∀ s ∈ r.settings, s.objection? (values.get s.key) = none

instance (r : Registry) (values : Values) : Decidable (r.Admits values) :=
  inferInstanceAs (Decidable (∀ s ∈ r.settings, _))

/-- Whether the settings have different keys and admit their own defaults. -/
structure Consistent (r : Registry) : Prop where
  keys : ∀ s ∈ r.settings, ∀ t ∈ r.settings, s.key = t.key → s = t
  defaults : ∀ s ∈ r.settings, s.objection? s.default = none

section

variable {r : Registry} {values values' : Values}

lemma mem_of_find? {key : String} {s : Setting} (h : r.find? key = some s) :
    s ∈ r.settings ∧ s.key = key := by
  have hkey := List.find?_some h
  exact ⟨List.mem_of_find?_eq_some h, by simpa using hkey⟩

/-- Only the setting with the key is asked about a value that is put. -/
lemma Admits.put (hr : r.Consistent) (h : r.Admits values) {s : Setting} (hs : s ∈ r.settings)
    {v : Int} (hv : s.objection? v = none) : r.Admits (values.put s.key v) := by
  intro t ht
  rw [Values.get_put]
  split
  · next hkey => rw [hr.keys t ht s hs hkey, hv]
  · exact h t ht

lemma Admits.override (hr : r.Consistent) (h : r.Admits values) {s : Setting}
    (hs : s ∈ r.settings) {v : Int} (hv : s.override values v = .ok values') :
    r.Admits values' := by
  unfold Setting.override at hv
  split at hv
  · cases hv
  · next hobjection =>
    cases hv
    exact h.put hr hs hobjection

lemma Admits.set (hr : r.Consistent) (h : r.Admits values) {key raw : String}
    (hset : r.set values key raw = .ok values') : r.Admits values' := by
  unfold Registry.set at hset
  split at hset
  · cases hset
  · next s hfind =>
    rw [Except.mapError_eq_ok_iff] at hset
    obtain ⟨v, -, hv⟩ := Except.bind_eq_ok_iff.mp hset
    exact h.override hr (mem_of_find? hfind).1 hv

lemma Admits.reset (hr : r.Consistent) (h : r.Admits values) {key : String}
    (hreset : r.reset values key = .ok values') : r.Admits values' := by
  unfold Registry.reset at hreset
  split at hreset
  · cases hreset
  · next s hfind =>
    obtain ⟨hs, rfl⟩ := mem_of_find? hfind
    cases hreset
    exact h.put hr hs (hr.defaults s hs)

/-- An entry of a file that is applied is a setting that is given a value. -/
lemma set_of_applyEntry {key raw : Text.Raw}
    (h : SettingsFile.applyEntry r values key raw = .ok values') :
    ∃ key raw : String, r.set values key raw = .ok values' := by
  unfold SettingsFile.applyEntry at h
  split at h
  · cases h
  · next key _ =>
    split at h
    · next raw _ => exact ⟨key, raw, h⟩
    · cases h
    · cases h

lemma Admits.apply (hr : r.Consistent) (h : r.Admits values)
    (entries : List (Text.Raw × Yaml.Value)) :
    r.Admits (SettingsFile.apply r values entries).1 := by
  induction entries generalizing values with
  | nil => exact h
  | cons entry entries ih =>
    rw [SettingsFile.apply]
    split
    · exact h
    · split
      · exact h
      · next values' happly =>
        obtain ⟨key, raw, hset⟩ := set_of_applyEntry happly
        exact ih (h.set hr hset)

lemma Admits.load (hr : r.Consistent) (h : r.Admits values) (text : String) :
    r.Admits (SettingsFile.load r values text).1 := by
  unfold SettingsFile.load
  split
  · exact h
  · exact h.apply hr _

end

end Registry

namespace Engine

/-- The values that an engine can have. -/
inductive Reachable : Values → Prop where
  | defaults : Reachable defaults
  | set {values values' : Values} {key raw : String} (h : Reachable values)
      (hset : registry.set values key raw = .ok values') : Reachable values'
  | override {values values' : Values} {s : Setting} {v : Int} (h : Reachable values)
      (hs : s ∈ registry.settings) (hv : s.override values v = .ok values') : Reachable values'
  | reset {values values' : Values} {key : String} (h : Reachable values)
      (hreset : registry.reset values key = .ok values') : Reachable values'
  | load {values : Values} (h : Reachable values) (text : String) :
      Reachable (SettingsFile.load registry values text).1

lemma consistent_registry : registry.Consistent where
  keys := by decide +kernel
  defaults := by decide

/-- Every setting of an engine admits its current value. -/
lemma admits_of_reachable {values : Values} (h : Reachable values) : registry.Admits values := by
  induction h with
  | defaults => decide +kernel
  | set _ hset ih => exact ih.set consistent_registry hset
  | override _ hs hv ih => exact ih.override consistent_registry hs hv
  | reset _ hreset ih => exact ih.reset consistent_registry hreset
  | load _ text ih => exact ih.load consistent_registry text

/-- The largest precision of unification is one that a DECIMAL can have. -/
lemma maxPrecision_of_reachable {values : Values} (h : Reachable values) :
    1 ≤ (unionRules values).maxPrecision ∧ (unionRules values).maxPrecision ≤ 31 := by
  have hadmits := admits_of_reachable h _ List.mem_cons_self
  simp only [Setting.objection?, IntegerRule.objection?, Option.map_eq_none_iff,
    ite_eq_right_iff, reduceCtorEq, imp_false, not_or, Int.not_lt, gt_iff_lt] at hadmits
  exact hadmits

end Engine

end SqlTyping
