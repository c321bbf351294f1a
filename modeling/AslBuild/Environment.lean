set_option autoImplicit false

/-!
# Environment variables

A session reads four variables of its surroundings, once, at its start. A variable with an empty
value counts as one that is not set.

## Main definitions

* `AslBuild.Environment` — values by name.
* `AslBuild.Environment.set`, `AslBuild.Environment.get?` — setting and looking up a variable.
* `AslBuild.Environment.captured` — the variables that a session keeps.
* `AslBuild.Environment.capture` — those variables out of all that are set.

## Main results

* `AslBuild.Environment.get?_set` — a lookup sees the last value that was set.
* `AslBuild.Environment.ne_empty_of_get?` — no lookup gives an empty value.
-/

namespace AslBuild

/-- Variables and their values; the first entry for a name counts. -/
structure Environment where
  /-- The names with their values. -/
  bindings : List (String × String)
deriving DecidableEq

namespace Environment

/-- The native compiler to use, possibly with leading words such as a compiler cache. -/
def compiler : String := "CC"

/-- The directory of the Algorithmic C types. -/
def acTypes : String := "AC_TYPES_DIR"

/-- The directory of the SystemC types. -/
def scTypes : String := "SC_TYPES_DIR"

/-- The directories in which programs are looked up. -/
def searchPath : String := "PATH"

/-- The variables that a session keeps. -/
def captured : List String := [compiler, acTypes, scTypes, searchPath]

/-- No variable is set. -/
def empty : Environment := ⟨[]⟩

/-- Set a variable, in place of its earlier value. -/
def set (env : Environment) (name value : String) : Environment :=
  ⟨(name, value) :: env.bindings.filter fun b => b.1 != name⟩

/-- Set several variables, one after the other. -/
def setAll (env : Environment) (values : List (String × String)) : Environment :=
  values.foldl (fun env b => env.set b.1 b.2) env

/-- The value of a variable, if it is set and not empty. -/
def get? (env : Environment) (name : String) : Option String :=
  (env.bindings.lookup name).filter fun value => !value.isEmpty

/-- The variables that a session keeps, out of those that are set. -/
def capture (env : Environment) : Environment :=
  ⟨env.bindings.filter fun b => captured.contains b.1⟩

/-! ## Views -/

/-- Looking up a name among the entries that bear other names. -/
theorem lookup_filter_ne (xs : List (String × String)) {name other : String} (h : other ≠ name) :
    (xs.filter fun b => b.1 != name).lookup other = xs.lookup other := by
  induction xs with
  | nil => rfl
  | cons b xs ih =>
    obtain ⟨key, value⟩ := b
    by_cases hk : key = name
    · subst hk
      have : (other == key) = false := by simpa using h
      simp [List.lookup_cons, this, ih]
    · rw [List.filter_cons, if_pos (by simpa using hk), List.lookup_cons, List.lookup_cons, ih]

/-- A lookup sees the last value that was set, unless that is empty. -/
theorem get?_set (env : Environment) (name value other : String) :
    (env.set name value).get? other =
      if other = name then (if value.isEmpty then none else some value) else env.get? other := by
  by_cases h : other = name
  · subst h
    by_cases hv : value.isEmpty <;> simp [get?, set, Option.filter, hv]
  · have hb : (other == name) = false := by simpa using h
    simp only [get?, set, List.lookup_cons, hb, lookup_filter_ne _ h, if_neg h]

/-- No lookup gives an empty value. -/
theorem ne_empty_of_get? {env : Environment} {name value : String}
    (h : env.get? name = some value) : value ≠ "" := by
  rintro rfl
  simp [get?, Option.filter_eq_some_iff] at h

end Environment

end AslBuild
