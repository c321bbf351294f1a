import AslBuild.FileSystem.Error
set_option autoImplicit false

/-!
# Trees of files

A tree says what lies at each *location*, the list of names that leads there from the root: that is
the view `get?`. A file may lie at several locations at once, and was changed last at some time.

No name is empty. A location whose last name is empty stands for a directory that was removed while
a process worked in it: it is there for that process, with nothing in it, and nothing can be made
in it.

## Main definitions

* `AslBuild.FileSystem.Entry` — a directory, a file, a symbolic link or a device.
* `AslBuild.FileSystem.isFixed` — whether a location is a directory whatever the entries are.
* `AslBuild.FileSystem.Tree` — the entries by location; the root is always a directory.
* `AslBuild.FileSystem.Tree.get?`, `insert`, `erase`, `eraseBelow` — look up, put and remove
  entries.
* `AslBuild.FileSystem.Tree.namesAt`, `addTwin`, `rewrite` — the locations of one file.
* `AslBuild.FileSystem.Tree.changed` — when an entry was changed last.

## Main results

* `AslBuild.FileSystem.Tree.get?_insert`, `get?_erase`, `get?_eraseBelow` — each operation by its
  view.
-/

namespace AslBuild.FileSystem

/-- The names that lead from the root to a place. -/
abbrev Location : Type := List String

/-- What a device does with what is written to it, and what can be read from it. -/
inductive Device
  /-- It takes everything and gives nothing. -/
  | null
  /-- It takes everything and gives zeros. -/
  | zero
  /-- It takes nothing and gives zeros. -/
  | full
  /-- It cannot be opened. -/
  | terminal
deriving DecidableEq

/-- What can lie at a location. The mode of a directory or of a file says what its owner, and
others, may do with it. -/
inductive Entry
  /-- A directory. -/
  | dir (mode : Nat)
  /-- A file, with its bytes. -/
  | file (contents : List UInt8) (mode : Nat)
  /-- A symbolic link, with the text of its target. -/
  | link (target : String)
  /-- A device. -/
  | device (kind : Device)
deriving DecidableEq

/-! ## Modes -/

/-- The mode that new directories have, as far as nothing is masked. -/
def dirMode : Nat := 0o777

/-- The mode that new files have, as far as nothing is masked. -/
def fileMode : Nat := 0o666

/-- The mode of directories that nobody may write to. -/
def lockedMode : Nat := 0o555

/-- A mode without the masked bits. -/
def masked (mask mode : Nat) : Nat := mode - (mode &&& mask)

/-- Whether a mode lets the owner read. -/
def mayRead (mode : Nat) : Bool := mode.testBit 8

/-- Whether a mode lets the owner write. -/
def mayWrite (mode : Nat) : Bool := mode.testBit 7

/-- Whether a mode lets the owner execute a file, or go through a directory. -/
def mayEnter (mode : Nat) : Bool := mode.testBit 6

/-! ## Locations and their entries -/

/-- Whether a location is a directory whatever the entries are: the root, and a directory that was
removed while it was in use. -/
def isFixed (loc : Location) : Bool := loc.getLast?.all String.isEmpty

/-- The bytes of a text in UTF-8. -/
def bytesOf (text : String) : List UInt8 := text.toUTF8.toList

/-- The time at the start, in thousandths of a second since the start of 1970. -/
def startOfTime : Int := 1767225600000

/-- Entries by location. -/
structure Tree where
  /-- The entries, each with its location, which is never the root. -/
  entries : List (Location × Entry)
  /-- The locations of the files that have more than one of them, file by file. -/
  twins : List (List Location) := []
  /-- When the entries were changed last, if that was not at the start. -/
  stamps : List (Location × Int) := []
  /-- The time. -/
  clock : Int := startOfTime

namespace Tree

/-- The tree with nothing but its root. -/
def empty : Tree := { entries := [] }

/-- What lies at a location. -/
def get? (t : Tree) (loc : Location) : Option Entry :=
  if isFixed loc then some (.dir lockedMode) else t.entries.lookup loc

/-- Where a directory is that was in use, of which the names below `base` are given: it may have been
removed, with some of those above it, and then the names of the removed ones are empty. -/
def remnant (t : Tree) (base : Location) : List String → Location
  | [] => base
  | name :: names =>
    match t.get? (base ++ [name]) with
    | some (.dir _) => remnant t (base ++ [name]) names
    | _ => base ++ (name :: names).map fun _ => ""

/-- The locations of the file at a location. -/
def namesAt (t : Tree) (loc : Location) : List Location :=
  (t.twins.find? (·.contains loc)).getD [loc]

/-- The locations of files that have more than one, of those that are kept. -/
def twinsWhere (t : Tree) (keep : Location → Bool) : List (List Location) :=
  (t.twins.map (·.filter keep)).filter fun names => 1 < names.length

/-- When the entry at a location was changed last. -/
def changed (t : Tree) (loc : Location) : Int := (t.stamps.lookup loc).getD startOfTime

/-- The tree after the entry at a location was changed, at a time. -/
def stamp (t : Tree) (loc : Location) (time : Int) : Tree :=
  let names := t.namesAt loc
  { t with stamps := names.map (·, time) ++ t.stamps.filter fun x => !names.contains x.1 }

/-- Put an entry of its own at a location. A fixed one stays as it is. -/
def insert (t : Tree) (loc : Location) (e : Entry) : Tree :=
  { t with
    entries := (loc, e) :: t.entries.filter fun x => x.1 != loc
    twins := t.twinsWhere (· != loc)
    stamps := (loc, t.clock) :: t.stamps.filter fun x => x.1 != loc }

/-- Let what lies at a location be something else, wherever else it may lie. -/
def rewrite (t : Tree) (loc : Location) (e : Entry) : Tree :=
  let names := t.namesAt loc
  { t with entries := t.entries.map fun x => if names.contains x.1 then (x.1, e) else x }

/-- Let the file at a location also lie at another one. -/
def addTwin (t : Tree) (loc other : Location) (e : Entry) : Tree :=
  let names := t.namesAt loc
  { t with
    entries := (other, e) :: t.entries.filter fun x => x.1 != other
    twins := (other :: names) :: t.twins.filter (· != names)
    stamps := (other, t.changed loc) :: t.stamps.filter fun x => x.1 != other }

/-- Remove the entry at a location, and nothing below it. -/
def erase (t : Tree) (loc : Location) : Tree :=
  { t with
    entries := t.entries.filter fun x => x.1 != loc
    twins := t.twinsWhere (· != loc)
    stamps := t.stamps.filter fun x => x.1 != loc }

/-- Whether one location lies strictly below another. -/
def isBelow (loc root : Location) : Bool := root.isPrefixOf loc && loc != root

/-- Remove all entries strictly below a location. -/
def eraseBelow (t : Tree) (root : Location) : Tree :=
  { t with
    entries := t.entries.filter fun x => !isBelow x.1 root
    twins := t.twinsWhere fun loc => !isBelow loc root
    stamps := t.stamps.filter fun x => !isBelow x.1 root }

/-- The entries strictly below a location. -/
def below (t : Tree) (root : Location) : List (Location × Entry) :=
  t.entries.filter fun x => isBelow x.1 root

/-- The names in a directory. -/
def names (t : Tree) (dir : Location) : List String :=
  t.entries.filterMap fun x => if x.1 != [] && x.1.dropLast == dir then x.1.getLast? else none

/-! ## Views -/

theorem get?_of_fixed (t : Tree) {loc : Location} (h : isFixed loc = true) :
    t.get? loc = some (.dir lockedMode) := by
  simp [get?, h]

theorem get?_of_not_fixed (t : Tree) {loc : Location} (h : isFixed loc = false) :
    t.get? loc = t.entries.lookup loc := by
  simp [get?, h]

/-- Looking up a key in a filtered list, where the filter looks at keys only. -/
theorem lookup_filter {α : Type} (keep : Location → Bool) (xs : List (Location × α))
    (loc : Location) :
    (xs.filter fun x => keep x.1).lookup loc = if keep loc then xs.lookup loc else none := by
  induction xs with
  | nil => simp
  | cons x xs ih =>
    obtain ⟨key, value⟩ := x
    rw [List.filter_cons]
    by_cases hk : loc = key
    · subst hk
      by_cases h : keep loc
      · simp [h]
      · simpa [h] using ih
    · have hne : (loc == key) = false := by simpa using hk
      by_cases h : keep key <;>
        simp only [h, if_true, Bool.false_eq_true, if_false, List.lookup_cons, hne, ih]

@[simp] theorem get?_nil (t : Tree) : t.get? [] = some (.dir lockedMode) := rfl

/-- After an insertion the location holds the new entry, and the others hold what they held. -/
theorem get?_insert (t : Tree) {loc : Location} (e : Entry) (h : isFixed loc = false)
    (other : Location) :
    (t.insert loc e).get? other = if other = loc then some e else t.get? other := by
  by_cases heq : other = loc
  · subst heq
    simp [get?_of_not_fixed _ h, insert]
  · have hne : (other == loc) = false := by simpa using heq
    simp only [get?, insert, List.lookup_cons, lookup_filter (· != loc), hne, heq, if_false]
    simp [heq]

/-- After a removal the location is empty, and the others hold what they held. -/
theorem get?_erase (t : Tree) {loc : Location} (h : isFixed loc = false) (other : Location) :
    (t.erase loc).get? other = if other = loc then none else t.get? other := by
  by_cases heq : other = loc
  · subst heq
    simp [get?_of_not_fixed _ h, erase, lookup_filter (· != other)]
  · simp only [get?, erase, lookup_filter (· != loc)]
    simp [heq]

/-- After a removal of all entries below a location, exactly those are gone, and the fixed ones
stay. -/
theorem get?_eraseBelow (t : Tree) (root other : Location) :
    (t.eraseBelow root).get? other =
      if isBelow other root && !isFixed other then none else t.get? other := by
  simp only [get?, eraseBelow, lookup_filter fun x => !isBelow x root]
  by_cases hf : isFixed other <;> by_cases h : isBelow other root <;> simp [hf, h]

end Tree

end AslBuild.FileSystem
