import AslBuild.Shell.Atoms
import AslBuild.Shell.Pattern
set_option autoImplicit false

/-!
# Fields

Atoms fall into fields, at the separators that come from values and that are not quoted. A field that
is a pattern becomes the list of the files that fit it.

## Main definitions

* `AslBuild.Shell.fields` — the fields that some atoms fall into.
* `AslBuild.Shell.filesOf` — the words that a field stands for.
-/

namespace AslBuild.Shell

open FileSystem Host Text

/-! ## Fields -/

/-- A field: characters, each of which is quoted or not. -/
abbrev Field : Type := List (Char × Bool)

/-- The fields that were found so far. -/
structure Fields where
  /-- The ones that have ended, the last one first. -/
  ended : List Field := []
  /-- The characters of the one that has not, the last one first. -/
  current : Field := []
  /-- How many quotes are in it. -/
  marks : Nat := 0
  /-- Whether the last field ended with a blank, and nothing came since. -/
  afterBlank : Bool := false

namespace Fields

/-- Whether a field has begun. -/
def open_ (f : Fields) : Bool := !f.current.isEmpty || f.marks != 0

/-- End the field that has begun. -/
def finish (f : Fields) : Fields :=
  { ended := f.current.reverse :: f.ended }

/-- End the field that has begun, if there is one, as a blank does. -/
def blank (f : Fields) : Fields :=
  if f.open_ then { f.finish with afterBlank := true } else f

/-- One more atom. -/
def add (separators : List Char) (f : Fields) : Atom → Fields
  | .char c quoted => { f with current := (c, quoted) :: f.current, afterBlank := false }
  | .mark => { f with marks := f.marks + 1, afterBlank := false }
  | .absent => { f with marks := f.marks - 1 }
  | .stop => if f.open_ then f.finish else { f with afterBlank := false }
  | .gap => f.blank
  | .value c =>
    if !separators.contains c then { f with current := (c, false) :: f.current, afterBlank := false }
    else if c == ' ' || c == '\t' || c == '\n' then f.blank
    else if f.open_ then f.finish
    else if f.afterBlank then { f with afterBlank := false }
    else f.finish

end Fields

/-- The fields that some atoms fall into. -/
def fields (separators : List Char) (atoms : List Atom) : List Field :=
  let f := atoms.foldl (Fields.add separators) {}
  (if f.open_ then f.finish else f).ended.reverse

/-- The text of a field. -/
def Field.text (f : Field) : String := String.ofList (f.map (·.1))

/-! ## Files that fit -/

/-- The names in a directory, in their order. -/
def namesAt (d : Disk) (extended : Bool) (dir : String) : List String :=
  match d.stat ⟨Raw.toText (if dir.isEmpty then "." else dir)⟩ with
  | .ok (loc, .dir mode) =>
    if mayRead mode then
      let own := (d.tree.names loc).map Raw.ofText
      ((if extended then [] else [".", ".."]) ++ own).mergeSort fun a b => a ≤ b
    else []
  | _ => []

/-- Whether a name fits a pattern. A dot at its start has to be there in the pattern. -/
def nameFits (style : GlobStyle) (dots : Bool) (pattern : Field) (name : String) : Bool :=
  (dots || !name.startsWith "." || (pattern.head?.any fun c => c.1 == '.')) &&
    fits (globs style pattern) name.toList

/-- The directories below a path that can be reached through names that are not hidden, the path
itself first; each ends with a slash. At most so many levels are gone down. -/
def dirsBelow (d : Disk) : Nat → String → List String
  | 0, _ => []
  | n + 1, before =>
    let inner := (namesAt d true before).filter fun name =>
      !name.startsWith "." && match d.lstat ⟨Raw.toText (before ++ name)⟩ with
        | .ok (_, .dir _) => true
        | _ => false
    before :: inner.flatMap fun name => dirsBelow d n (before ++ name ++ "/")

/-- How files are looked for. -/
structure Hunt where
  /-- The files. -/
  disk : Disk
  /-- How patterns are spelled. -/
  style : GlobStyle
  /-- Whether hidden names fit as others do. -/
  dots : Bool
  /-- Whether two asterisks stand for any number of directories. -/
  deep : Bool

/-- How deep directories are looked through. -/
def huntDepth : Nat := 100

/-- The paths that fit a pattern, the components of which are given, behind a path. -/
def matching (h : Hunt) (before : String) : List Field → List String
  | [] => []
  | [f] =>
    if h.deep && f.map (·.1) == ['*', '*'] && isPattern h.style.groups f then
      (dirsBelow h.disk huntDepth before).flatMap fun dir =>
        ((namesAt h.disk true dir).filter fun n => h.dots || !n.startsWith ".").map (dir ++ ·)
    else if isPattern h.style.groups f then
      ((namesAt h.disk h.style.extended before).filter (nameFits h.style h.dots f)).map fun n =>
        before ++ n
    else if f.isEmpty then (if h.disk.isDir ⟨Raw.toText before⟩ then [before] else [])
    else
      let path := before ++ Field.text f
      if (h.disk.lstat ⟨Raw.toText path⟩).toOption.isSome then [path] else []
  | f :: g :: fs =>
    if h.deep && f.map (·.1) == ['*', '*'] && isPattern h.style.groups f then
      (dirsBelow h.disk huntDepth before).flatMap fun dir => matching h dir (g :: fs)
    else if isPattern h.style.groups f then
      let names := (namesAt h.disk h.style.extended before).filter (nameFits h.style h.dots f)
      let dirs := names.filter fun n => h.disk.isDir ⟨Raw.toText (before ++ n)⟩
      dirs.flatMap fun n => matching h (before ++ n ++ "/") (g :: fs)
    else matching h (before ++ Field.text f ++ "/") (g :: fs)

/-- The components of a pattern. -/
def components (f : Field) : List Field :=
  f.foldr (fun c parts =>
    match parts with
    | [] => [[c]]
    | part :: parts => if c.1 == '/' then [] :: part :: parts else (c :: part) :: parts) [[]]

/-- The words that a field stands for: the files that fit it, or else its text, unless an option says
otherwise. -/
def filesOf (f : Field) : Sh (List String) := do
  let s ← Act.read
  let style := { s.globStyle with folds := s.has "nocaseglob" }
  if !isPattern style.groups f || s.has "noglob" then pure [f.text]
  else
    let h : Hunt :=
      { disk := s.disk, style, dots := s.has "dotglob", deep := s.has "globstar" }
    match (matching h "" (components f)).mergeSort fun a b => a ≤ b with
    | [] =>
      if s.has "failglob" then fail ("no match: " ++ f.text)
      else pure (if s.has "nullglob" then [] else [f.text])
    | paths => pure paths

end AslBuild.Shell
