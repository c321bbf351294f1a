import AslBuild.FileSystem.Resolve
import AslBuild.Host.Process
set_option autoImplicit false

/-!
# Program files

A file is a program if it may be executed and either is compiled or names an interpreter in its
first line. The interpreter is then started in its place, with the path of the file among its
arguments. On the disk, a compiled program is a file that starts like compiled programs do and goes
on with its name.

## Main definitions

* `AslBuild.Host.Image` — what a program file holds.
* `AslBuild.Host.imageOf?` — what some bytes hold.
* `AslBuild.Host.imageAt` — what the program file at a path holds, or why it cannot be executed.
* `AslBuild.Host.compiledAt` — the compiled program that a path comes down to.
-/

namespace AslBuild.Host

open FileSystem Text

/-- What a program file holds. -/
inductive Image
  /-- A compiled program. -/
  | compiled (name : String)
  /-- A text for an interpreter, which may be given an argument. -/
  | script (interpreter : String) (argument : Option String)
deriving DecidableEq

/-! ## The first line -/

/-- The number of bytes of a file in which the name of its interpreter has to stand. -/
def headLength : Nat := 256

/-- Whether a character separates the words of the line that names an interpreter. -/
def isGap (c : Char) : Bool := c == ' ' || c == '\t'

/-- Whether the name of an interpreter ends at a character. -/
def endsName (c : Char) : Bool := isGap c || c == Char.ofNat 0

/-- The interpreter that a line names, and its argument. -/
def interpreterOf (line : List Char) : Option Image :=
  let line := ((line.reverse.dropWhile isGap).reverse).dropWhile isGap
  let name := line.takeWhile fun c => !endsName c
  let rest := line.drop name.length
  let argument := match rest with
    | c :: _ =>
      if isGap c then (rest.dropWhile isGap).takeWhile fun c => c != Char.ofNat 0 else []
    | [] => []
  if name.isEmpty then none
  else some (.script (String.ofList name)
    (if argument.isEmpty then none else some (String.ofList argument)))

/-- The interpreter that is named behind the two signs at the start of a file. A line that does not
end within the part that is read counts as far as it is read, if the name ends there. -/
def interpreterIn (head : List Char) (whole : Bool) : Option Image :=
  let line := head.takeWhile (· != '\n')
  if line.length < head.length || whole then interpreterOf line
  else if ((line.dropWhile isGap).dropWhile fun c => !endsName c).isEmpty then none
  else interpreterOf line

/-! ## Program files -/

/-- What a compiled program starts with. -/
def magic : List UInt8 := [0x7F, 0x45, 0x4C, 0x46]

/-- The bytes of a compiled program. -/
def compiledFile (name : String) : List UInt8 := magic ++ bytesOf name

/-- What some bytes hold, if they are a program file. -/
def imageOf? (contents : List UInt8) : Option Image :=
  match contents with
  | 0x23 :: 0x21 :: rest =>
    let head := rest.take (headLength - 2)
    interpreterIn (Raw.ofBytes head).toList (rest.length < headLength - 2)
  | _ =>
    if magic.isPrefixOf contents then some (.compiled (Utf8.decode (contents.drop magic.length)))
    else none

/-- What the program file at a path holds, or why it cannot be executed. -/
def imageAt (d : Disk) (path : String) : Except IoError Image := do
  match ← d.stat ⟨Raw.toText path⟩ with
  | (_, .file contents mode) =>
    if !mayEnter mode then .error (.os .accessDenied)
    else match imageOf? contents with
      | some image => .ok image
      | none => .error (.os .execFormat)
  | _ => .error (.os .accessDenied)

/-- How deep interpreters may be nested. -/
def interpreterLimit : Nat := 6

/-- The compiled program that a start comes down to, and how that is started. An interpreter may
itself have an interpreter, so many levels deep. -/
def compiledAt (d : Disk) : Nat → Start → Except IoError (String × Start)
  | 0, _ => .error (.os .tooManyLinks)
  | n + 1, start => do
    match ← imageAt d start.path with
    | .compiled name => .ok (name, start)
    | .script interpreter argument =>
      compiledAt d n { start with
        path := interpreter
        name := interpreter
        arguments := argument.toList ++ start.path :: start.arguments }

end AslBuild.Host
