import AslBuild.Text.Blank
set_option autoImplicit false

/-!
# Paths

A path is kept as the text it was given as, because that text is what commands and messages show.
Everything else about it is read off that text: its *lead* (`/`, a leading `.`, or nothing), and the
pieces of its body between the slashes. An empty piece or a `.` in the body names nothing.

## Main definitions

* `AslBuild.Path` — the text of a path.
* `AslBuild.Path.components` — the path as a list of steps, in which `a//b/./` and `a/b` agree.
* `AslBuild.Path.join` — a path below another one, or the second path alone if that is absolute.
* `AslBuild.Path.parent?`, `AslBuild.Path.fileName?`, `AslBuild.Path.fileStem?` — the parts of a
  path, where a trailing `/` or `/.` does not count.
-/

namespace AslBuild

/-- A path, as the text that was given for it. -/
structure Path where
  /-- The text of the path. -/
  text : String
deriving DecidableEq, Inhabited

namespace Path

instance : Coe String Path := ⟨Path.mk⟩

/-! ## Lead and body -/

/-- What a path starts with, in front of its body. -/
inductive Lead
  /-- Nothing: the path is relative and starts with a name. -/
  | plain
  /-- A slash: the path is absolute. -/
  | root
  /-- A single dot: the path is relative and says so. -/
  | here
deriving DecidableEq

/-- The text of a lead. -/
def Lead.chars : Lead → List Char
  | .plain => []
  | .root => ['/']
  | .here => ['.']

/-- The lead of a path and the characters after it. -/
def splitLead : List Char → Lead × List Char
  | '/' :: body => (.root, body)
  | ['.'] => (.here, [])
  | '.' :: '/' :: body => (.here, '/' :: body)
  | body => (.plain, body)

/-- Whether a piece of a body names nothing. -/
def isFiller (piece : List Char) : Bool := piece == [] || piece == ['.']

/-- The pieces without the fillers at the end. -/
def dropFillers (pieces : List (List Char)) : List (List Char) :=
  (pieces.reverse.dropWhile isFiller).reverse

/-- Pieces with a slash between each two. -/
def joinPieces (pieces : List (List Char)) : List Char := ['/'].intercalate pieces

/-- The lead of a path. -/
def lead (p : Path) : Lead := (splitLead p.text.toList).1

/-- The pieces of the body of a path, without the fillers at its end. -/
def pieces (p : Path) : List (List Char) :=
  dropFillers (Text.pieces (· == '/') (splitLead p.text.toList).2)

/-- Whether a path starts at the root. -/
def isAbsolute (p : Path) : Bool := p.lead == .root

/-! ## Components -/

/-- One step of a path. -/
inductive Component
  /-- The root directory. -/
  | root
  /-- The directory the path starts in, named by a leading dot. -/
  | here
  /-- One directory up. -/
  | up
  /-- An entry of the directory reached so far. -/
  | name (text : String)
deriving DecidableEq

/-- The component that a piece of the body stands for. -/
def componentOf (piece : List Char) : Component :=
  if piece == ['.', '.'] then .up else .name (String.ofList piece)

/-- The steps of a path. -/
def components (p : Path) : List Component :=
  let front := match p.lead with
    | .plain => []
    | .root => [.root]
    | .here => [.here]
  front ++ (p.pieces.filter fun q => !isFiller q).map componentOf

/-! ## Building paths -/

/-- `child` seen from `p`: `child` alone if it is absolute, else the two texts with a slash between
them, unless `p` is empty or ends with one. -/
def join (p child : Path) : Path :=
  if child.isAbsolute then child
  else if p.text.isEmpty || p.text.toList.getLast? == some '/' then ⟨p.text ++ child.text⟩
  else ⟨p.text ++ "/" ++ child.text⟩

/-! ## Parts of a path -/

/-- The path without its last component. The root and the empty path have no parent. -/
def parent? (p : Path) : Option Path :=
  match p.pieces with
  | [] => if p.lead = .here then some ⟨""⟩ else none
  | pieces => some ⟨String.ofList (p.lead.chars ++ joinPieces (dropFillers pieces.dropLast))⟩

/-- The last component, if it is a name. -/
def fileName? (p : Path) : Option String :=
  match p.pieces.getLast? with
  | none => none
  | some piece => if piece == ['.', '.'] then none else some (String.ofList piece)

/-- The characters in front of the last dot, or all of them if the only dots are at the front. -/
def stemChars (name : List Char) : List Char :=
  match (name.reverse.dropWhile (· != '.')).tail.reverse with
  | [] => name
  | stem => stem

/-- The last component without its extension. -/
def fileStem? (p : Path) : Option String :=
  p.fileName?.map fun name => String.ofList (stemChars name.toList)

/-! ## Quoting -/

/-- A character of a quoted path. -/
def quoteChar : Char → List Char
  | '"' => ['\\', '"']
  | '\\' => ['\\', '\\']
  | '\n' => ['\\', 'n']
  | '\r' => ['\\', 'r']
  | '\t' => ['\\', 't']
  | c => [c]

/-- The path in double quotes, with quotes, backslashes and line ends escaped. -/
def quoted (p : Path) : String :=
  String.ofList ('"' :: p.text.toList.flatMap quoteChar ++ ['"'])

end Path

end AslBuild
