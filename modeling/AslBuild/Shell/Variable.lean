import AslBuild.Text.Quoting
set_option autoImplicit false

/-!
# Variables of a shell

A variable has a text, or, in the language with extensions, a list or a table of texts.

## Main definitions

* `AslBuild.Shell.Value` — the value of a variable.
* `AslBuild.Shell.Style` — what becomes of the values that it is set to.
* `AslBuild.Shell.Variable` — a variable.
* `AslBuild.Shell.withItem` — a value with one of its items set.
* `AslBuild.Shell.declaration` — a variable as the declaration that makes it.
-/

namespace AslBuild.Shell

open Text

/-! ## What they are -/

/-- The value of a variable. -/
inductive Value
  /-- A text. -/
  | text (s : String)
  /-- A list, each item of which has a number. They are in the order of their numbers. -/
  | list (items : List (Nat × String))
  /-- A table, each item of which has a name. -/
  | table (items : List (String × String))
deriving DecidableEq

/-- What becomes of the values that a variable is set to. -/
inductive Style
  /-- They stay as they are. -/
  | plain
  /-- They are calculated. -/
  | integer
  /-- They are put in large letters. -/
  | upper
  /-- They are put in small letters. -/
  | lower
  /-- They are put in small letters, but for a large one at their start. -/
  | capital
deriving DecidableEq

/-- A variable. -/
structure Variable where
  /-- Its value, if it has one. -/
  value : Option Value
  /-- Whether commands are started with it. -/
  exported : Bool := false
  /-- Whether it must not be set. -/
  locked : Bool := false
  /-- What becomes of its values. -/
  style : Style := .plain
  /-- Whether its value is the name of the variable that is meant. -/
  refers : Bool := false
  /-- Whether it is a list or a table that was declared and not set since. -/
  bare : Bool := false

/-! ## Values -/

/-- The text of a value: of a list, that of its first item. -/
def Value.text? : Value → Option String
  | .text t => some t
  | .list items => items.lookup 0
  | .table items => items.lookup "0"

/-- The place of a key in the order of a table. -/
def Value.tablePlace (key : String) : Nat :=
  key.toList.foldl (fun h c => (h * 16777619 % 4294967296) ^^^ c.toNat) 2166136261 % 1024

/-- The items of a table in the order in which they are listed. -/
def Value.inTableOrder (items : List (String × String)) : List (String × String) :=
  items.reverse.mergeSort fun a b => Value.tablePlace a.1 ≤ Value.tablePlace b.1

/-- A list of items with one of them set. -/
def setItem (items : List (Nat × String)) (n : Nat) (value : String) : List (Nat × String) :=
  match items with
  | [] => [(n, value)]
  | (m, old) :: rest =>
    if m < n then (m, old) :: setItem rest n value
    else if m = n then (n, value) :: rest
    else (n, value) :: (m, old) :: rest

/-- A table with an item set. -/
def setEntry (items : List (String × String)) (key value : String) : List (String × String) :=
  if items.any (·.1 == key) then items.map fun i => if i.1 == key then (key, value) else i
  else items ++ [(key, value)]

/-- The value of a variable with an item of a list set. -/
def withItem (old : Option Value) (subscript : String) (value : String) : Value :=
  match old with
  | some (.table items) => .table (setEntry items subscript value)
  | some (.list items) => .list (setItem items (subscript.toNat?.getD 0) value)
  | some (.text t) =>
    .list (setItem [(0, t)] (subscript.toNat?.getD 0) value)
  | none => .list [(subscript.toNat?.getD 0, value)]

/-- A value as a variable of a style takes it, but for calculations. -/
def Style.shape (style : Style) (value : String) : String :=
  match style with
  | .upper => String.ofList (value.toList.map Char.toUpper)
  | .lower => String.ofList (value.toList.map Char.toLower)
  | .capital => String.ofList (match value.toList with
    | [] => []
    | c :: cs => c.toUpper :: cs.map Char.toLower)
  | _ => value

/-! ## Declarations -/

/-- The letters of the marks of a variable. -/
def marksOf (v : Variable) : String :=
  let when (b : Bool) (text : String) : String := if b then text else ""
  let kind := match v.value with
    | some (.list _) => "a"
    | some (.table _) => "A"
    | _ => ""
  kind ++ when (v.style == .integer) "i" ++ when v.refers "n" ++ when v.locked "r" ++
    when v.exported "x" ++ match v.style with
      | .upper => "u"
      | .lower => "l"
      | .capital => "c"
      | _ => ""

/-- A list or a table as it is put in a declaration. -/
def itemsText (v : Value) : String :=
  let item (key text : String) : String := "[" ++ key ++ "]=" ++ Quoting.full Quoting.double text
  let keyText (text : String) : String :=
    if text.isEmpty || Quoting.hasSigns true text.toList then Quoting.full Quoting.double text
    else text
  match v with
  | .text t => Quoting.full Quoting.double t
  | .list items => "(" ++ " ".intercalate (items.map fun i => item (toString i.1) i.2) ++ ")"
  | .table items => "(" ++ String.join
      ((Value.inTableOrder items).map fun i => item (keyText i.1) i.2 ++ " ") ++ ")"

/-- A variable as the declaration that makes it. -/
def declaration (name : String) (v : Variable) : String :=
  let marks := marksOf v
  let value := match v.value with
    | some value => if v.bare then "" else "=" ++ itemsText value
    | none => ""
  "declare -" ++ (if marks.isEmpty then "-" else marks) ++ " " ++ name ++ value

end AslBuild.Shell
