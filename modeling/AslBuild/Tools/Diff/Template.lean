import AslBuild.Text.Template
import AslBuild.Tools.Diff.Lines
set_option autoImplicit false

/-!
# Templates for two texts

One template tells how runs of lines are shown that one text has, or the other one, or both; another
one tells how each line in them is shown.

## Main definitions

* `AslBuild.Tools.Diff.Templates` — the templates.
* `AslBuild.Tools.Diff.Templates.group` — a run of lines.
* `AslBuild.Tools.Diff.merged` — both texts.
-/

namespace AslBuild.Tools.Diff

open Text

/-- Which texts have lines. -/
inductive Kind
  | both
  | first
  | second
  | changed
deriving DecidableEq

/-- The templates for runs of lines, and for lines. -/
structure Templates where
  /-- The templates for runs of lines, as far as there are any. -/
  groups : List (Kind × String) := []
  /-- The templates for lines, as far as there are any. -/
  lines : List (Kind × String) := []

namespace Templates

/-- The template for lines. -/
def line (t : Templates) (k : Kind) : String := (t.lines.lookup k).getD "%l\n"

/-- The template for runs of lines. -/
def group (t : Templates) (k : Kind) : String :=
  match t.groups.lookup k with
  | some text => text
  | none =>
    let one (k : Kind) (sign : String) : String :=
      (t.groups.lookup k).getD ((t.groups.lookup .changed).getD sign)
    match k with
    | .both => "%="
    | .first => one .first "%<"
    | .second => one .second "%>"
    | .changed => one .first "%<" ++ one .second "%>"

/-- Whether nothing is shown of lines that both texts have. -/
def hidesShared (t : Templates) : Bool :=
  (t.group .both).isEmpty || (t.group .both == "%=" && (t.line .both).isEmpty)

/-- The templates that put conditions on a name around lines. -/
def ofName (name : String) : Templates where
  groups := [(.both, "%="),
    (.first, "#ifndef " ++ name ++ "\n%<#endif /* ! " ++ name ++ " */\n"),
    (.second, "#ifdef " ++ name ++ "\n%>#endif /* " ++ name ++ " */\n"),
    (.changed, "#ifndef " ++ name ++ "\n%<#else /* " ++ name ++ " */\n%>#endif /* " ++ name ++
      " */\n")]

end Templates

/-! ## Parts of templates -/

/-- A number as a directive asks for it, given the numbers that letters stand for, and what follows
the directive. -/
def numberField (value? : Char → Option Int) (cs : List Char) : Option (String × List Char) :=
  let isFlag (c : Char) : Bool := c == '-' || c == '\'' || c == '0'
  let flags := cs.takeWhile isFlag
  let cs := cs.drop flags.length
  let width := cs.takeWhile Char.isDigit
  let cs := cs.drop width.length
  let (precision, cs) : Option Nat × List Char := match cs with
    | '.' :: cs =>
      let ds := cs.takeWhile Char.isDigit
      (some ((String.ofList ds).toNat?.getD 0), cs.drop ds.length)
    | cs => (none, cs)
  let d : Template.Directive :=
    { flags := flags.filter (· != '\''), width := (String.ofList width).toNat?.getD 0, precision }
  match cs with
  | c :: letter :: rest =>
    match value? letter, c with
    | some n, 'd' => some (d.signed n, rest)
    | some n, 'o' => some (d.unsigned 8 false n, rest)
    | some n, 'x' => some (d.unsigned 16 false n, rest)
    | some n, 'X' => some (d.unsigned 16 true n, rest)
    | _, _ => none
  | _ => none

/-- A character as a directive asks for it, and what follows the directive. -/
def charField : List Char → Option (String × List Char)
  | 'c' :: '\'' :: '\\' :: cs =>
    let ds := cs.takeWhile (· != '\'')
    let isOctal (c : Char) : Bool := '0' ≤ c && c ≤ '7'
    let value := ds.foldl (fun n c => n * 8 + (c.toNat - '0'.toNat)) 0
    if ds.isEmpty || 3 < ds.length || !ds.all isOctal || ds.length = cs.length then none
    else some ((Char.ofNat (value % 256)).toString, cs.drop (ds.length + 1))
  | 'c' :: '\'' :: c :: '\'' :: cs => if c = '\'' then none else some (c.toString, cs)
  | _ => none

/-- A line as a template asks for it. At most so many characters of the template are read. -/
def lineField (look : Look) (number : Nat) (line : String) : Nat → List Char → String
  | n + 1, '%' :: cs =>
    match cs with
    | '%' :: cs => "%" ++ lineField look number line n cs
    | 'l' :: cs => look.body "" line ++ lineField look number line n cs
    | 'L' :: cs => look.whole line ++ lineField look number line n cs
    | cs =>
      let value? (c : Char) : Option Int := if c = 'n' then some number else none
      match charField cs <|> numberField value? cs with
      | some (text, rest) => text ++ lineField look number line n rest
      | none => "%" ++ lineField look number line n cs
  | n + 1, c :: cs => c.toString ++ lineField look number line n cs
  | _, _ => ""

/-- A run of lines: the first one of each text, and the one behind the last one. -/
structure Lot where
  start : Nat
  stop : Nat
  startRight : Nat
  stopRight : Nat

/-- The number that a letter stands for. -/
def Lot.value? (r : Lot) : Char → Option Int
  | 'e' => some r.start
  | 'f' => some (r.start + 1)
  | 'l' => some r.stop
  | 'm' => some (r.stop + 1)
  | 'n' => some (r.stop - r.start)
  | 'E' => some r.startRight
  | 'F' => some (r.startRight + 1)
  | 'L' => some r.stopRight
  | 'M' => some (r.stopRight + 1)
  | 'N' => some (r.stopRight - r.startRight)
  | _ => none

/-- A number or a letter that stands for one, the sign behind it, and the rest. -/
def Lot.term (r : Lot) (sign : Char) (cs : List Char) : Option (Int × List Char) :=
  let ds := cs.takeWhile Char.isDigit
  let found : Option (Int × List Char) :=
    if ds.isEmpty then match cs with
      | c :: cs => (r.value? c).map (·, cs)
      | [] => none
    else some (((String.ofList ds).toNat?.getD 0 : Nat), cs.drop ds.length)
  match found with
  | some (n, c :: rest) => if c = sign then some (n, rest) else none
  | _ => none

/-- The condition of a directive, and what follows it. -/
def Lot.condition (r : Lot) (cs : List Char) : Option (Bool × List Char) := do
  let (a, cs) ← r.term '=' cs
  let (b, cs) ← r.term '?' cs
  some (a == b, cs)

/-- What a template shows up to a sign, and what follows from there on. `lines` are those that the
signs for them stand for. At most so many characters are read. -/
def groupField (r : Lot) (lines : Char → Option String) (stop : Option Char) :
    Nat → List Char → String × List Char
  | 0, cs => ("", cs)
  | _, [] => ("", [])
  | n + 1, c :: cs =>
    let put (text : String) (cs : List Char) : String × List Char :=
      let (more, rest) := groupField r lines stop n cs
      (text ++ more, rest)
    if some c = stop then ("", c :: cs)
    else if c != '%' then put c.toString cs
    else match cs with
      | [] => ("%", [])
      | '%' :: cs => put "%" cs
      | d :: ds =>
        match lines d with
        | some text => put text ds
        | none =>
          match if d = '(' then r.condition ds else none with
          | some (holds, ds) =>
            let (yes, rest) := groupField r lines (some ':') n ds
            let (no, rest) := groupField r lines (some ')') n (rest.drop 1)
            put (if holds then yes else no) (rest.drop 1)
          | none =>
            match charField cs <|> numberField r.value? cs with
            | some (text, rest) => put text rest
            | none => put "%" cs

/-! ## Both texts -/

/-- A run of lines as its template asks for it. -/
def Templates.shown (t : Templates) (look : Look) (as bs : Array String) (k : Kind) (r : Lot) :
    String :=
  let part (k : Kind) (lines : Array String) (start stop : Nat) : String :=
    String.join ((lines.extract start stop).toList.zipIdx.map fun (line, i) =>
      lineField look (start + i + 1) line ((t.line k).length + 1) (t.line k).toList)
  let lines (c : Char) : Option String := match c with
    | '<' => some (part .first as r.start r.stop)
    | '=' => some (part .both as r.start r.stop)
    | '>' => some (part .second bs r.startRight r.stopRight)
    | _ => none
  let template := (t.group k).toList
  (groupField r lines none (2 * template.length + 1) template).1

/-- Which texts have the lines of a hunk. -/
def Kind.of (h : Hunk) : Kind :=
  if h.left.isEmpty then .second else if h.right.isEmpty then .first else .changed

/-- Both texts from a line of each on. -/
def merged (t : Templates) (look : Look) (as bs : Array String) : Nat → Nat → List Hunk → String
  | i, j, [] =>
    if i < as.size ∨ j < bs.size then t.shown look as bs .both ⟨i, as.size, j, bs.size⟩ else ""
  | i, j, h :: hs =>
    if look.isTrivial [h] then merged t look as bs i j hs
    else
      (if i < h.before ∨ j < h.beforeRight then
        t.shown look as bs .both ⟨i, h.before, j, h.beforeRight⟩ else "") ++
      t.shown look as bs (.of h)
        ⟨h.before, h.before + h.left.length, h.beforeRight, h.beforeRight + h.right.length⟩ ++
      merged t look as bs (h.before + h.left.length) (h.beforeRight + h.right.length) hs

end AslBuild.Tools.Diff
