import AslBuild.Tools.Option
import AslBuild.Tools.Text
set_option autoImplicit false

/-!
# Comparing bytes

## Main definitions

* `AslBuild.Tools.Difference`, `AslBuild.Tools.difference?` — where two texts differ first.
* `AslBuild.Tools.cmp` — compare two files byte by byte.
-/

namespace AslBuild.Tools

open FileSystem Host Text

/-- Where two texts differ first. -/
inductive Difference
  /-- At a byte of a line, both counted from one on; the bytes are given. -/
  | at (byte line : Nat) (left right : Char)
  /-- One text ends behind so many bytes and so many line ends; whether it is the first one, and
  whether it ends with a line end. -/
  | ends (bytes lines : Nat) (first atLineEnd : Bool)

/-- Where two texts differ first, behind so many bytes and line ends that are the same. -/
def difference? (bytes lines : Nat) (atLineEnd : Bool) : List Char → List Char → Option Difference
  | [], [] => none
  | [], _ :: _ => some (.ends bytes lines true atLineEnd)
  | _ :: _, [] => some (.ends bytes lines false atLineEnd)
  | a :: as, b :: bs =>
    if a = b then
      difference? (bytes + 1) (if a = '\n' then lines + 1 else lines) (a = '\n') as bs
    else some (.at (bytes + 1) (lines + 1) a b)

/-- All bytes at which two texts differ, counted from one on. -/
def differences : Nat → List Char → List Char → List (Nat × Char × Char)
  | n, a :: as, b :: bs =>
    if a = b then differences (n + 1) as bs else (n + 1, a, b) :: differences (n + 1) as bs
  | _, _, _ => []

/-- The octal digits of a character, with blanks in front. -/
def octalOf (c : Char) : String := padLeft 3 (String.ofList (Nat.toDigits 8 c.toNat))

/-- The options of `cmp`. -/
def cmpChoices : Choices where
  letters := "bci:ln:sv"
  words := [("print-bytes", 'b'), ("print-chars", 'c'), ("ignore-initial", 'i'), ("verbose", 'l'),
    ("bytes", 'n'), ("silent", 's'), ("quiet", 's')]
  trouble := 2
  helpLead := "cmp: "

/-- The letters that may stand behind numbers of bytes. -/
def cmpSuffixes : String := "kKMGTPEZY0"

/-- What is said of a file that ends first. -/
def endMessage (verbose : Bool) (path : String) (bytes lines : Nat) (atLineEnd : Bool) : String :=
  "EOF on " ++ path ++
    if bytes = 0 then " which is empty"
    else " after byte " ++ toString bytes ++
      if verbose then ""
      else if atLineEnd then ", line " ++ toString lines
      else ", in line " ++ toString (lines + 1)

/-- The number of bytes that an argument spells; what is wrong with it is said of an option. -/
def cmpNumber (option whole text : String) : Task Nat := do
  match amount? cmpSuffixes text with
  | .ok n => pure n
  | .error _ => refuse cmpChoices ("invalid --" ++ option ++ " value '" ++ whole ++ "'")

/-- How many bytes of each file are passed over, as an option asks for it. -/
def cmpSkips (text : String) : Task (Nat × Nat) := do
  match text.splitOn ":" with
  | [a, b] => do
    pure (← cmpNumber "ignore-initial" text a, ← cmpNumber "ignore-initial" text b)
  | _ => do
    let n ← cmpNumber "ignore-initial" text text
    pure (n, n)

/-- The size of the file at a path, or of the input, if that is known. -/
def sizeOf? (path : String) : Task (Option Nat) := do
  let desk ← Act.read
  let entry ← if path = "-" then do
      match (← channelOf 0).map Channel.target with
      | some (.file loc) => pure (desk.machine.tree.get? loc)
      | _ => pure none
    else pure (← entryOf path)
  match entry with
  | some (.file contents _) => pure (some contents.length)
  | _ => pure none
where
  /-- What lies at a path. -/
  entryOf (path : String) : Task (Option Entry) := do
    pure (((← files).stat ⟨Raw.toText path⟩).toOption.map (·.2))

/-- Compare two files byte by byte. -/
def cmp : Tool := .ofTask fun args => do
  let g ← given cmpChoices args
  let skipped ← (g.values 'i').mapM cmpSkips
  let limits ← (g.values 'n').mapM fun text => cmpNumber "bytes" text text
  let verbose := g.has 'l'
  let shows := g.has 'b' || g.has 'c'
  if verbose && g.has 's' then refuse cmpChoices "options -l and -s are incompatible"
  match g.operands with
  | [] => refuse cmpChoices ("missing operand after 'cmp'")
  | left :: rest => do
    let right := rest.headD "-"
    let stated ← (rest.drop 1).take 2 |>.mapM fun text => cmpNumber "ignore-initial" text text
    match rest with
    | _ :: _ :: _ :: extra :: _ => refuse cmpChoices ("extra operand '" ++ extra ++ "'")
    | _ => pure ()
    let first := (skipped.map (·.1) ++ stated.take 1).foldl max 0
    let second := (skipped.map (·.2) ++ stated.drop 1).foldl max 0
    if left = "-" && right = "-" && first = second then quit 0
    let read (path : String) : Task (List Char) := do
      match ← textOf path with
      | .ok text => pure text.toList
      | .error e =>
        if g.has 's' then quit 2 else die 2 (path ++ ": " ++ reasonOf e)
    let limited (cs : List Char) : List Char := match limits with
      | [] => cs
      | n :: more => cs.take (more.foldl min n)
    let as := limited ((← read left).drop first)
    let bs := limited ((← read right).drop second)
    match difference? 0 0 true as bs with
    | none => pure ()
    | some d => do
      mark 1
      if g.has 's' then pure ()
      else
        if verbose then
          let sizes := [(← sizeOf? left).map (· - first), (← sizeOf? right).map (· - second)]
          let size := (sizes.filterMap id ++ limits).foldl min maxSize
          let width := (toString size).length
          (differences 0 as bs).forM fun (n, a, b) =>
            say (padLeft width (toString n) ++ " " ++
              (if shows then octalOf a ++ " " ++ padRight 4 (shownByte a) ++ " " ++ octalOf b ++
                " " ++ shownByte b
              else octalOf a ++ " " ++ octalOf b) ++ "\n")
        match d with
        | .at byte line a b =>
          if verbose then
            if as.length != bs.length then
              remark (endMessage true (if as.length < bs.length then left else right)
                (min as.length bs.length) 0 false)
          else
            say (left ++ " " ++ right ++ " differ: " ++ (if shows then "byte " else "char ") ++
              toString byte ++ ", line " ++ toString line ++
              (if shows then " is " ++ octalOf a ++ " " ++ shownByte a ++ " " ++ octalOf b ++ " " ++
                shownByte b
              else "") ++ "\n")
        | .ends bytes lines first atLineEnd =>
          remark (endMessage verbose (if first then left else right) bytes lines atLineEnd)
where
  /-- The size that a file has at most. -/
  maxSize : Nat := Nat.pow 2 63 - 1
  /-- A byte as it is shown. -/
  shownByte (c : Char) : String := if c = '\t' then "^I" else markedChar c

end AslBuild.Tools
