import AslBuild.Text.Decimal
import AslBuild.Tools.Task
set_option autoImplicit false

/-!
# Styles of dumps

A dump shows units of bytes as names of characters, as characters or as numbers. All units of a
style are equally wide, and rows of units of different sizes are spread so that they end at the same
place.

## Main definitions

* `AslBuild.Tools.FloatLayout` — how a floating-point number is laid out in bytes.
* `AslBuild.Tools.DumpStyle` — how units of bytes are shown.
* `AslBuild.Tools.DumpStyle.row` — a row of units.
* `AslBuild.Tools.dumpStyles` — the styles that a text spells.
-/

namespace AslBuild.Tools

open Text

/-! ## Floating-point numbers -/

/-- How a floating-point number is laid out: its sign, its exponent and its digits, the highest of
them first. -/
structure FloatLayout where
  /-- How many binary digits a number has. -/
  precision : Nat
  /-- How many bits hold the exponent. -/
  exponentBits : Nat
  /-- Whether the first binary digit is written, too. -/
  leading : Bool
  /-- How many decimal digits come back as they were from any number. -/
  digits : Nat
  /-- How wide the longest text of a number is. -/
  width : Nat
deriving DecidableEq

namespace FloatLayout

/-- Numbers of four bytes. -/
def single : FloatLayout := ⟨24, 8, false, 6, 15⟩

/-- Numbers of eight bytes. -/
def double : FloatLayout := ⟨53, 11, false, 15, 24⟩

/-- Numbers of sixteen bytes, of which ten are used. -/
def extended : FloatLayout := ⟨64, 15, true, 18, 29⟩

/-- How many binary places the smallest number has. -/
def places (l : FloatLayout) : Nat := Nat.pow 2 (l.exponentBits - 1) - 3 + l.precision

/-- Whether a decimal number is read as `m` of the smallest numbers. -/
def comesBack (l : FloatLayout) (m : Nat) (text : String) : Bool :=
  match Decimal.read text.toList with
  | some (d, _) =>
    let n :=
      if m < Nat.pow 2 (l.precision - 1) then Decimal.nearest (d.num * Nat.pow 2 l.places) d.den
      else
        let r := d.rounded l.precision
        r.num * Nat.pow 2 l.places / r.den
    n == m
  | none => false

/-- The text with the fewest digits, from `digits` of them, that is read as `m` of the smallest
numbers. At most so many numbers of digits are tried. -/
def shortest (l : FloatLayout) (m : Nat) : Nat → Nat → String
  | 0, digits => Decimal.general digits false { num := m, den := Nat.pow 2 l.places }
  | n + 1, digits =>
    let text := Decimal.general digits false { num := m, den := Nat.pow 2 l.places }
    if l.comesBack m text then text else shortest l m n (digits + 1)

/-- The text of the number that some bits spell. -/
def text (l : FloatLayout) (bits : Nat) : String :=
  let stored := if l.leading then l.precision else l.precision - 1
  let digits := bits % Nat.pow 2 stored
  let exponent := bits / Nat.pow 2 stored % Nat.pow 2 l.exponentBits
  let sign := if bits / Nat.pow 2 (stored + l.exponentBits) % 2 = 1 then "-" else ""
  let fraction := digits % Nat.pow 2 (l.precision - 1)
  if exponent + 1 = Nat.pow 2 l.exponentBits then
    sign ++ if fraction = 0 && (!l.leading || digits ≠ 0) then "inf" else "nan"
  else if l.leading && exponent ≠ 0 && digits = fraction then sign ++ "nan"
  else
    let m := if l.leading || exponent = 0 then digits else digits + Nat.pow 2 (l.precision - 1)
    let m := m * Nat.pow 2 (exponent - 1)
    sign ++ if m = 0 then "0"
      else l.shortest m 30 (if m < Nat.pow 2 (l.precision - 1) then 1 else l.digits)

end FloatLayout

/-! ## Units -/

/-- What units of bytes are shown as. -/
inductive DumpKind
  /-- Names of characters. -/
  | name
  /-- Characters. -/
  | char
  /-- Numbers in a base. -/
  | unsigned (base : Nat)
  /-- Numbers that may be negative. -/
  | signed
  /-- Floating-point numbers. -/
  | float (layout : FloatLayout)
deriving DecidableEq

/-- How units of bytes are shown. -/
structure DumpStyle where
  /-- As what. -/
  kind : DumpKind
  /-- How many bytes a unit has. -/
  size : Nat
  /-- Whether the characters are shown behind the row. -/
  withText : Bool := false
deriving DecidableEq

/-- How many digits the largest number of so many bytes has. -/
def unitDigits (base size : Nat) : Nat := (Nat.toDigits base (Nat.pow 256 size - 1)).length

/-- The width of a unit. -/
def DumpStyle.width (s : DumpStyle) : Nat :=
  match s.kind with
  | .name | .char => 3
  | .unsigned base => unitDigits base s.size
  | .signed => (toString (Nat.pow 256 s.size / 2)).length + 1
  | .float layout => layout.width

/-- The names of the characters that cannot be printed. -/
def controlNames : List String :=
  ["nul", "soh", "stx", "etx", "eot", "enq", "ack", "bel", "bs", "ht", "nl", "vt", "ff", "cr",
    "so", "si", "dle", "dc1", "dc2", "dc3", "dc4", "nak", "syn", "etb", "can", "em", "sub", "esc",
    "fs", "gs", "rs", "us", "sp"]

/-- The escapes of the characters that have one. -/
def charEscapes : List (Nat × String) :=
  [(0, "\\0"), (7, "\\a"), (8, "\\b"), (9, "\\t"), (10, "\\n"), (11, "\\v"), (12, "\\f"),
    (13, "\\r")]

/-- Digits with zeros in front of them up to a width. -/
def paddedDigits (base width n : Nat) : String :=
  let ds := Nat.toDigits base n
  String.ofList (List.replicate (width - ds.length) '0' ++ ds)

/-- A unit, the lowest byte of which comes first. -/
def DumpStyle.unit (s : DumpStyle) (bytes : List Nat) : String :=
  let value := bytes.foldr (fun b n => n * 256 + b) 0
  match s.kind with
  | .name =>
    let n := value % 128
    (controlNames[n]?).getD (if n = 127 then "del" else (Char.ofNat n).toString)
  | .char =>
    (charEscapes.lookup value).getD
      (if 0x20 ≤ value ∧ value < 0x7F then (Char.ofNat value).toString else paddedDigits 8 3 value)
  | .unsigned 10 => toString value
  | .unsigned base => paddedDigits base s.width value
  | .signed => toString (Int.bmod value (Nat.pow 256 s.size))
  | .float layout => layout.text value

/-! ## Rows -/

/-- The units of a row of bytes. Zeros stand for what the last one lacks. -/
def unitsOf (size : Nat) : Nat → List Nat → List (List Nat)
  | 0, _ => []
  | _, [] => []
  | n + 1, bytes =>
    let unit := bytes.take size
    (unit ++ List.replicate (size - unit.length) 0) :: unitsOf size n (bytes.drop size)

/-- How wide a full row is at least, with a blank in front of every unit. -/
def DumpStyle.rowWidth (s : DumpStyle) (perRow : Nat) : Nat := (s.width + 1) * (perRow / s.size)

/-- Units, which share the blanks that are left in a row: `spare` of them for `count` units, of
which `left` were not shared out when `k` units are to come. -/
def sharedBlanks (spare unitWidth count : Nat) : Nat → Nat → List String → String
  | _, _, [] => ""
  | left, k, u :: us =>
    let next := spare * (k - 1) / count
    padLeft (left - next + unitWidth) u ++ sharedBlanks spare unitWidth count next (k - 1) us

/-- A row of bytes in one style, in a row of a width. Where the bytes of a unit stand in the other
order, they are swapped. -/
def DumpStyle.row (s : DumpStyle) (swapped : Bool) (perRow width : Nat) (bytes : List Nat) :
    String :=
  let count := perRow / s.size
  let units := (unitsOf s.size bytes.length bytes).map fun unit =>
    s.unit (if swapped then unit.reverse else unit)
  let spare := width - s.width * count
  let shown := sharedBlanks spare s.width count spare count units
  let text := String.ofList (bytes.map fun b =>
    if 0x20 ≤ b ∧ b < 0x7F then Char.ofNat b else '.')
  let missing := count - units.length
  let blanks := missing * s.width + spare * missing / count
  shown ++
    if s.withText then String.ofList (List.replicate blanks ' ') ++ "  >" ++ text ++ "<" else ""

/-! ## Spelling -/

/-- Why a text spells no styles. -/
inductive DumpProblem
  /-- A character means nothing. -/
  | character (c : Char)
  /-- A number is out of all bounds. -/
  | malformed
  /-- There are no numbers of that size. -/
  | size (n : Nat) (floating : Bool)

/-- What is wrong with a text that spells no styles. -/
def DumpProblem.message (text : String) : DumpProblem → String
  | .character c => "invalid character '" ++ c.toString ++ "' in type string " ++ quoted text
  | .malformed => "invalid type string " ++ quoted text
  | .size n floating => "invalid type string " ++ quoted text ++
      ";\nthis system doesn't provide a " ++ toString n ++ "-byte " ++
      (if floating then "floating point" else "integral") ++ " type"

/-- The size that some characters start with, as a letter or as a number. -/
def sizeIn (letters : List (Char × Nat)) (sizes : List Nat) (usual : Nat) (cs : List Char) :
    Except DumpProblem (Nat × List Char) :=
  match cs.head?.bind fun c => letters.lookup c with
  | some size => .ok (size, cs.drop 1)
  | none =>
    let ds := cs.takeWhile Char.isDigit
    match digits? (String.ofList ds) with
    | none => .ok (usual, cs)
    | some size =>
      if Nat.pow 2 31 ≤ size then .error .malformed
      else if sizes.contains size then .ok (size, cs.drop ds.length)
      else .error (.size size (sizes.contains 16))

/-- What a style shows units as, their size, and what follows it. -/
def dumpKindIn : List Char → Except DumpProblem (DumpKind × Nat × List Char)
  | [] => .error .malformed
  | c :: cs =>
    let whole (kind : DumpKind) : Except DumpProblem (DumpKind × Nat × List Char) :=
      (sizeIn [('C', 1), ('S', 2), ('I', 4), ('L', 8)] [1, 2, 4, 8] 4 cs).map (kind, ·)
    match c with
    | 'a' => .ok (.name, 1, cs)
    | 'c' => .ok (.char, 1, cs)
    | 'd' => whole .signed
    | 'o' => whole (.unsigned 8)
    | 'u' => whole (.unsigned 10)
    | 'x' => whole (.unsigned 16)
    | 'f' =>
      (sizeIn [('F', 4), ('D', 8), ('L', 16)] [4, 8, 16] 8 cs).map fun (size, rest) =>
        (.float (if size = 4 then .single else if size = 8 then .double else .extended), size, rest)
    | c => .error (.character c)

/-- The styles that a text spells. At most so many are read. -/
def dumpStyles : Nat → List Char → Except DumpProblem (List DumpStyle)
  | 0, _ => .ok []
  | _, [] => .ok []
  | n + 1, cs => do
    let (kind, size, rest) ← dumpKindIn cs
    let withText := rest.head? == some 'z'
    let more ← dumpStyles n (if withText then rest.drop 1 else rest)
    .ok (⟨kind, size, withText⟩ :: more)

end AslBuild.Tools
