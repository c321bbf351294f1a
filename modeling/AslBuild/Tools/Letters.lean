import AslBuild.Tools.Amount
import AslBuild.Tools.Text
set_option autoImplicit false

/-!
# Letters for bytes

Bytes can be written as letters that stand for some bits each. Letters come in groups that hold whole
bytes; where the last group lacks some, a sign stands for each of those.

## Main definitions

* `AslBuild.Tools.Lettering` — how bytes are written as letters.
* `AslBuild.Tools.Lettering.encode`, `AslBuild.Tools.Lettering.decode` — bytes as letters, and back.
* `AslBuild.Tools.base64`, `AslBuild.Tools.base32`, `AslBuild.Tools.basenc` — write files so, or
  read them.
-/

namespace AslBuild.Tools

open FileSystem Host Text

/-! ## Writing and reading -/

/-- How bytes are written as letters. -/
structure Lettering where
  /-- The letters, in the order of what they stand for. -/
  letters : List Char
  /-- How many bits a letter stands for. -/
  bits : Nat
  /-- How many letters a group has. -/
  group : Nat
  /-- The order of the bits in a byte: whether the lowest comes first. -/
  lowFirst : Bool := false

namespace Lettering

/-- Digits and capital letters. -/
def capitals : List Char := "ABCDEFGHIJKLMNOPQRSTUVWXYZ".toList

/-- The digits. -/
def decimals : List Char := "0123456789".toList

/-- Six bits per letter, with two last letters of choice. -/
def six (last : String) : Lettering :=
  ⟨capitals ++ capitals.map Char.toLower ++ decimals ++ last.toList, 6, 4, false⟩

/-- Five bits per letter: letters in front of digits. -/
def five : Lettering := ⟨capitals ++ "234567".toList, 5, 8, false⟩

/-- Five bits per letter: digits in front of letters. -/
def fiveInOrder : Lettering := ⟨decimals ++ capitals.take 22, 5, 8, false⟩

/-- Four bits per letter. -/
def four : Lettering := ⟨decimals ++ capitals.take 6, 4, 2, false⟩

/-- A letter for every bit. -/
def one (lowFirst : Bool) : Lettering := ⟨['0', '1'], 1, 8, lowFirst⟩

/-- The bits of a number, of which there are `n`, the highest first. -/
def bitsOf (n value : Nat) : List Bool := (List.range n).reverse.map value.testBit

/-- The number that some bits spell, the highest first. -/
def ofBits (bits : List Bool) : Nat := bits.foldl (fun n b => n * 2 + b.toNat) 0

/-- Bits in pieces of a length; zeros fill the last of them up. At most so many are made. -/
def pieces (size : Nat) : Nat → List Bool → List (List Bool)
  | 0, _ => []
  | _, [] => []
  | n + 1, bits =>
    let piece := bits.take size
    (piece ++ List.replicate (size - piece.length) false) :: pieces size n (bits.drop size)

/-- The bits of a byte, in their order. -/
def bitsOfByte (l : Lettering) (byte : Nat) : List Bool :=
  if l.lowFirst then (bitsOf 8 byte).reverse else bitsOf 8 byte

/-- The letters for some bytes. -/
def encode (l : Lettering) (bytes : List Nat) : List Char :=
  let bits := bytes.flatMap l.bitsOfByte
  let letters := (pieces l.bits bits.length bits).map fun p => (l.letters[ofBits p]?).getD '='
  letters ++ List.replicate ((l.group - letters.length % l.group) % l.group) '='

/-- The bytes that some letters of one group stand for together. -/
def bytesOf (l : Lettering) (cs : List Char) : List Nat :=
  let bits := cs.flatMap fun c => bitsOf l.bits ((l.letters.idxOf? c).getD 0)
  ((pieces 8 bits.length bits).take (cs.length * l.bits / 8)).map fun p =>
    ofBits (if l.lowFirst then p.reverse else p)

/-- Whether so many letters can stand in a last group. -/
def fills (l : Lettering) (n : Nat) : Bool :=
  0 < n && (n * l.bits) % 8 < l.bits

/-- The bytes that some letters stand for, and whether all of them make sense. At most so many groups
are read. -/
def decode (l : Lettering) : Nat → List Char → List Nat × Bool
  | 0, cs => ([], cs.isEmpty)
  | n + 1, cs =>
    if cs.isEmpty then ([], true)
    else
      let group := cs.take l.group
      let letters := group.takeWhile l.letters.contains
      let padded := group.length == l.group && l.fills letters.length &&
        (group.drop letters.length).all (· == '=')
      if padded then
        let (more, good) := decode l n (cs.drop l.group)
        (l.bytesOf letters ++ more, good)
      else (if l.bits = 6 then l.bytesOf letters else [], false)

end Lettering

/-! ## Tools -/

/-- Characters in lines of a width. At most so many lines are made. -/
def wrapped (width : Nat) : Nat → List Char → String
  | 0, _ => ""
  | _, [] => ""
  | n + 1, cs => String.ofList (cs.take width) ++ "\n" ++ wrapped width n (cs.drop width)

/-- The options that go with any letters. -/
def letterWords : List (String × Char) :=
  [("decode", 'd'), ("wrap", 'w'), ("ignore-garbage", 'i')]

/-- Show bytes as letters, or letters as bytes. -/
def relettered (l : Lettering) (g : Given) : Task Unit := do
  let width ← match g.value? 'w' with
    | none => pure 76
    | some text =>
      match amountIn 10 "" text with
      | .ok n => pure n
      | .error .tooLarge => pure 0
      | .error _ => die 1 ("invalid wrap size: " ++ quoted text)
  let path ← match g.operands with
    | [] => pure "-"
    | [path] => pure path
    | _ :: extra :: _ => misuse 1 ("extra operand " ++ quoted extra)
  match ← textOf path with
  | .error e =>
    die 1 ((if e = .os .isDirectory then "read error" else quotedIfOdd path) ++ ": " ++ reasonOf e)
  | .ok text =>
    if g.has 'd' then
      let (bytes, good) := l.decode (text.length + 1) (text.toList.filter fun c =>
        c != '\n' && (!g.has 'i' || c == '=' || l.letters.contains c))
      say (String.ofList (bytes.map Char.ofNat))
      if !good then die 1 "invalid input"
    else
      let cs := l.encode (text.toList.map Char.toNat)
      say (if width = 0 then String.ofList cs else wrapped width (cs.length + 1) cs)

/-- Show bytes as letters that stand for six bits each, or such letters as bytes. -/
def base64 : Tool := .ofTask fun args => do
  relettered (.six "+/") (← given { letters := "diw:", words := letterWords } args)

/-- Show bytes as letters that stand for five bits each, or such letters as bytes. -/
def base32 : Tool := .ofTask fun args => do
  relettered .five (← given { letters := "diw:", words := letterWords } args)

/-- The letters that options ask for. -/
def letterings : List (Char × Lettering) :=
  [('6', .six "+/"), ('u', .six "-_"), ('3', .five), ('h', .fiveInOrder), ('x', .four),
    ('m', .one false), ('l', .one true)]

/-- Show bytes as letters of choice, or such letters as bytes. -/
def basenc : Tool := .ofTask fun args => do
  let words := [("base64:", '6'), ("base64url:", 'u'), ("base32:", '3'), ("base32hex:", 'h'),
    ("base16:", 'x'), ("base2msbf:", 'm'), ("base2lsbf:", 'l')]
  let g ← given { letters := "diw:", words := letterWords ++ words.map fun (w, c) =>
    ((w.dropEnd 1).toString, c) } args
  match g.last? (letterings.map (·.1)) with
  | some c => relettered ((letterings.lookup c).getD .four) g
  | none => misuse 1 "missing encoding type"

end AslBuild.Tools
