set_option autoImplicit false

/-!
# Changes of modes

A mode has three bits for the owner, three for the group and three for the others: to read, to write
and to execute; and three more in front of them. A change is given as an octal number, or in
letters: who, whether bits are added, taken away or set, and which.

## Main definitions

* `AslBuild.FileSystem.Permission.Clause` — one change.
* `AslBuild.FileSystem.Permission.read?` — the change that a text spells.
-/

namespace AslBuild.FileSystem.Permission

/-- Which bits a change is about. -/
inductive Bits
  /-- These. -/
  | these (bits : Nat)
  /-- These, and those to execute if it is a directory or somebody may execute it already. -/
  | orExecute (bits : Nat)
  /-- Those of these that are set, for everyone. -/
  | copied (bits : Nat)
deriving DecidableEq

/-- One change. -/
structure Clause where
  /-- The bits of those who are meant; none if nobody is named. -/
  who : Nat
  /-- What is done with the bits: `+`, `-` or `=`. -/
  sign : Char
  /-- The bits. -/
  bits : Bits
  /-- The bits that the change speaks of, which are those that it may change in a directory even
  where they say as whom programs run. -/
  named : Nat
deriving DecidableEq

/-- All bits of a mode. -/
def allBits : Nat := 0o7777

/-- The bits of a letter for those who are meant. -/
def whoBits : Char → Nat
  | 'u' => 0o4700
  | 'g' => 0o2070
  | 'o' => 0o1007
  | _ => allBits

/-- The bits of a letter, for everyone. -/
def letterBits : Char → Nat
  | 'r' => 0o444
  | 'w' => 0o222
  | 'x' => 0o111
  | 's' => 0o6000
  | 't' => 0o1000
  | _ => 0

/-- A mode without some bits. -/
def without (mode bits : Nat) : Nat := mode - (mode &&& bits)

/-- Bits for everyone, if anyone has them. -/
def spread (bits : Nat) : Nat :=
  (if bits &&& 0o444 != 0 then 0o444 else 0) ||| (if bits &&& 0o222 != 0 then 0o222 else 0) |||
    if bits &&& 0o111 != 0 then 0o111 else 0

/-- A mode after a change. If nobody is named, the masked bits stay as they are. -/
def Clause.apply (mask : Nat) (isDir : Bool) (mode : Nat) (c : Clause) : Nat :=
  let kept := if isDir then without 0o6000 c.named else 0
  let bits := match c.bits with
    | .these bits => bits
    | .orExecute bits => if isDir || mode &&& 0o111 != 0 then bits ||| 0o111 else bits
    | .copied bits => spread (bits &&& mode)
  let bits := without (bits &&& if c.who = 0 then without allBits mask else c.who) kept
  match c.sign with
  | '+' => mode ||| bits
  | '-' => without mode bits
  | _ =>
    let preserved := (if c.who = 0 then 0 else without allBits c.who) ||| kept
    (mode &&& preserved) ||| bits

/-- The number that octal digits spell, unless it is more than all bits. -/
def octal? (s : String) : Option Nat :=
  let cs := s.toList
  if !cs.isEmpty && cs.all fun c => '0' ≤ c && c ≤ '7' then
    let n := cs.foldl (fun n c => 8 * n + (c.toNat - 48)) 0
    if n ≤ allBits then some n else none
  else none

/-- The signs and letters behind the letters for those who are meant. At most so many are read. -/
def readActions (who : Nat) : Nat → List Char → Option (List Clause)
  | 0, _ => none
  | _, [] => some []
  | n + 1, sign :: cs =>
    let action (bits : Bits) (spoken : Nat) (rest : List Char) : Option (List Clause) :=
      let named := if who = 0 then spoken else who &&& spoken
      (readActions who n rest).map fun more => ⟨who, sign, bits, named⟩ :: more
    if !(sign == '+' || sign == '-' || sign == '=') then none
    else match cs with
      | 'u' :: rest => action (.copied 0o700) 0o700 rest
      | 'g' :: rest => action (.copied 0o070) 0o070 rest
      | 'o' :: rest => action (.copied 0o007) 0o007 rest
      | _ =>
        if cs.head?.any fun c => '0' ≤ c && c ≤ '7' then
          if who = 0 then
            (octal? (String.ofList cs)).map fun n => [⟨allBits, sign, .these n, allBits⟩]
          else none
        else
          let letters := cs.takeWhile fun c => "rwxXst".toList.contains c
          let bits := letters.foldl (fun b l => b ||| letterBits l) 0
          action (if letters.contains 'X' then .orExecute bits else .these bits) bits
            (cs.drop letters.length)

/-- The changes that a text without commas spells. -/
def readClause? (cs : List Char) : Option (List Clause) :=
  let letters := cs.takeWhile fun c => "ugoa".toList.contains c
  let actions := cs.drop letters.length
  if actions.isEmpty then none
  else readActions (letters.foldl (fun b l => b ||| whoBits l) 0) (actions.length + 1) actions

/-- The changes that a text spells. A number of less than five digits leaves the bits of a directory
alone that say as whom programs run, but for those that it sets. -/
def clauses? (s : String) : Option (List Clause) :=
  if s.toList.head?.any fun c => '0' ≤ c && c ≤ '7' then
    (octal? s).map fun n =>
      let named := if s.length < 5 then (n &&& 0o6000) ||| 0o1777 else allBits
      [⟨allBits, '=', .these n, named⟩]
  else (((s.splitOn ",").mapM fun part => readClause? part.toList)).map List.flatten

/-- The change that a text spells: from whether it is a directory, and its mode, to the new mode. -/
def read? (mask : Nat) (s : String) : Option (Bool → Nat → Nat) :=
  (clauses? s).map fun clauses isDir mode => clauses.foldl (Clause.apply mask isDir) mode

/-- The letters of the three bits for one kind of user. -/
def triple (bits : Nat) : String :=
  (if bits.testBit 2 then "r" else "") ++ (if bits.testBit 1 then "w" else "") ++
    (if bits.testBit 0 then "x" else "")

/-- A mode in letters, as a long listing shows it. -/
def listed (kind : Char) (mode : Nat) : String :=
  let three (bits : Nat) (special : Bool) (letter : Char) : List Char :=
    [if bits.testBit 2 then 'r' else '-', if bits.testBit 1 then 'w' else '-',
      if special then (if bits.testBit 0 then letter else letter.toUpper)
      else if bits.testBit 0 then 'x' else '-']
  String.ofList (kind :: three (mode >>> 6) (mode.testBit 11) 's' ++
    three (mode >>> 3) (mode.testBit 10) 's' ++ three mode (mode.testBit 9) 't')

end AslBuild.FileSystem.Permission
