set_option autoImplicit false

/-!
# Quoted texts

A text in JSON stands between quotes, with quotes, backslashes and control characters escaped. The
four digits of an escape give a unit of UTF-16, so that it takes two of them for a character above
`FFFF`, and an escape may give half of such a pair with no other half beside it. What is read is
therefore a list of units first, and a text only if every half has its other half.

## Main definitions

* `AslBuild.Json.quote` — a text between quotes.
* `AslBuild.Json.readUnits` — the units up to the closing quote.
* `AslBuild.Json.textOf?` — the text that some units spell.

## Main results

* `AslBuild.Json.readUnits_quoted` — what was written between quotes is read back as units.
* `AslBuild.Json.textOf?_units` — the units of a text spell that text.
-/

namespace AslBuild.Json

/-! ## Writing -/

/-- A hexadecimal digit, in lower case. -/
def hexDigit (n : Nat) : Char := if n < 10 then Char.ofNat (n + 48) else Char.ofNat (n + 87)

/-- A character between quotes. Control characters are escaped, by a letter if they have one. -/
def quoteChar (c : Char) : List Char :=
  if c = '"' then ['\\', '"']
  else if c = '\\' then ['\\', '\\']
  else if c.toNat = 0x08 then ['\\', 'b']
  else if c.toNat = 0x0C then ['\\', 'f']
  else if c.toNat = 0x0A then ['\\', 'n']
  else if c.toNat = 0x0D then ['\\', 'r']
  else if c.toNat = 0x09 then ['\\', 't']
  else if c.toNat < 0x20 then
    ['\\', 'u', '0', '0', hexDigit (c.toNat / 16), hexDigit (c.toNat % 16)]
  else [c]

/-- A text between quotes. -/
def quote (s : String) : String := String.ofList ('"' :: s.toList.flatMap quoteChar ++ ['"'])

/-! ## Reading -/

/-- The value of a hexadecimal digit. -/
def hexValue? (c : Char) : Option Nat :=
  let n := c.toNat
  if 48 ≤ n ∧ n ≤ 57 then some (n - 48)
  else if 97 ≤ n ∧ n ≤ 102 then some (n - 87)
  else if 65 ≤ n ∧ n ≤ 70 then some (n - 55)
  else none

/-- The value of four hexadecimal digits. -/
def hexUnit? (a b c d : Char) : Option Nat := do
  let a ← hexValue? a
  let b ← hexValue? b
  let c ← hexValue? c
  let d ← hexValue? d
  some (((a * 16 + b) * 16 + c) * 16 + d)

/-- What a letter after a backslash stands for. -/
def escaped? (c : Char) : Option Nat :=
  if c = '"' then some 0x22
  else if c = '\\' then some 0x5C
  else if c = '/' then some 0x2F
  else if c = 'b' then some 0x08
  else if c = 'f' then some 0x0C
  else if c = 'n' then some 0x0A
  else if c = 'r' then some 0x0D
  else if c = 't' then some 0x09
  else none

/-- Put a unit in front of those that were read. -/
def consUnit (n : Nat) (r : List Nat × List Char) : List Nat × List Char := (n :: r.1, r.2)

/-- The units up to the closing quote, and what follows it. A character that is not escaped counts
as one unit, whatever its size; control characters have to be escaped. -/
def readUnits : List Char → Option (List Nat × List Char)
  | [] => none
  | '"' :: rest => some ([], rest)
  | '\\' :: 'u' :: a :: b :: c :: d :: rest =>
    match hexUnit? a b c d with
    | some n => (readUnits rest).map (consUnit n)
    | none => none
  | '\\' :: c :: rest =>
    match escaped? c with
    | some n => (readUnits rest).map (consUnit n)
    | none => none
  | c :: rest =>
    if c = '\\' ∨ c.toNat < 0x20 then none else (readUnits rest).map (consUnit c.toNat)

/-- Whether a unit is the first half of a pair. -/
def isHigh (n : Nat) : Bool := 0xD800 ≤ n && n ≤ 0xDBFF

/-- Whether a unit is the second half of a pair. -/
def isLow (n : Nat) : Bool := 0xDC00 ≤ n && n ≤ 0xDFFF

/-- The characters that some units spell, if no half of a pair stands alone. -/
def textOf? : List Nat → Option (List Char)
  | [] => some []
  | n :: rest =>
    if isHigh n then
      match rest with
      | m :: rest =>
        if isLow m then
          (textOf? rest).map (Char.ofNat (0x10000 + (n - 0xD800) * 0x400 + (m - 0xDC00)) :: ·)
        else none
      | [] => none
    else if isLow n then none
    else (textOf? rest).map (Char.ofNat n :: ·)

/-! ## Reading back -/

theorem hexUnit?_control (n : Nat) (h : n < 0x20) :
    hexUnit? '0' '0' (hexDigit (n / 16)) (hexDigit (n % 16)) = some n := by
  have : ∀ m : Fin 0x20,
      hexUnit? '0' '0' (hexDigit (m.val / 16)) (hexDigit (m.val % 16)) = some m.val := by decide
  exact this ⟨n, h⟩

/-- A written character is read back as one unit. -/
theorem readUnits_quoteChar (c : Char) (rest : List Char) :
    readUnits (quoteChar c ++ rest) = (readUnits rest).map (consUnit c.toNat) := by
  unfold quoteChar
  split
  · next h => subst h; simp [readUnits, escaped?]
  split
  · next h => subst h; simp [readUnits, escaped?]
  split
  · next h => simp [readUnits, escaped?, h]
  split
  · next h => simp [readUnits, escaped?, h]
  split
  · next h => simp [readUnits, escaped?, h]
  split
  · next h => simp [readUnits, escaped?, h]
  split
  · next h => simp [readUnits, escaped?, h]
  split
  · next h => simp [readUnits, hexUnit?_control _ h]
  · next h₂ _ _ _ _ _ h₃ =>
    simp [readUnits, h₂, h₃]

/-- What was written between quotes is read back as units. -/
theorem readUnits_quoted (cs rest : List Char) :
    readUnits (cs.flatMap quoteChar ++ '"' :: rest) = some (cs.map Char.toNat, rest) := by
  induction cs with
  | nil => simp [readUnits]
  | cons c cs ih => simp [readUnits_quoteChar, ih, consUnit]

theorem isHigh_toNat (c : Char) : isHigh c.toNat = false := by
  have := c.valid
  simp only [isHigh, Char.toNat, UInt32.isValidChar, Nat.isValidChar] at *
  simp only [Bool.and_eq_false_iff, decide_eq_false_iff_not]
  omega

theorem isLow_toNat (c : Char) : isLow c.toNat = false := by
  have := c.valid
  simp only [isLow, Char.toNat, UInt32.isValidChar, Nat.isValidChar] at *
  simp only [Bool.and_eq_false_iff, decide_eq_false_iff_not]
  omega

/-- The units of a text spell that text. -/
theorem textOf?_units (cs : List Char) : textOf? (cs.map Char.toNat) = some cs := by
  induction cs with
  | nil => rfl
  | cons c cs ih =>
    rw [List.map_cons, textOf?.eq_def]
    simp [isHigh_toNat, isLow_toNat, ih]

end AslBuild.Json
