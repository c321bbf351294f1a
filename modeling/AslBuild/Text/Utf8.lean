set_option autoImplicit false

/-!
# Bytes as text

The output of a tool and the contents of a file are bytes. They are shown as text by reading them as
UTF-8 and putting the replacement character in the place of what is not UTF-8: one for every longest
sequence of bytes that could still have become a character, and one for every byte that starts none.

Scripts and the programs that they call work on bytes and hand on what they do not understand. A
*raw* text holds one character for every byte, so that it can be read and put together like any
other text, and nothing is lost when it is written out again.

## Main definitions

* `AslBuild.Text.Utf8.Partial` — a character whose last bytes are still owed.
* `AslBuild.Text.Utf8.step` — what one more byte completes, and what it leaves open.
* `AslBuild.Text.Utf8.decode` — the text of a list of bytes.
* `AslBuild.Text.Raw.ofBytes`, `AslBuild.Text.Raw.toBytes` — bytes as raw text, and back.
* `AslBuild.Text.Raw.ofText`, `AslBuild.Text.Raw.toText` — the raw text of a text in UTF-8, and what
  a raw text shows.

## Main results

* `AslBuild.Text.Raw.toBytes_ofBytes` — bytes come back as they were.
-/

namespace AslBuild.Text.Utf8

/-- The character that stands for bytes that are not UTF-8. -/
def replacement : Char := Char.ofNat 0xFFFD

/-- A character whose last `owed` bytes are still to come. The next of them lies between `low` and
`high`; the bytes after it are plain continuation bytes. -/
structure Partial where
  /-- How many bytes are missing. -/
  owed : Nat
  /-- The least value of the next byte. -/
  low : Nat
  /-- The greatest value of the next byte. -/
  high : Nat
  /-- The bits that the bytes so far have given. -/
  bits : Nat

/-- The first byte of a character: a whole character, the start of a longer one, or neither. The
narrower ranges after `E0`, `ED`, `F0` and `F4` shut out overlong forms, surrogates and code points
above `10FFFF`. -/
def first (b : Nat) : List Char × Option Partial :=
  if b ≤ 0x7F then ([Char.ofNat b], none)
  else if 0xC2 ≤ b ∧ b ≤ 0xDF then ([], some ⟨1, 0x80, 0xBF, b - 0xC0⟩)
  else if b = 0xE0 then ([], some ⟨2, 0xA0, 0xBF, 0⟩)
  else if b = 0xED then ([], some ⟨2, 0x80, 0x9F, b - 0xE0⟩)
  else if 0xE1 ≤ b ∧ b ≤ 0xEF then ([], some ⟨2, 0x80, 0xBF, b - 0xE0⟩)
  else if b = 0xF0 then ([], some ⟨3, 0x90, 0xBF, 0⟩)
  else if 0xF1 ≤ b ∧ b ≤ 0xF3 then ([], some ⟨3, 0x80, 0xBF, b - 0xF0⟩)
  else if b = 0xF4 then ([], some ⟨3, 0x80, 0x8F, b - 0xF0⟩)
  else ([replacement], none)

/-- One more byte: the characters it settles and the character it leaves open. A byte that does not
continue the open character ends it as a replacement character and starts anew. -/
def step : Option Partial → Nat → List Char × Option Partial
  | none, b => first b
  | some p, b =>
    if p.low ≤ b ∧ b ≤ p.high then
      let bits := p.bits * 0x40 + (b - 0x80)
      if p.owed = 1 then ([Char.ofNat bits], none)
      else ([], some ⟨p.owed - 1, 0x80, 0xBF, bits⟩)
    else
      let (settled, opened) := first b
      (replacement :: settled, opened)

/-- The characters of the bytes, continuing an open character. -/
def decodeFrom : Option Partial → List UInt8 → List Char
  | none, [] => []
  | some _, [] => [replacement]
  | q, b :: bs =>
    let (settled, opened) := step q b.toNat
    settled ++ decodeFrom opened bs

/-- The text of a list of bytes, with replacement characters for what is not UTF-8. -/
def decode (bytes : List UInt8) : String := String.ofList (decodeFrom none bytes)

end AslBuild.Text.Utf8

namespace AslBuild.Text.Raw

/-- The character of a byte. -/
def charOf (b : UInt8) : Char := Char.ofNat b.toNat

/-- The byte of a character, of which only the lowest bits count. -/
def byteOf (c : Char) : UInt8 := UInt8.ofNat c.toNat

/-- Bytes as raw text. -/
def ofBytes (bytes : List UInt8) : String := String.ofList (bytes.map charOf)

/-- The bytes of a raw text. -/
def toBytes (s : String) : List UInt8 := s.toList.map byteOf

/-- The raw text of a text in UTF-8. -/
def ofText (s : String) : String := ofBytes s.toUTF8.toList

/-- What a raw text shows if it is taken for UTF-8. -/
def toText (s : String) : String := Utf8.decode (toBytes s)

/-- A byte is that of its character. -/
theorem byteOf_charOf (b : UInt8) : byteOf (charOf b) = b := by
  have hvalid : b.toNat.isValidChar := Or.inl (by have := b.toNat_lt; omega)
  have hcode : (Char.ofNat b.toNat).toNat = b.toNat := by
    rw [Char.ofNat, dif_pos hvalid]
    rfl
  rw [byteOf, charOf, hcode]
  exact UInt8.ofNat_toNat

/-- Bytes come back as they were. -/
theorem toBytes_ofBytes (bytes : List UInt8) : toBytes (ofBytes bytes) = bytes := by
  simp [toBytes, ofBytes, Function.comp_def, byteOf_charOf]

end AslBuild.Text.Raw
