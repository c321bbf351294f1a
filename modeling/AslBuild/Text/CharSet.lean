set_option autoImplicit false

/-!
# Sets of characters

What may stand between brackets in patterns and expressions: ranges of characters, and classes that
have names.

## Main definitions

* `AslBuild.Text.classOf?` — the class of a name.
* `AslBuild.Text.Member` — a range or a class, with `has`.
-/

namespace AslBuild.Text

/-! ## Classes of characters -/

/-- Whether an ASCII character belongs to the class of a name; nothing if there is no such class. -/
def classOf? (name : String) : Option (Char → Bool) :=
  let isPunct (c : Char) : Bool := 0x20 < c.toNat && c.toNat < 0x7F && !c.isAlphanum
  match name with
  | "alpha" => some Char.isAlpha
  | "digit" => some Char.isDigit
  | "alnum" => some Char.isAlphanum
  | "upper" => some Char.isUpper
  | "lower" => some Char.isLower
  | "space" => some fun c => c == ' ' || (0x09 ≤ c.toNat && c.toNat ≤ 0x0D)
  | "blank" => some fun c => c == ' ' || c == '\t'
  | "punct" => some isPunct
  | "print" => some fun c => 0x20 ≤ c.toNat && c.toNat < 0x7F
  | "graph" => some fun c => 0x20 < c.toNat && c.toNat < 0x7F
  | "cntrl" => some fun c => c.toNat < 0x20 || c.toNat == 0x7F
  | "xdigit" => some fun c => c.isDigit || ('a' ≤ c && c ≤ 'f') || ('A' ≤ c && c ≤ 'F')
  | _ => none

/-! ## Sets -/

/-- What may stand in brackets. -/
inductive Member
  /-- The characters from one to another. -/
  | range (first last : Char)
  /-- The characters of a class. -/
  | ofClass (name : String)
deriving DecidableEq

/-- Whether a character is meant. -/
def Member.has (c : Char) : Member → Bool
  | .range first last => first ≤ c && c ≤ last
  | .ofClass name => ((classOf? name).map (· c)).getD false

end AslBuild.Text
