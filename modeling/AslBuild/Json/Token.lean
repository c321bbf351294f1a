import AslBuild.Json.Quoted
set_option autoImplicit false

/-!
# Tokens

A text in JSON is cut into tokens, and a value is then read off the tokens, or skipped. Skipping
checks the brackets and nothing inside a text or an atom.

## Main definitions

* `AslBuild.Json.Token` — brackets, separators, texts and atoms.
* `AslBuild.Json.tokens?` — the tokens of a text.
* `AslBuild.Json.skip` — what follows a value.
* `AslBuild.Json.readTexts` — a list of texts, and what follows it.
-/

namespace AslBuild.Json

/-- A token. -/
inductive Token
  /-- The start of a list. -/
  | openList
  /-- The end of a list. -/
  | closeList
  /-- The start of an object. -/
  | openObject
  /-- The end of an object. -/
  | closeObject
  /-- What separates members. -/
  | comma
  /-- What separates a key from its value. -/
  | colon
  /-- The units of a text. -/
  | text (units : List Nat)
  /-- A number, a truth value or null. -/
  | atom
deriving DecidableEq

/-! ## Numbers and words -/

/-- Whether a character is a decimal digit. -/
def isDigit (c : Char) : Bool := '0' ≤ c && c ≤ '9'

/-- What follows one digit or more. -/
def afterDigits : List Char → Option (List Char)
  | c :: rest => if isDigit c then some (rest.dropWhile isDigit) else none
  | [] => none

/-- What follows an exponent, if there is one. -/
def afterExponent : List Char → Option (List Char)
  | c :: rest =>
    if c = 'e' ∨ c = 'E' then
      match rest with
      | d :: more => if d = '+' ∨ d = '-' then afterDigits more else afterDigits rest
      | [] => none
    else some (c :: rest)
  | [] => some []

/-- What follows a fraction, if there is one, and an exponent. -/
def afterFraction : List Char → Option (List Char)
  | '.' :: rest => (afterDigits rest).bind afterExponent
  | rest => afterExponent rest

/-- What follows a number without a sign. No zero stands in front of other digits. -/
def afterMagnitude : List Char → Option (List Char)
  | '0' :: rest => afterFraction rest
  | rest => (afterDigits rest).bind afterFraction

/-- What follows a number or a word. -/
def afterAtom : List Char → Option (List Char)
  | '-' :: rest => afterMagnitude rest
  | 't' :: 'r' :: 'u' :: 'e' :: rest => some rest
  | 'f' :: 'a' :: 'l' :: 's' :: 'e' :: rest => some rest
  | 'n' :: 'u' :: 'l' :: 'l' :: rest => some rest
  | rest => afterMagnitude rest

/-! ## Cutting a text into tokens -/

/-- Whether a character may stand between tokens. -/
def isSpace (c : Char) : Bool := c == ' ' || c == '\n' || c == '\t' || c == '\r'

/-- The first token, and what follows it. -/
def readToken : List Char → Option (Token × List Char)
  | '[' :: rest => some (.openList, rest)
  | ']' :: rest => some (.closeList, rest)
  | '\x7b' :: rest => some (.openObject, rest)
  | '\x7d' :: rest => some (.closeObject, rest)
  | ',' :: rest => some (.comma, rest)
  | ':' :: rest => some (.colon, rest)
  | '"' :: rest => (readUnits rest).map fun r => (.text r.1, r.2)
  | rest => (afterAtom rest).map fun r => (.atom, r)

/-- The tokens of a text, if there are fewer than the given number. -/
def tokensUpTo : Nat → List Char → Option (List Token)
  | 0, _ => none
  | n + 1, cs =>
    match cs.dropWhile isSpace with
    | [] => some []
    | cs => do
      let (token, rest) ← readToken cs
      let tokens ← tokensUpTo n rest
      some (token :: tokens)

/-- The tokens of a text. There are no more of them than characters. -/
def tokens? (text : String) : Option (List Token) :=
  tokensUpTo (text.toList.length + 1) text.toList

/-! ## Skipping a value -/

/-- What has to come next in a value that is skipped. -/
inductive Expected
  /-- A value. -/
  | value
  /-- A value, or the end of a list. -/
  | firstValue
  /-- A key. -/
  | key
  /-- A key, or the end of an object. -/
  | firstKey
  /-- The colon after a key. -/
  | colon
  /-- A comma, or the end of what encloses the value. -/
  | more
deriving DecidableEq

/-- What encloses a value. -/
inductive Enclosure
  | list
  | object
deriving DecidableEq

/-- What follows a value, where the innermost enclosure comes first. -/
def skip : Expected → List Enclosure → List Token → Option (List Token)
  | .more, [], rest => some rest
  | .more, .list :: outer, .comma :: rest => skip .value (.list :: outer) rest
  | .more, .object :: outer, .comma :: rest => skip .key (.object :: outer) rest
  | .more, .list :: outer, .closeList :: rest
  | .firstValue, .list :: outer, .closeList :: rest =>
    if outer = [] then some rest else skip .more outer rest
  | .more, .object :: outer, .closeObject :: rest
  | .firstKey, .object :: outer, .closeObject :: rest =>
    if outer = [] then some rest else skip .more outer rest
  | .key, outer, .text _ :: rest
  | .firstKey, outer, .text _ :: rest => skip .colon outer rest
  | .colon, outer, .colon :: rest => skip .value outer rest
  | .value, outer, .text _ :: rest
  | .firstValue, outer, .text _ :: rest
  | .value, outer, .atom :: rest
  | .firstValue, outer, .atom :: rest => if outer = [] then some rest else skip .more outer rest
  | .value, outer, .openList :: rest
  | .firstValue, outer, .openList :: rest => skip .firstValue (.list :: outer) rest
  | .value, outer, .openObject :: rest
  | .firstValue, outer, .openObject :: rest => skip .firstKey (.object :: outer) rest
  | _, _, _ => none

/-! ## Lists of texts -/

/-- Put a text in front of those that were read. -/
def consText (s : List Char) (r : List String × List Token) : List String × List Token :=
  (String.ofList s :: r.1, r.2)

/-- One text or more, up to the end of a list. -/
def readTextsTail : List Token → Option (List String × List Token)
  | .text units :: .closeList :: rest => (textOf? units).map fun s => ([String.ofList s], rest)
  | .text units :: .comma :: rest => do
    let s ← textOf? units
    let r ← readTextsTail rest
    some (consText s r)
  | _ => none

/-- A list of texts, and what follows it. -/
def readTexts : List Token → Option (List String × List Token)
  | .openList :: .closeList :: rest => some ([], rest)
  | .openList :: rest => readTextsTail rest
  | _ => none

end AslBuild.Json
