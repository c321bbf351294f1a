import AslBuild.Json.Token
import AslBuild.Settings
set_option autoImplicit false

/-!
# Symbol files

A session tells the compiler in a file which functions are kept, which are provided from outside,
and which variables are thread-local and provided from outside. The file is a JSON object with a
list of names under each of three keys.

## Main definitions

* `AslBuild.Symbols` — the three lists.
* `AslBuild.Symbols.ofSettings` — the lists of a session.
* `AslBuild.Symbols.encode` — the text of the file.
* `AslBuild.Symbols.decode?` — the lists in a text.
-/

namespace AslBuild

/-- The names that a session is about. -/
structure Symbols where
  /-- The functions that are kept. -/
  exports : List String
  /-- The functions that are provided from outside. -/
  imports : List String := []
  /-- The thread-local variables that are provided from outside. -/
  threadLocals : List String := []
deriving DecidableEq

namespace Symbols

/-- The function that a program starts with. -/
def entryPoint : String := "main"

/-- The names of a session. The entry point is kept in any case, and named once. -/
def ofSettings (s : Settings) : Symbols :=
  ⟨entryPoint :: s.exports.filter (· != entryPoint), s.imports, s.threadLocals⟩

/-! ## Keys -/

/-- The keys of the file. -/
inductive Key
  | exports
  | imports
  | threadLocals
deriving DecidableEq

/-- The text of a key. -/
def Key.name : Key → String
  | .exports => "exports"
  | .imports => "imports"
  | .threadLocals => "thread_local_state"

/-- The key of a text. -/
def Key.ofName? (s : String) : Option Key :=
  [Key.exports, Key.imports, Key.threadLocals].find? fun k => k.name == s

/-! ## Writing -/

/-- A list of names under a key, one name a line. -/
def encodeList (key : Key) (names : List String) : String :=
  "  " ++ Json.quote key.name ++ ": " ++
    if names.isEmpty then "[]"
    else "[\n" ++ ",\n".intercalate (names.map fun s => "    " ++ Json.quote s) ++ "\n  ]"

/-- The text of the file. Thread-local variables are left out if there are none. -/
def encode (s : Symbols) : String :=
  let lists := [encodeList .exports s.exports, encodeList .imports s.imports] ++
    if s.threadLocals.isEmpty then [] else [encodeList .threadLocals s.threadLocals]
  "\x7b\n" ++ ",\n".intercalate lists ++ "\n\x7d\n"

/-! ## Reading -/

/-- The lists that were found so far. -/
structure Found where
  /-- The names under `exports`. -/
  exports : Option (List String) := none
  /-- The names under `imports`. -/
  imports : Option (List String) := none
  /-- The names under `thread_local_state`. -/
  threadLocals : Option (List String) := none

/-- The list that was found under a key. -/
def Found.get (f : Found) : Key → Option (List String)
  | .exports => f.exports
  | .imports => f.imports
  | .threadLocals => f.threadLocals

/-- Note the list under a key. -/
def Found.put (f : Found) (names : List String) : Key → Found
  | .exports => { f with exports := some names }
  | .imports => { f with imports := some names }
  | .threadLocals => { f with threadLocals := some names }

/-- The names, once all is read. Only `exports` has to be there. -/
def Found.symbols? (f : Found) : Option Symbols :=
  f.exports.map fun exports => ⟨exports, f.imports.getD [], f.threadLocals.getD []⟩

/-- One member of the object. A key that is known is followed by a list of names and comes only
once; any other key is followed by any value. -/
def readMember (f : Found) : List Json.Token → Option (Found × List Json.Token)
  | .text units :: .colon :: rest => do
    let name ← Json.textOf? units
    match Key.ofName? (String.ofList name) with
    | none =>
      let rest ← Json.skip .value [] rest
      some (f, rest)
    | some key =>
      if (f.get key).isSome then none
      else
        let (names, rest) ← Json.readTexts rest
        some (f.put names key, rest)
  | _ => none

/-- The members of the object up to its end, if there are at most so many. -/
def readMembers : Nat → Found → List Json.Token → Option Found
  | 0, _, _ => none
  | n + 1, f, tokens => do
    let (f, rest) ← readMember f tokens
    match rest with
    | [.closeObject] => some f
    | .comma :: rest => readMembers n f rest
    | _ => none

/-- The lists in a list of up to three lists. -/
def readRow (tokens : List Json.Token) : Option Symbols := do
  let (exports, rest) ← Json.readTexts tokens
  match rest with
  | [.closeList] => some ⟨exports, [], []⟩
  | .comma :: rest =>
    let (imports, rest) ← Json.readTexts rest
    match rest with
    | [.closeList] => some ⟨exports, imports, []⟩
    | .comma :: rest =>
      let (threadLocals, rest) ← Json.readTexts rest
      match rest with
      | [.closeList] => some ⟨exports, imports, threadLocals⟩
      | _ => none
    | _ => none
  | _ => none

/-- The lists in some tokens. -/
def ofTokens? : List Json.Token → Option Symbols
  | [.openObject, .closeObject] => none
  | .openObject :: rest => do
    let f ← readMembers rest.length {} rest
    f.symbols?
  | .openList :: rest => readRow rest
  | _ => none

/-- The lists in a text: an object with a list under each key, or the lists in their order. -/
def decode? (text : String) : Option Symbols := do
  let tokens ← Json.tokens? text
  ofTokens? tokens

end Symbols

end AslBuild
