import AslBuild.CommandLine.Option
set_option autoImplicit false

/-!
# Arguments

The words of a command line are read one by one, as switches, options with their values, and input
files. The reading stops at the first word that cannot be, and at a switch that asks for help or the
version. Of a pair of switches that undo each other the last one counts.

## Main definitions

* `AslBuild.CommandLine.Occurrence` — what a word says.
* `AslBuild.CommandLine.readWords` — what the words of a command line say.
* `AslBuild.CommandLine.Arguments` — what is left of that after a check.
* `AslBuild.CommandLine.Arguments.ofWords` — the arguments, or why there are none.
-/

namespace AslBuild.CommandLine

/-! ## Reading words -/

/-- What a word says, by itself or together with the next one. -/
inductive Occurrence
  /-- A switch is there. -/
  | switched (s : Switch)
  /-- An option has a value. -/
  | given (o : Valued) (value : String)
  /-- There is an input file. -/
  | input (path : String)
  /-- The word cannot be there. -/
  | wrong
deriving DecidableEq

/-- The characters in front of the first equals sign, and those behind it if there is one. -/
def splitValue : List Char → List Char × Option (List Char)
  | [] => ([], none)
  | '=' :: value => ([], some value)
  | c :: cs =>
    let (name, value) := splitValue cs
    (c :: name, value)

/-- What a word with two dashes says, and the option that waits for its value. -/
def readLong (body : List Char) : List Occurrence × Option Valued :=
  let (name, value) := splitValue body
  let name := String.ofList name
  match Switch.ofLong? name, Valued.ofLong? name, value with
  | some s, _, none => ([.switched s], none)
  | none, some o, none => ([], some o)
  | none, some o, some value => ([.given o (String.ofList value)], none)
  | _, _, _ => ([.wrong], none)

/-- A value that stands right behind a letter, where an equals sign may stand between them. -/
def attached : List Char → List Char
  | '=' :: value => value
  | value => value

/-- What the letters behind one dash say, and the option that waits for its value. -/
def readLetters : List Char → List Occurrence × Option Valued
  | [] => ([], none)
  | c :: cs =>
    if c = Valued.levelLetter then
      if cs.isEmpty then ([], some .level)
      else ([.given .level (String.ofList (attached cs))], none)
    else match Switch.ofShort? c with
      | none => ([.wrong], none)
      | some s =>
        let (rest, waiting) := readLetters cs
        (.switched s :: rest, waiting)

/-- What a word says, and the option that waits for its value. A dash alone is an input file. -/
def readWord (word : String) : List Occurrence × Option Valued :=
  match word.toList with
  | '-' :: '-' :: body => readLong body
  | '-' :: c :: cs => readLetters (c :: cs)
  | _ => ([.input word], none)

/-- Whether a word can be the value of an option in front of it. -/
def isValue (word : String) : Bool :=
  match word.toList with
  | '-' :: _ :: _ => false
  | _ => true

/-- What the words of a command line say, where an option may wait for its value. After two dashes
alone, all words are input files. -/
def readWords : Option Valued → List String → List Occurrence
  | none, [] => []
  | some _, [] => [.wrong]
  | some o, word :: words =>
    if isValue word then .given o word :: readWords none words else [.wrong]
  | none, word :: words =>
    if word = "--" then words.map .input
    else
      let (occurrences, waiting) := readWord word
      occurrences ++ readWords waiting words

/-! ## Checking -/

/-- Why there are no arguments. -/
inductive Refusal
  /-- The words cannot be read, or do not go together. -/
  | usage
  /-- Help is asked for. -/
  | help
  /-- The version is asked for. -/
  | version
deriving DecidableEq

/-- What the words of a command line say, as far as it counts. -/
structure Arguments where
  /-- The switches, values and input files in their order. -/
  seen : List Occurrence
deriving DecidableEq

namespace Arguments

/-- Whether a switch is there. -/
def has (a : Arguments) (s : Switch) : Bool := a.seen.contains (.switched s)

/-- The value that an occurrence gives to an option. -/
def valueIn? (o : Valued) : Occurrence → Option String
  | .given p value => if p = o then some value else none
  | _ => none

/-- The values of an option in their order. -/
def values (a : Arguments) (o : Valued) : List String := a.seen.filterMap (valueIn? o)

/-- The value of an option that is given at most once. -/
def value? (a : Arguments) (o : Valued) : Option String := (a.values o).head?

/-- The input file of an occurrence. -/
def inputIn? : Occurrence → Option Path
  | .input path => some ⟨path⟩
  | _ => none

/-- The input files in their order. -/
def inputs (a : Arguments) : List Path := a.seen.filterMap inputIn?

/-- Whether an occurrence is undone by a switch. -/
def isUndoneBy (s : Switch) (o : Occurrence) : Bool :=
  match s.opposite? with
  | some t => o == .switched t
  | none => false

/-- Take one more occurrence into account. A switch undoes its opposite and is not repeated; an
option is not repeated unless it may be, and takes only some values; an input file has a name. -/
def add (a : Arguments) (o : Occurrence) : Except Refusal Arguments :=
  match o with
  | .wrong => .error .usage
  | .switched .help => .error .help
  | .switched .version => .error .version
  | .switched s =>
    if a.has s then .error .usage
    else .ok ⟨a.seen.filter (fun p => !isUndoneBy s p) ++ [.switched s]⟩
  | .given v value =>
    if !v.accepts value || (!v.isRepeatable && (a.value? v).isSome) then .error .usage
    else .ok ⟨a.seen ++ [.given v value]⟩
  | .input path => if path.isEmpty then .error .usage else .ok ⟨a.seen ++ [.input path]⟩

/-- Take occurrences into account one after the other. -/
def addAll (a : Arguments) : List Occurrence → Except Refusal Arguments
  | [] => .ok a
  | o :: os => do
    let a ← a.add o
    a.addAll os

/-- The arguments in the words of a command line, or why there are none. -/
def ofWords (words : List String) : Except Refusal Arguments :=
  (Arguments.mk []).addAll (readWords none words)

end Arguments

end AslBuild.CommandLine
