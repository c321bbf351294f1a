import AslBuild.Shell.Atoms
import AslBuild.Shell.Pattern
import AslBuild.Text.Escape
import AslBuild.Text.Quoting
set_option autoImplicit false

/-!
# Parameters

## Main definitions

* `AslBuild.Shell.Worth` — what a parameter is worth.
* `AslBuild.Shell.parameterAtoms` — the atoms of a parameter.
-/

namespace AslBuild.Shell

open FileSystem Host Text

/-! ## Parameters -/

/-- What a parameter is worth. -/
inductive Worth
  /-- It is not set. -/
  | nothing
  /-- It has a value. -/
  | one (text : String)
  /-- It is a list, the items of which may be meant as one text. -/
  | many (items : List String) (asOne : Bool)
deriving DecidableEq

/-- The text of a word that is a subscript or a number. -/
def plainText (e : Engine) (w : Word) : Sh String := do pure (joined (← e.atoms false w))

/-- What a parameter is worth. -/
def worth (e : Engine) (name : String) (subscript : Option Word) : Sh Worth := do
  draw name
  let s ← Act.read
  match name, subscript with
  | "@", _ => pure (.many s.arguments false)
  | "*", _ => pure (.many s.arguments true)
  | _, none =>
    match s.parameter? name with
    | some text => pure (.one text)
    | none => pure .nothing
  | _, some w =>
    let key ← plainText e w
    let items := s.items name
    if key = "@" then pure (.many (items.map (·.2)) false)
    else if key = "*" then pure (.many (items.map (·.2)) true)
    else
      let key ← if s.isTable name then pure key else do pure (toString (← calculate key))
      match ← item? name key with
      | some text => pure (.one text)
      | none => pure .nothing

/-- The text between the items of a list that is meant as one text. -/
def State.glue (s : State) (asOne : Bool) : String :=
  if s.extended && !asOne then " "
  else match s.get? "IFS" with
    | none => " "
    | some text => String.ofList (text.toList.take 1)

/-- The atoms of a list. -/
def listAtoms (s : State) (splits quoted asOne : Bool) (items : List String) : List Atom :=
  if splits && !(quoted && asOne) then
    if items.isEmpty then (if quoted then [.absent] else [])
    else
      let item (text : String) : List Atom :=
        if quoted then .mark :: atomsOfText true text else atomsOfText false text
      [if quoted || s.extended then Atom.stop else .gap].intercalate (items.map item)
  else atomsOfText quoted ((s.glue asOne).intercalate items)

/-- The atoms of what a parameter is worth. -/
def Worth.atoms (s : State) (splits quoted : Bool) : Worth → List Atom
  | .nothing => []
  | .one text => atomsOfText quoted text
  | .many items asOne => listAtoms s splits quoted asOne items

/-- Whether a parameter counts as one that is set. -/
def Worth.isSet (s : State) (orEmpty : Bool) : Worth → Bool
  | .nothing => false
  | .one text => !(orEmpty && text.isEmpty)
  | .many items _ => if s.extended || orEmpty then !items.isEmpty && !(orEmpty &&
      items.all String.isEmpty) else true

/-- What a parameter is worth with its texts changed. A list is changed as a whole without
extensions: `first` says at which of its ends. -/
def Worth.map (s : State) (first : Bool) (f : String → String) : Worth → Worth
  | .nothing => .nothing
  | .one text => .one (f text)
  | .many items asOne =>
    if s.extended then .many (items.map f) asOne
    else match first, items with
      | true, x :: xs => .many (f x :: xs) asOne
      | _, xs => .many (xs.dropLast ++ (xs.getLast?.map f).toList) asOne

/-- The atoms of a word in the braces of a parameter. What is not quoted in it may be separated. -/
def wordAtoms (e : Engine) (splits quoted : Bool) (w : Word) : Sh (List Atom) := do
  let s ← Act.read
  let atoms ← e.atoms splits (if quoted then w else withTilde s w)
  pure (atoms.map fun a =>
    match a with
    | .char c false => if quoted then .char c true else .value c
    | a => a)

/-- The place and the length of a part of something of a size. It starts at a number, which counts from
the end if it is negative, and has a number of items; in a text, a negative number says how many are
left out at the end. There is nothing if that makes no sense. -/
def partOf (size start : Int) (count : Option Int) (isText : Bool) : Option (Nat × Nat) :=
  let first := if start < 0 then size + start else start
  if first < 0 ∨ size < first then some (0, 0)
  else match count with
    | none => some (first.toNat, (size - first).toNat)
    | some n =>
      if 0 ≤ n then some (first.toNat, n.toNat)
      else if isText ∧ first ≤ size + n then some (first.toNat, (size + n - first).toNat)
      else none

/-- A letter in a case. -/
def LetterCase.put (case : LetterCase) (c : Char) : Char :=
  match case with
  | .upper => c.toUpper
  | .lower => c.toLower
  | .other => if c.isUpper then c.toLower else c.toUpper

/-- A text with its first letter, or all of them, in a case, as far as they are chosen. -/
def recased (case : LetterCase) (all : Bool) (chosen : Char → Bool) (text : String) : String :=
  let f (c : Char) : Char := if chosen c then case.put c else c
  match text.toList with
  | [] => ""
  | c :: cs => String.ofList (f c :: if all then cs.map f else cs)

/-- A text in the form that a letter names. -/
def formed (letter : Char) (text : String) : String :=
  let every (_ : Char) : Bool := true
  match letter with
  | 'Q' | 'K' | 'k' => Quoting.full Quoting.single text
  | 'E' =>
    let style : Escape.Style :=
      { octal := true, zeroOctal := false, hex := true, stops := false, quotes := true
        capitalEscape := true }
    (Escape.unescape style text).1
  | 'U' => recased .upper true every text
  | 'L' => recased .lower true every text
  | 'u' => recased .upper false every text
  | _ => text

/-- The items of a list or a table in the form that a letter names. -/
def formedItems (letter : Char) (name : String) (v : Variable) (items : List (String × String))
    (asOne : Bool) : Worth :=
  let quotedItem (item : String × String) : String :=
    item.1 ++ " " ++ Quoting.full Quoting.double item.2
  match letter, v.value with
  | 'A', _ => .one (declaration name v)
  | 'a', _ => .many (items.map fun _ => marksOf v) asOne
  | 'K', some (.table _) => .one (String.join (items.map fun i => quotedItem i ++ " "))
  | 'K', _ => .one (" ".intercalate (items.map quotedItem))
  | 'k', _ => .many (items.flatMap fun i => [i.1, i.2]) asOne
  | _, _ => .many (items.map fun i => formed letter i.2) asOne

/-- What a parameter is worth in the form that a letter names. -/
def formedWorth (s : State) (letter : Char) (name : String) (w : Worth) : Worth :=
  let v? := s.binding? name
  match w, v? with
  | .many _ asOne, some v => formedItems letter name v (s.items name) asOne
  | .one text, some v =>
    let marks := marksOf v
    if letter = 'A' then
      .one ((if marks.isEmpty then "" else "declare -" ++ marks ++ " ") ++ name ++ "=" ++
        Quoting.full Quoting.single text)
    else if letter = 'a' then .one marks
    else .one (formed letter text)
  | .nothing, some v =>
    if letter = 'A' ∧ v.value.isSome then .one ("declare -" ++ marksOf v ++ " " ++ name)
    else if letter = 'a' then .one (marksOf v)
    else .nothing
  | w, none => if letter = 'A' ∨ letter = 'a' then .nothing else w.map s true (formed letter)

/-- What is said of a parameter that has to be set. -/
def unsetMessage (s : State) (orEmpty : Bool) : String :=
  if s.extended then (if orEmpty then "parameter null or not set" else "parameter not set")
  else (if orEmpty then "parameter not set or null" else "parameter not set")

/-- A part of the worth of a parameter: of a text, of the arguments, or of the items of a variable. -/
def slicedWorth (s : State) (name : String) (isArguments : Bool) (w : Worth) (start : Int)
    (count : Option Int) : Option Worth :=
  match w with
  | .many items asOne =>
    if isArguments then
      let items := s.name :: items
      (partOf items.length start count false).map fun (first, n) =>
        .many ((items.drop first).take n) asOne
    else if s.isTable name then
      some (.many (((items.drop (start - 1).toNat)).take ((count.getD items.length).toNat)) asOne)
    else
      (partOf (s.nextItem name) start count false).map fun (first, n) =>
        let behind := (s.items name).filter fun i => first ≤ i.1.toNat?.getD 0
        .many ((behind.map (·.2)).take n) asOne
  | .one text =>
    (partOf text.length start count true).map fun (first, n) =>
      .one (String.ofList ((text.toList.drop first).take n))
  | .nothing => some .nothing

/-- A text with parts that fit a pattern replaced. -/
def replaced (extent : Extent) (pattern : List Glob) (by_ : List Char → List Char)
    (text : String) : String :=
  let cs := text.toList
  String.ofList (match extent with
    | .start =>
      match behind? true pattern cs with
      | some rest => by_ (cs.take (cs.length - rest.length)) ++ rest
      | none => cs
    | .finish =>
      match finish? true pattern cs with
      | some (front, part) => front ++ by_ part
      | none => cs
    | extent =>
      if cs.isEmpty then (if !pattern.isEmpty && fits pattern [] then by_ [] else [])
      else replaceIn (extent = .all) pattern by_ (cs.length + 1) cs)

/-- The atoms of a parameter, which is not one that another one names. -/
def directAtoms (e : Engine) (splits : Bool) (name : String) (subscript : Option Word)
    (change : Change Word) (quoted : Bool) : Sh (List Atom) := do
  let w ← worth e name subscript
  let s ← Act.read
  let shown (w : Worth) : Sh (List Atom) := pure (w.atoms s splits quoted)
  let needed : Sh Unit :=
    if w = .nothing ∧ s.has "nounset" then
      failFor 1 (name ++ if s.extended then ": unbound variable" else ": parameter not set")
    else pure ()
  let cut (first : Bool) (f : List Glob → List Char → List Char) (p : Word) :
      Sh (List Atom) := do
    needed
    let pattern := globs s.globStyle (charsOf (← e.atoms false p))
    shown (w.map s first fun text => String.ofList (f pattern text.toList))
  match change with
  | .senseless => fail (if s.extended then name ++ ": bad substitution" else "Bad substitution")
  | .plain =>
    needed
    shown w
  | .length =>
    needed
    let n := match w with
      | .nothing => 0
      | .one text => text.length
      | .many items asOne =>
        if s.extended then items.length else ((s.glue asOne).intercalate items).length
    pure (atomsOfText quoted (toString n))
  | .orElse orEmpty word =>
    if w.isSet s orEmpty then shown w else wordAtoms e splits quoted word
  | .andThen orEmpty word =>
    if w.isSet s orEmpty then wordAtoms e splits quoted word
    else pure (if s.extended && w == .many [] false && quoted && splits then [.absent] else [])
  | .orAssign orEmpty word =>
    if w.isSet s orEmpty then shown w
    else
      let text := joined (← wordAtoms e false quoted word)
      if isName name.toList then
        assign name text
        pure (atomsOfText quoted text)
      else fail (if s.extended then "$" ++ name ++ ": cannot assign in this way"
        else name ++ ": bad variable name")
  | .orFail orEmpty word =>
    if w.isSet s orEmpty then shown w
    else
      let text := joined (← wordAtoms e false true word)
      let message := if word.isEmpty then unsetMessage s orEmpty else text
      failFor 1 (name ++ ": " ++ message)
  | .cutStart longest p => cut true (cutStart longest) p
  | .cutEnd longest p => cut false (cutEnd longest) p
  | .replace extent p by_ =>
    needed
    let pattern := globs s.globStyle (charsOf (← e.atoms false p))
    let new := charsOf (← e.atoms false by_)
    let stands := s.has "patsub_replacement" && new.any (· == ('&', false))
    let by_ (part : List Char) : List Char :=
      if stands then replacementFor new part else new.map (·.1)
    shown (w.map s true (replaced extent pattern by_))
  | .recase case all p =>
    needed
    let pattern := globs s.globStyle (charsOf (← e.atoms false p))
    let chosen (c : Char) : Bool := p.isEmpty || fits pattern [c]
    shown (w.map s true (recased case all chosen))
  | .slice start count =>
    needed
    let number (w : Word) : Sh Int := do
      let text ← plainText e w
      naming (some name) (calculate text)
    let start ← number start
    let counted ← match count with
      | none => pure none
      | some c => do pure (some (← number c))
    match slicedWorth s name subscript.isNone w start counted with
    | some w => shown w
    | none => fail ((← plainText e (count.getD [])) ++ ": substring expression < 0")
  | .indirect _ => shown w
  | .subscripts =>
    let keys := (s.items name).map (·.1)
    match subscript with
    | some w => shown (.many keys ((← plainText e w) == "*"))
    | none => pure []
  | .names asOne =>
    let all := s.bindings.map (·.1) ++ if s.extended then State.ownNames else []
    let names := (all.filter (·.startsWith name)).eraseDups.mergeSort fun a b => a ≤ b
    shown (.many names asOne)
  | .form letter =>
    if letter ≠ 'A' ∧ letter ≠ 'a' then needed
    shown (formedWorth s letter name w)

/-- The parameter that a text names: a name, and perhaps a subscript. -/
def namedParameter (text : String) : String × Option Word :=
  let name := text.toList.takeWhile (· != '[')
  match text.toList.drop name.length with
  | _ :: rest => (String.ofList name, some [.text (rest.takeWhile (· != ']')) true])
  | [] => (text, none)

/-- The atoms of the parameter that another one names. A name that stands for another variable tells
which one that is. -/
def indirectAtoms (e : Engine) (splits : Bool) (name : String) (subscript : Option Word)
    (more : Change Word) (quoted : Bool) : Sh (List Atom) := do
  let s ← Act.read
  let refers := ((s.bindingAs? name).map (·.refers)).getD false
  if refers && subscript.isNone then pure (atomsOfText quoted (s.meant name))
  else
    match ← worth e name subscript with
    | .one text => do
      let (other, subscript) := namedParameter text
      if isName other.toList || other.toList.all Char.isDigit || other.length == 1 then
        directAtoms e splits other subscript more quoted
      else fail (text ++ ": invalid variable name")
    | _ =>
      if name = "#" ∨ name = "@" ∨ name = "*" then pure []
      else fail (name ++ ": invalid indirect expansion")

/-- The atoms of a parameter. -/
def parameterAtoms (e : Engine) (splits : Bool) (name : String) (subscript : Option Word)
    (change : Change Word) (quoted : Bool) : Sh (List Atom) := do
  match change, subscript with
  | .indirect more, _ => indirectAtoms e splits name subscript more quoted
  | .subscripts, some w => do
    let key ← plainText e w
    if key = "@" ∨ key = "*" then directAtoms e splits name subscript change quoted
    else indirectAtoms e splits name subscript .plain quoted
  | _, _ => directAtoms e splits name subscript change quoted

end AslBuild.Shell
