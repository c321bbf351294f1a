import AslBuild.Shell.Pattern
import AslBuild.Tools.Diff.Columns
import AslBuild.Tools.Diff.Context
import AslBuild.Tools.Diff.Template
import AslBuild.Tools.Amount
import AslBuild.Tools.Paths
set_option autoImplicit false

/-!
# Comparing files line by line

Two files are compared line by line, and two directories file by file.

## Main definitions

* `AslBuild.Tools.Diff.Style` — the forms in which differences are shown.
* `AslBuild.Tools.Diff.Manner` — how files are compared, and what is shown.
* `AslBuild.Tools.Diff.Manner.show` — the differences of two texts.
* `AslBuild.Tools.Diff.comparePair` — compare what lies at two paths.
* `AslBuild.Tools.diff` — the tool.
-/

namespace AslBuild.Tools.Diff

open FileSystem Host Text

/-! ## How files are compared -/

/-- The forms in which differences are shown. -/
inductive Style
  | changes
  | unified
  | twofold
  | edits
  | forwardEdits
  | patch
  | sideBySide
  | templates
deriving DecidableEq

/-- Which blanks do not count. -/
inductive Blanks
  | count
  | tabsAsBlanks
  | notAtEnd
  | tabsAsBlanksNotAtEnd
  | once
  | never
deriving DecidableEq

/-- Whether lines with and without an end may be the same. -/
def Blanks.skipsEnd : Blanks → Bool
  | .count | .tabsAsBlanks => false
  | _ => true

/-- How files are compared, and what is shown. -/
structure Manner where
  /-- The form. -/
  style : Style
  /-- The options. -/
  given : Given
  /-- How many lines are shown around hunks. -/
  context : Nat
  /-- How many lines at the ends of texts are compared though both texts have them. -/
  horizon : Nat
  /-- How wide lines are that hold both texts. -/
  width : Nat
  /-- How lines are shown. -/
  look : Look
  /-- Which blanks do not count. -/
  blanks : Blanks
  /-- The templates. -/
  templates : Templates
  /-- The patterns for names of files that are not compared. -/
  excluded : List String
  /-- What is said in front of the differences of files in directories. -/
  title : String

namespace Manner

/-- Whether an option was given. -/
def has (k : Manner) (c : Char) : Bool := k.given.has c

/-- Whether nothing is shown of texts that do not differ. -/
def isSilent (k : Manner) : Bool :=
  match k.style with
  | .templates => k.templates.hidesShared
  | .sideBySide => k.has '/'
  | _ => true

/-- Whether a form tells of lines that have no ends. -/
def tellsEnds (k : Manner) : Bool := k.style != .edits && k.style != .forwardEdits

end Manner

/-! ## Lines as they count -/

/-- Whether a character is a blank. -/
def isBlank (c : Char) : Bool := c == ' ' || (0x09 ≤ c.toNat && c.toNat ≤ 0x0D)

/-- Characters in a column with blanks instead of tabs. -/
def untabbed (size : Nat) : Nat → List Char → List Char
  | _, [] => []
  | column, c :: cs =>
    if c = '\t' then
      let blanks := size - column % size
      List.replicate blanks ' ' ++ untabbed size (column + blanks) cs
    else if c = '\x08' then c :: untabbed size (column - 1) cs
    else if c = '\r' then c :: untabbed size 0 cs
    else c :: untabbed size (column + 1) cs

/-- Characters with a single blank instead of every run of blanks. -/
def narrowed : List Char → List Char
  | [] => []
  | [c] => if isBlank c then [' '] else [c]
  | c :: d :: cs =>
    if isBlank c then (if isBlank d then narrowed (d :: cs) else ' ' :: narrowed (d :: cs))
    else c :: narrowed (d :: cs)

/-- Characters without the blanks at their end. -/
def withoutEndBlanks (cs : List Char) : List Char := (cs.reverse.dropWhile isBlank).reverse

/-- A line as it counts. -/
def Manner.counted (k : Manner) (line : String) : List Char :=
  let ended := line.endsWith "\n"
  let cs := if ended then line.toList.dropLast else line.toList
  let cs := if k.has 'i' then cs.map Char.toLower else cs
  let cs := match k.blanks with
    | .count => cs
    | .tabsAsBlanks => untabbed k.look.tabSize 0 cs
    | .notAtEnd => withoutEndBlanks cs
    | .tabsAsBlanksNotAtEnd => withoutEndBlanks (untabbed k.look.tabSize 0 cs)
    | .once => withoutEndBlanks (narrowed cs)
    | .never => cs.filter fun c => !isBlank c
  if ended || k.blanks.skipsEnd then cs ++ ['\n'] else cs

/-- The lines of a text as they are compared. -/
def Manner.lines (k : Manner) (text : String) : List String :=
  let ls := fullLinesOf text
  let bare (l : String) : String :=
    if k.has '+' && l.endsWith "\r\n" then (l.dropEnd 2).toString ++ "\n" else l
  let finished (l : String) : String := if k.tellsEnds || l.endsWith "\n" then l else l ++ "\n"
  ls.map fun l => finished (bare l)

/-! ## What is shown -/

/-- A name as it stands in titles. -/
def shownName (name : String) : String :=
  let escaped (c : Char) : String :=
    if c = '"' ∨ c = '\\' then "\\" ++ c.toString
    else if c.toNat < 0x20 ∨ c.toNat = 0x7F then escapeOf c else c.toString
  let inner := String.join (name.toList.map escaped)
  if inner != name || name.toList.contains ' ' then "\"" ++ inner ++ "\"" else name

/-- A file that is compared: what it is called, and when it was changed. -/
structure Named where
  path : String
  time : Int

/-- What a file is called in messages: its label, or its path. -/
def Manner.label (k : Manner) (number : Nat) (path : String) : String :=
  ((k.given.values 'L')[number]?).getD path

/-- The titles of two texts. -/
def Manner.titles (k : Manner) (left right : Named) : String :=
  let form := if k.style = .twofold then "%a %b %e %T %Y" else "%Y-%m-%d %H:%M:%S.%N %z"
  let signs := if k.style = .twofold then ("***", "---") else ("---", "+++")
  let title (sign : String) (number : Nat) (n : Named) : String :=
    match (k.given.values 'L')[number]? with
    | some label => sign ++ " " ++ label
    | none => sign ++ " " ++ shownName n.path ++ "\t" ++ Moment.format n.time form
  k.look.paint .header (title signs.1 0 left) ++ "\n" ++
    k.look.paint .header (title signs.2 1 right) ++ "\n"

/-- The differences of two texts. -/
def Manner.show (k : Manner) (left right : Named) (as bs : Array String) (found : List Hunk) :
    String :=
  let told := found.filter fun h => !k.look.isTrivial [h]
  match k.style with
  | .changes => String.join (told.map k.look.change)
  | .edits => String.join (told.reverse.map (edit k.look))
  | .forwardEdits => String.join (told.map (forwardEdit k.look))
  | .patch => String.join (told.map (patchEdit k.look))
  | .sideBySide => sideBySide (.ofWidth k.width k.look (k.has 'm') (k.has '/')) as bs 0 0 found
  | .templates => merged k.templates k.look as bs 0 0 found
  | .unified | .twofold =>
    let groups := (grouped k.look k.context found).filter fun group => !k.look.isTrivial group
    let one := if k.style = .unified then unified k.look k.context else twofold k.look k.context
    if groups.isEmpty then "" else k.titles left right ++ String.join (groups.map (one as bs))

/-- How many bytes of a text are looked at in order to tell whether it is one. -/
def firstPart : Nat := 4096

/-- Whether some bytes are no text. -/
def isBinary (text : String) : Bool := (text.toList.take firstPart).contains (Char.ofNat 0)

/-- Compare two texts, and tell whether they differ, or what else is wrong with them. `below` tells
whether they are part of directories that are compared. -/
def compareTexts (k : Manner) (below : Bool) (left right : Named) (a b : String) : Task Nat := do
  let first := k.label 0 left.path
  let second := k.label 1 right.path
  if !k.has 'a' && (isBinary a || isBinary b) then
    if a == b then pure 0
    else
      say ((if k.has 'q' then "Files " else "Binary files ") ++ first ++ " and " ++ second ++
        " differ\n")
      pure 1
  else
    let as := k.lines a
    let bs := k.lines b
    let found := hunks k.counted k.horizon as bs
    let differs := found.any fun h => !k.look.isTrivial [h]
    if k.has 'q' then
      if differs then say ("Files " ++ first ++ " and " ++ second ++ " differ\n")
    else if !found.isEmpty || !k.isSilent then
      let text := k.show left right as.toArray bs.toArray found
      let startsAnyway := k.style = .sideBySide
      if below && (startsAnyway || !text.isEmpty) then
        say ("diff" ++ k.title ++ " " ++ shownName first ++ " " ++ shownName second ++ "\n")
      say text
    let loose : List String := if k.tellsEnds then []
      else [(first, a), (second, b)].filterMap fun (name, text) =>
        if text.isEmpty || text.endsWith "\n" then none else some name
    loose.forM fun name => remark (name ++ ": No newline at end of file\n")
    pure (if !loose.isEmpty then 2 else if differs then 1 else 0)

/-! ## What is compared -/

/-- One of two things that are compared. -/
inductive Side
  /-- There is nothing; it counts as something empty. -/
  | nothing
  /-- The input. -/
  | input
  /-- What lies at a location. -/
  | entry (loc : Location) (e : Entry)

/-- Whether something is a directory. -/
def Side.isDir : Side → Bool
  | .entry _ (.dir _) => true
  | _ => false

/-- Whether something is a file or a link. -/
def Side.isPlain : Side → Bool
  | .entry _ (.file ..) | .entry _ (.link _) => true
  | _ => false

/-- What kind of file something is. -/
def Side.kind : Side → String
  | .entry _ e => kindOf e
  | .input => "fifo"
  | .nothing => "regular file"

/-- What lies at a path, or the input. -/
def sideAt (k : Manner) (path : String) : Task (Except IoError Side) := do
  if path = "-" then pure (.ok .input)
  else
    let d ← files
    let found := if k.has 'K' then d.lstat (pathOf path) else d.stat (pathOf path)
    pure (found.map fun (loc, e) => .entry loc e)

/-- Whether two things are one. -/
def areOne (t : Tree) : Side → Side → Bool
  | .input, .input => true
  | .entry a _, .entry b _ => isOneFile t a b
  | _, _ => false

/-- When something was changed last. -/
def Side.time (t : Tree) : Side → Int
  | .nothing => 0
  | .input => t.clock
  | .entry loc _ => t.changed loc

/-- Names in the order in which files are compared: those of both directories, each with whether
either one has it. -/
def joinedNames (same : String → String → Bool) : Nat → List String → List String →
    List (Option String × Option String)
  | 0, _, _ => []
  | _, [], rs => rs.map fun r => (none, some r)
  | _, ls, [] => ls.map fun l => (some l, none)
  | n + 1, l :: ls, r :: rs =>
    if same l r then (some l, some r) :: joinedNames same n ls rs
    else if l < r then (some l, none) :: joinedNames same n ls (r :: rs)
    else (none, some r) :: joinedNames same n (l :: ls) rs

/-- The names in a directory that are compared. -/
def Manner.namesOf (k : Manner) (below : Bool) (path : String) (side : Side) :
    Task (Option (List String)) := do
  match side with
  | .nothing => pure (some [])
  | _ =>
    match ← namesIn path with
    | .error e => do
      remark (path ++ ": " ++ reasonOf e)
      pure none
    | .ok names =>
      let isExcluded (name : String) : Bool := k.excluded.any fun p =>
        Shell.fits (Shell.globs {} (p.toList.map fun c => (c, false))) name.toList
      let start := if below then none else k.given.value? 'S'
      let isEarly (name : String) : Bool := start.any fun s => name < s
      let kept := names.filter fun name => !isExcluded name && !isEarly name
      if k.has 'k' then pure (some (kept.mergeSort fun a b => a.toLower ≤ b.toLower))
      else pure (some kept)

/-- What is said of two things that cannot be compared. -/
def sayKinds (k : Manner) (left right : String) (a b : Side) : Task Unit :=
  say ("File " ++ k.label 0 left ++ " is a " ++ a.kind ++ " while file " ++ k.label 1 right ++
    " is a " ++ b.kind ++ "\n")

/-- Compare what lies at two paths, directories so many levels deep, and tell whether that differs,
or what else is wrong. If they are part of directories, these are given, and one of them may have
nothing there. -/
def comparePair (k : Manner) : Nat → Option (String × String) → Bool × String → Bool × String →
    Task Nat
  | 0, _, _, _ => pure 0
  | n + 1, parent, (isLeft, leftName), (isRight, rightName) => do
    let place (dir : Option String) (name : String) : String := match dir with
      | some dir => inside dir name
      | none => name
    let left := place (parent.map (·.1)) leftName
    let right := place (parent.map (·.2)) rightName
    let newLeft := k.has 'N' || k.has 'P'
    let look (isThere : Bool) (path : String) : Task (Except IoError Side) :=
      if isThere then sideAt k path else pure (.ok .nothing)
    let a ← look isLeft left
    let b ← look isRight right
    let orNothing (isNew : Bool) (x other : Except IoError Side) : Except IoError Side :=
      match x, other with
      | .error e, .ok _ => if isNew && e == .os .noEntry && parent.isNone then .ok .nothing else x
      | _, _ => x
    match orNothing newLeft a b, orNothing (k.has 'N') b a with
    | .error e, .error f => do
      remark (left ++ ": " ++ reasonOf e)
      remark (right ++ ": " ++ reasonOf f)
      pure 2
    | .error e, .ok _ => do
      remark (left ++ ": " ++ reasonOf e)
      pure 2
    | .ok _, .error e => do
      remark (right ++ ": " ++ reasonOf e)
      pure 2
    | .ok a, .ok b => do
      let lacks : Bool := match a, b with
        | .nothing, _ | _, .nothing => true
        | _, _ => false
      if parent.isNone && !lacks && a.isDir != b.isDir then
        let file := if a.isDir then right else left
        let dir := if a.isDir then left else right
        if file = "-" then die 2 "cannot compare '-' to a directory"
        let path := inside dir (lastName file)
        match ← sideAt k path with
        | .error e => do
          remark (path ++ ": " ++ reasonOf e)
          pure 2
        | .ok _ =>
          if a.isDir then comparePair k n none (true, path) (true, right)
          else comparePair k n none (true, left) (true, path)
      else
        let t := (← files).tree
        let isDirPair := (a.isDir || (lacks && b.isDir)) && (b.isDir || (lacks && a.isDir))
        let alone : Task Nat := do
          match parent with
          | some (l, r) =>
            let isHere : Bool := match a with
              | .nothing => false
              | _ => true
            say ("Only in " ++ (if isHere then l else r) ++ ": " ++ leftName ++ "\n")
            pure 1
          | none => pure 0
        let status ← if areOne t a b && k.isSilent then pure 0
          else if isDirPair then
            if k.style = .templates then die 2 "-D option not supported with directories"
            else if parent.isSome && !k.has 'r' then
              say ("Common subdirectories: " ++ left ++ " and " ++ right ++ "\n")
              pure 0
            else
              match ← k.namesOf parent.isSome left a, ← k.namesOf parent.isSome right b with
              | some ls, some rs =>
                let same (x y : String) : Bool :=
                  if k.has 'k' then x.toLower == y.toLower else x == y
                let pairs := joinedNames same (ls.length + rs.length) ls rs
                let results ← pairs.mapM fun (l, r) => do
                  match l, r with
                  | some l, some r => comparePair k n (some (left, right)) (true, l) (true, r)
                  | some l, none =>
                    if k.has 'N' then
                      comparePair k n (some (left, right)) (true, l) (false, l)
                    else
                      say ("Only in " ++ left ++ ": " ++ l ++ "\n")
                      pure 1
                  | none, some r =>
                    if newLeft then comparePair k n (some (left, right)) (false, r) (true, r)
                    else
                      say ("Only in " ++ right ++ ": " ++ r ++ "\n")
                      pure 1
                  | none, none => pure 0
                pure (results.foldl max 0)
              | _, _ => pure 2
          else if a.isDir || b.isDir ||
              (parent.isSome && !((a.isPlain || lacks) && (b.isPlain || lacks))) then
            if lacks then alone
            else
              sayKinds k left right a b
              pure 1
          else match a, b with
            | .entry _ (.link x), .entry _ (.link y) =>
              if x = y then pure 0
              else
                say ("Symbolic links " ++ left ++ " and " ++ right ++ " differ\n")
                pure 1
            | .entry _ (.link _), .entry _ _ | .entry _ _, .entry _ (.link _) => do
              sayKinds k left right a b
              pure 1
            | a, b => do
              let read (side : Side) (path : String) : Task (Option String) := do
                match side with
                | .nothing => pure (some "")
                | _ =>
                  match ← textOf path with
                  | .ok text => pure (some text)
                  | .error e => do
                    remark (path ++ ": " ++ reasonOf e)
                    pure none
              let x ← read a left
              let y ← if areOne t a b then pure x else read b right
              match x, y with
              | some x, some y =>
                compareTexts k parent.isSome ⟨left, a.time t⟩ ⟨right, b.time t⟩ x y
              | _, _ => pure 2
        if status = 0 && k.has 's' && !isDirPair then
          say ("Files " ++ k.label 0 left ++ " and " ++ k.label 1 right ++ " are identical\n")
        pure status

/-! ## Options -/

/-- The options of `diff`. -/
def choices : Choices where
  letters := "0123456789abBcC:dD:eEfF:hHiI:lL:nNpPqrsS:tTuU:vwW:x:X:yZ"
  words := [("binary", 'h'), ("brief", 'q'), ("changed-group-format:", 'M'), ("color::", 'G'),
    ("context::", 'C'), ("ed", 'e'), ("exclude", 'x'), ("exclude-from", 'X'), ("expand-tabs", 't'),
    ("forward-ed", 'f'), ("from-file:", 'j'), ("horizon-lines:", 'z'), ("ifdef", 'D'),
    ("ignore-all-space", 'w'), ("ignore-blank-lines", 'B'), ("ignore-case", 'i'),
    ("ignore-file-name-case", 'k'), ("ignore-matching-lines", 'I'), ("ignore-space-change", 'b'),
    ("ignore-tab-expansion", 'E'), ("ignore-trailing-space", 'Z'), ("inhibit-hunk-merge", 'h'),
    ("initial-tab", 'T'), ("label", 'L'), ("left-column", 'm'), ("line-format:", 'o'),
    ("minimal", 'd'), ("new-file", 'N'), ("new-group-format:", 'g'), ("new-line-format:", 'J'),
    ("no-dereference", 'K'), ("no-ignore-file-name-case", 'O'), ("normal", 'Q'),
    ("old-group-format:", 'R'), ("old-line-format:", 'V'), ("paginate", 'l'), ("palette:", 'Y'),
    ("rcs", 'n'), ("recursive", 'r'), ("report-identical-files", 's'),
    ("sdiff-merge-assist", 'A'), ("show-c-function", 'p'), ("show-function-line", 'F'),
    ("side-by-side", 'y'), ("speed-large-files", 'H'), ("starting-file", 'S'),
    ("strip-trailing-cr", '+'), ("suppress-blank-empty", '*'), ("suppress-common-lines", '/'),
    ("tabsize:", '='), ("text", 'a'), ("to-file:", '@'), ("unchanged-group-format:", '%'),
    ("unchanged-line-format:", '&'), ("unidirectional-new-file", 'P'), ("unified::", 'U'),
    ("width", 'W')]
  trouble := 2
  helpLead := "diff: "

/-- The form that an option asks for. -/
def styleOf? : Char → Option Style
  | 'c' | 'C' => some .twofold
  | 'u' | 'U' => some .unified
  | 'e' => some .edits
  | 'f' => some .forwardEdits
  | 'n' => some .patch
  | 'y' => some .sideBySide
  | 'Q' => some .changes
  | c => if "DMgR%oJV&".toList.contains c then some .templates else none

/-- The form that options ask for, after another one was asked for. -/
def styleFrom : Option Style → List Char → Task (Option Style)
  | found, [] => pure found
  | found, c :: cs =>
    match styleOf? c, found with
    | some style, some other =>
      if style = other then styleFrom found cs
      else refuse choices "conflicting output style options"
    | some style, none => styleFrom (some style) cs
    | none, _ => styleFrom found cs

/-- The number that an option spells. -/
def numberOf (what : String) (least : Nat) (text : String) : Task Nat := do
  match amount? "" text with
  | .ok n => if n < least then wrong else pure n
  | .error .tooLarge => pure maxAmount
  | .error _ => wrong
where
  /-- Complain about it. -/
  wrong : Task Nat := refuse choices ("invalid " ++ what ++ " '" ++ text ++ "'")

/-- The only number that an option spells. -/
def oneNumberOf (what : String) (texts : List String) : Task (Option Nat) := do
  let ns ← texts.mapM (numberOf what 1)
  match ns with
  | [] => pure none
  | n :: more =>
    if more.all (· == n) then pure (some n) else die 2 ("conflicting " ++ what ++ " options")

/-- The templates for a kind of lines that options ask for, together with others. -/
def templateFrom (option : String) (found : List (Kind × String)) (kinds : List Kind)
    (text : String) : Task (List (Kind × String)) := do
  match kinds.find? fun k => (found.lookup k).any (· != text) with
  | some _ => refuse choices ("conflicting " ++ option ++ " option value '" ++ text ++ "'")
  | none => pure (found ++ kinds.map fun k => (k, text))

/-- The templates that options ask for, together with others. -/
def templatesFrom : Templates → List (Char × String) → Task Templates
  | t, [] => pure t
  | t, (c, text) :: rest => do
    let group (option : String) (kind : Kind) : Task Templates := do
      pure { t with groups := ← templateFrom option t.groups [kind] text }
    let line (option : String) (kinds : List Kind) : Task Templates := do
      pure { t with lines := ← templateFrom option t.lines kinds text }
    let t ← match c with
      | 'M' => group "--changed-group-format" .changed
      | 'g' => group "--new-group-format" .second
      | 'R' => group "--old-group-format" .first
      | '%' => group "--unchanged-group-format" .both
      | 'J' => line "--new-line-format" [.second]
      | 'V' => line "--old-line-format" [.first]
      | '&' => line "--unchanged-line-format" [.both]
      | 'o' => line "--line-format" [.both, .first, .second]
      | 'D' => do
        let groups ← (Templates.ofName text).groups.foldlM (fun found (kind, text) =>
          templateFrom "-D" found [kind] text) t.groups
        pure { t with groups }
      | _ => pure t
    templatesFrom t rest

/-- The expressions that an option spells. -/
def expressionsOf (texts : List String) : Task (List Regex) :=
  texts.mapM fun text => do
    match Regex.ofChars { extended := false } text.toList with
    | .ok r => pure r
    | .error e => die 2 (text ++ ": " ++ e.message)

/-- Which blanks do not count, as options say it. -/
def Blanks.ofGiven (g : Given) : Blanks :=
  if g.has 'w' then .never
  else if g.has 'b' then .once
  else match g.has 'E', g.has 'Z' with
    | true, true => .tabsAsBlanksNotAtEnd
    | true, false => .tabsAsBlanks
    | false, true => .notAtEnd
    | false, false => .count

/-- The number that options of one digit each spell. -/
def digitsGiven (g : Given) : Option Nat :=
  let read (found : Option Nat × Bool) (c : Char) : Option Nat × Bool :=
    if c.isDigit then
      let digit := c.toNat - '0'.toNat
      (some (if found.2 then found.1.getD 0 * 10 + digit else digit), true)
    else (found.1, false)
  ((g.options.map (·.1)).foldl read (none, false)).1

/-- The arguments that hold options, given so many arguments at most. -/
def switchesOf : Nat → List String → Task (List String)
  | 0, _ => pure []
  | n + 1, args => do
    let g ← Tools.given { choices with ordered := true } args
    let front := args.take (args.length - g.operands.length)
    match front.getLast?, g.operands with
    | some "--", _ | _, [] => pure front
    | _, _ :: more => do pure (front ++ (← switchesOf n more))

/-- The word that says when colours are used. -/
def colorsOf (g : Given) : Task Bool := do
  match g.value? 'G' with
  | none => pure false
  | some word =>
    if word = "always" then pure true
    else if ["never", "auto", ""].contains word then pure false
    else refuse choices ("invalid color '" ++ word ++ "'")

/-- How options ask for files to be compared. -/
def mannerOf (g : Given) (args : List String) : Task Manner := do
  let asked ← styleFrom none (g.options.map (·.1))
  let lengths ← (g.options.filter fun o => o.1 == 'C' || o.1 == 'U').mapM fun o =>
    if o.2.isEmpty then pure 3 else numberOf "context length" 0 o.2
  let least := if g.has 'c' || g.has 'u' || (g.has 'p' && asked.isNone) then 3 else 0
  let context := lengths.foldl max least
  let context := match digitsGiven g with
    | some n => if context < n || (n < context && lengths.isEmpty) then n else context
    | none => context
  let style := asked.getD (if g.has 'p' then .twofold else .changes)
  let horizon ← (g.values 'z').mapM (numberOf "horizon length" 0)
  if 2 < (g.values 'L').length then die 2 "too many file label options"
  let width ← oneNumberOf "width" (g.values 'W')
  let tabSize ← oneNumberOf "tabsize" (g.values '=')
  let blanks := Blanks.ofGiven g
  let skipped ← expressionsOf (g.values 'I')
  let titles ← expressionsOf ((if g.has 'p' then ["^[[:alpha:]$_]"] else []) ++ g.values 'F')
  let lists ← (g.values 'X').mapM fun path => do
    match ← textOf path with
    | .ok text => pure ((linesOf text).filter fun l => !l.isEmpty)
    | .error e => die 2 (path ++ ": " ++ reasonOf e)
  let look : Look :=
    { expands := g.has 't', tabSize := tabSize.getD 8, tabbed := g.has 'T', bare := g.has '*'
      colored := ← colorsOf g, skipsEmpty := g.has 'B', skipsBlank := blanks.skipsEnd, skipped
      titles }
  let context := if style = .unified ∨ style = .twofold then context else 0
  pure
    { style, given := g, context, horizon := horizon.foldl max context, width := width.getD 130
      look, blanks, templates := ← templatesFrom {} g.options
      excluded := g.values 'x' ++ lists.flatten
      title := String.join ((← switchesOf (args.length + 1) args).map fun a =>
        " " ++ quotedIfOdd a) }

end AslBuild.Tools.Diff

namespace AslBuild.Tools

open Host Diff in
/-- Compare two files line by line, or all files in two directories. -/
def diff : Tool := .ofTask fun args => do
  let g ← given Diff.choices args
  let k ← mannerOf g args
  let compare (left right : String) : Task Unit := do
    mark (← comparePair k depthLimit none (true, left) (true, right))
  match g.value? 'j', g.value? '@' with
  | some _, some _ => die 2 "--from-file and --to-file both specified"
  | some left, none => g.operands.forM fun right => compare left right
  | none, some right => g.operands.forM fun left => compare left right
  | none, none =>
    match g.operands with
    | [] => refuse Diff.choices ("missing operand after '" ++ args.getLast?.getD "diff" ++ "'")
    | [a] => refuse Diff.choices ("missing operand after '" ++ a ++ "'")
    | [left, right] => compare left right
    | _ :: _ :: extra :: _ => refuse Diff.choices ("extra operand '" ++ extra ++ "'")

end AslBuild.Tools
