import AslBuild.FileSystem.Permission
import AslBuild.Text.Date
import AslBuild.Text.Template
import AslBuild.Tools.Names
set_option autoImplicit false

/-!
# Templates for files that are found

## Main definitions

* `AslBuild.Tools.Find.Found` — a file that is looked at.
* `AslBuild.Tools.Find.Piece`, `AslBuild.Tools.Find.piecesOf` — the parts of a template.
* `AslBuild.Tools.Find.filled` — a template with what is known of a file.
-/

namespace AslBuild.Tools.Find

open FileSystem Text

/-- A file that is looked at. -/
structure Found where
  /-- Its path. -/
  path : String
  /-- The path that was given. -/
  top : String
  /-- How deep it is below that. -/
  depth : Nat
  /-- Its location. -/
  place : Location
  /-- What it is. -/
  entry : Entry

/-- The letter of the kind of a file. -/
def letterOf (e : Entry) : Char :=
  match e with
  | .file .. => 'f'
  | e => kindLetter e

/-! ## Parts of templates -/

/-- A part of a template. -/
inductive Piece
  /-- A text. -/
  | text (s : String)
  /-- What a letter stands for, in a form. -/
  | field (form : Template.Directive) (letter : Char)
  /-- When the file was changed, as a letter for a part of a date asks for it. -/
  | time (form : Template.Directive) (letter : Char)
  /-- The end of the template. -/
  | stop

/-- The parts of a template, and what is said of those that make no sense. -/
structure Pieces where
  /-- The parts. -/
  parts : List Piece := []
  /-- What is said. -/
  warnings : List String := []

namespace Pieces

/-- Put a part in front. -/
def add (p : Piece) (ps : Pieces) : Pieces := { ps with parts := p :: ps.parts }

/-- Put a warning in front. -/
def warn (message : String) (ps : Pieces) : Pieces :=
  { ps with warnings := ("warning: " ++ message) :: ps.warnings }

end Pieces

/-- The letters that stand for something. -/
def fieldLetters : String := "abcdDfFgGhHiklmMnpPsStuUyYZ"

/-- The letters that stand for times, in forms that a second letter names. -/
def timeLetters : String := "ABCT"

/-- The form in a directive, and what follows it. -/
def formOf (cs : List Char) : Template.Directive × List Char :=
  let flags := cs.takeWhile fun c => "-+ #0'".toList.contains c
  let cs := cs.drop flags.length
  let width := cs.takeWhile Char.isDigit
  let cs := cs.drop width.length
  let (precision, cs) : Option Nat × List Char := match cs with
    | '.' :: cs =>
      let ds := cs.takeWhile Char.isDigit
      (some ((String.ofList ds).toNat?.getD 0), cs.drop ds.length)
    | cs => (none, cs)
  ({ flags, width := (String.ofList width).toNat?.getD 0, precision }, cs)

/-- The parts of a template, of which at most so many characters are read. The failure is what is said
of a template that cannot be used. -/
def piecesFrom : Nat → List Char → Except String Pieces
  | n + 1, '\\' :: cs =>
    match cs with
    | [] =>
      .ok ((Pieces.add (.text "\\") {}).warn "escape \x60\\' followed by nothing at all")
    | 'c' :: _ => .ok (Pieces.add .stop {})
    | c :: rest =>
      let (code, after) := Escape.readDigits 8 3 0 cs
      if after.length < cs.length then
        (piecesFrom n after).map (Pieces.add (.text (Escape.byteChar code).toString))
      else match Escape.letter? c with
        | some d => (piecesFrom n rest).map (Pieces.add (.text d.toString))
        | none =>
          (piecesFrom n rest).map fun ps =>
            (ps.add (.text ("\\" ++ c.toString))).warn
              ("unrecognized escape \x60\\" ++ c.toString ++ "'")
  | n + 1, '%' :: cs =>
    match cs with
    | [] => .error "error: % at end of format string"
    | '%' :: cs => (piecesFrom n cs).map (Pieces.add (.text "%"))
    | cs =>
      let (form, rest) := formOf cs
      let spelled := "%" ++ String.ofList (cs.take (cs.length - rest.length))
      match rest with
      | [] => .error ("error: the format directive \x60%\x00' is reserved for future use")
      | c :: rest =>
        if fieldLetters.toList.contains c then (piecesFrom n rest).map (Pieces.add (.field form c))
        else if timeLetters.toList.contains c then
          match rest with
          | k :: rest => (piecesFrom n rest).map (Pieces.add (.time form k))
          | [] =>
            .ok ((Pieces.add (.text (spelled ++ c.toString)) {}).warn
              ("format directive \x60%" ++ c.toString ++
                "' should be followed by another character"))
        else if "\x7b[(".toList.contains c then
          .error ("error: the format directive \x60%" ++ c.toString ++
            "' is reserved for future use")
        else (piecesFrom n rest).map fun ps =>
          (ps.add (.text (spelled ++ c.toString))).warn
            ("unrecognized format directive \x60%" ++ c.toString ++ "'")
  | n + 1, c :: cs => (piecesFrom n cs).map (Pieces.add (.text c.toString))
  | _, _ => .ok {}

/-- The parts of a template. -/
def piecesOf (template : String) : Except String Pieces :=
  piecesFrom (template.length + 1) template.toList

/-! ## What is known of a file -/

/-- The part of a second in a time. -/
def fraction (t : Int) : String :=
  "." ++ Moment.padded '0' 3 (t.emod 1000).toNat ++ "0000000"

/-- A time as a letter asks for it. -/
def timeText (t : Int) (letter : Char) : String :=
  let plain (template : String) : String := Moment.format t template
  match letter with
  | '@' => toString (t.fdiv 1000) ++ fraction t
  | '+' => plain "%Y-%m-%d+%H:%M:%S" ++ fraction t
  | 'S' => plain "%S" ++ fraction t
  | 'T' | 'X' => plain "%H:%M:%S" ++ fraction t
  | 'q' => "%q"
  | c => plain ("%" ++ c.toString)

/-- The number of blocks that a file takes. -/
def blocksOf (e : Entry) : Nat :=
  match e with
  | .file contents _ => (contents.length + 4095) / 4096 * 8
  | .dir _ => 8
  | _ => 0

/-- The letter of what a file is, links followed. -/
def letterBehind (d : Disk) (f : Found) : Char :=
  match f.entry with
  | .link _ =>
    match d.stat (pathOf f.path) with
    | .ok (_, e) => letterOf e
    | .error e => if e = .os .noEntry then 'N' else if e = .os .tooManyLinks then 'L' else '?'
  | e => letterOf e

/-- The directory of a path, as far as it is spelled. -/
def leadOf (path : String) : String :=
  if path.toList.contains '/' then
    String.ofList ((path.toList.reverse.dropWhile (· != '/')).drop 1).reverse
  else "."

/-- The path of a file below the one that was given. -/
def restOf (f : Found) : String :=
  let rest := (f.path.drop f.top.length).toString
  if rest.startsWith "/" then (rest.drop 1).toString else rest

/-- What a letter stands for. -/
def fieldText (d : Disk) (f : Found) (form : Template.Directive) (letter : Char) : String :=
  let text (s : String) : String :=
    form.pad (match form.precision with
      | some n => (s.take n).toString
      | none => s)
  match letter with
  | 'd' => form.signed f.depth
  | 'm' => form.unsigned 8 false (entryMode f.entry)
  | 'p' => text f.path
  | 'f' => text (lastName f.path)
  | 'h' => text (leadOf f.path)
  | 'P' => text (restOf f)
  | 'H' => text f.top
  | 's' => text (toString (entrySize f.entry))
  | 'y' => text (letterOf f.entry).toString
  | 'Y' => text (letterBehind d f).toString
  | 'M' => text (Permission.listed (kindLetter f.entry) (entryMode f.entry))
  | 'n' => text (toString (entryLinks d.tree f.place f.entry))
  | 'l' => text (match f.entry with
    | .link target => Raw.ofText target
    | _ => "")
  | 'u' | 'g' => text userName
  | 'U' | 'G' => text (toString userNumber)
  | 'b' => text (toString (blocksOf f.entry))
  | 'k' => text (toString ((blocksOf f.entry + 1) / 2))
  | 'a' | 'c' | 't' =>
    let t := d.tree.changed f.place
    text (Moment.format t "%a %b %e %H:%M:%S" ++ fraction t ++ Moment.format t " %Y")
  | 'i' => text (toString (entryNumber d.tree f.place))
  | 'S' => text "1"
  | 'D' => text "1"
  | 'F' => text "ext4"
  | _ => text ""

/-- A template with what is known of a file. -/
def filled (d : Disk) (f : Found) : List Piece → String
  | [] | .stop :: _ => ""
  | .text s :: rest => s ++ filled d f rest
  | .field form letter :: rest => fieldText d f form letter ++ filled d f rest
  | .time form letter :: rest =>
    form.pad (timeText (d.tree.changed f.place) letter) ++ filled d f rest

end AslBuild.Tools.Find
