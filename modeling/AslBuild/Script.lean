import AslBuild.Failure
import AslBuild.Pipeline.Stage
import AslBuild.Text.Blank
set_option autoImplicit false

/-!
# Scripts

A script is a text of lines, each blank, a comment after `//`, or a directive: the mark `:`, a name
and arguments, with blanks between them. A pipeline is written as one, with a comment above each
stage, and the directives of a script are read back as stages.

## Main definitions

* `AslBuild.Script.render` — the script of a pipeline.
* `AslBuild.Script.readLine` — the stage on a line, if there is one.
* `AslBuild.Script.parse` — the stages of a script, or the first line that cannot be read.
-/

namespace AslBuild.Script

/-! ## Writing -/

/-- What a comment starts with. -/
def commentMark : String := "//"

/-- The lines at the top of a script. The command that the script is made by may be recorded there.
-/
def header (command : Option String) : List String :=
  "// Autogenerated script to generate C code from ASL" ::
    match command with
    | none => []
    | some command => ["//", "// Generated by command: " ++ command]

/-- The lines of a stage. A snapshot stands right below the stage that it belongs to. -/
def stageLines (s : Stage) : List String :=
  if s.isSnapshot then [s.text] else ["", commentMark ++ " " ++ s.directive.summary, s.text]

/-- Lines as one text, each with a line end after it. -/
def ofLines (lines : List String) : String := String.join (lines.map (· ++ "\n"))

/-- The script of a pipeline. -/
def render (p : Pipeline) (command : Option String) : String :=
  ofLines (header command ++ p.stages.flatMap stageLines)

/-! ## Reading -/

/-- The stage on a line: none on a blank line and in a comment. -/
def readLine (line : List Char) : Except ScriptFlaw (Option Stage) :=
  match Text.trimChars line with
  | [] => .ok none
  | '/' :: '/' :: _ => .ok none
  | ':' :: rest =>
    match (Text.wordChars rest).map String.ofList with
    | [] => .error .missingName
    | name :: arguments =>
      match Directive.ofName? name with
      | some directive => .ok (some ⟨directive, arguments⟩)
      | none => .error (.unknownName name)
  | other => .error (.notDirective (String.ofList other))

/-- The stages on some lines, the first of which has the given number. -/
def readLines : Nat → List (List Char) → Except Failure (List Stage)
  | _, [] => .ok []
  | n, line :: lines =>
    match readLine line with
    | .error flaw => .error (.malformed n flaw)
    | .ok none => readLines (n + 1) lines
    | .ok (some stage) => do
      let stages ← readLines (n + 1) lines
      .ok (stage :: stages)

/-- The stages of a script. Lines are counted from 1. -/
def parse (text : String) : Except Failure (List Stage) :=
  readLines 1 (Text.pieces (· == '\n') text.toList)

end AslBuild.Script
