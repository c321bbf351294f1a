import AslBuild.Text.Regex
set_option autoImplicit false

/-!
# Editing scripts

A script is a list of instructions that are carried out for every line of a text. An instruction may
be meant for some lines only.

## Main definitions

* `AslBuild.Tools.Sed.Guard` — the lines that an instruction is meant for.
* `AslBuild.Tools.Sed.Action` — what an instruction does.
* `AslBuild.Tools.Sed.Instruction` — an instruction.
-/

namespace AslBuild.Tools.Sed

open Text

/-! ## For which lines -/

/-- An expression; nothing stands for the one that was used last. -/
abbrev Pattern : Type := Option Regex

/-- Which lines are meant. -/
inductive Address
  /-- The one with a number. -/
  | line (number : Nat)
  /-- Every so many lines, from one on. -/
  | every (first step : Nat)
  /-- The last one. -/
  | last
  /-- Those in which an expression is found. -/
  | holding (pattern : Pattern)

/-- Where a range of lines ends. -/
inductive Stop
  /-- Where an address says. -/
  | at_ (address : Address)
  /-- So many lines later. -/
  | after (count : Nat)
  /-- At the next line with a multiple of a number. -/
  | multiple (number : Nat)

/-- The lines that an instruction is meant for. -/
structure Guard where
  /-- The only lines, or those at which ranges start. -/
  first : Option Address := none
  /-- Where the ranges end. -/
  stop : Option Stop := none
  /-- Whether all other lines are meant. -/
  negated : Bool := false

/-! ## What is done -/

/-- How the case of letters is changed. -/
inductive Casing
  /-- To capitals. -/
  | upper
  /-- To small letters. -/
  | lower
  /-- Not at all. -/
  | plain
deriving DecidableEq

/-- A piece of what is put in the place of a match. -/
inductive Piece
  /-- Characters. -/
  | text (cs : List Char)
  /-- What a part of the expression matched. -/
  | group (number : Nat)
  /-- From here on, the case of letters is changed. -/
  | casing (c : Casing)
  /-- The case of the next letter is changed. -/
  | nextCasing (c : Casing)

/-- How matches are replaced. -/
structure Substitution where
  /-- What is looked for. -/
  pattern : Pattern
  /-- What is put in its place. -/
  pieces : List Piece
  /-- The number of the match that is replaced first. -/
  which : Nat := 1
  /-- Whether all matches from there on are replaced. -/
  everywhere : Bool := false
  /-- Whether the line is run as a command then, and what the command prints becomes the line. -/
  runs : Bool := false
  /-- Whether the line is printed then. -/
  prints : Bool := false
  /-- Whether the line is printed before it is run. -/
  printsFirst : Bool := false
  /-- The file that the line is written to then. -/
  file : Option String := none

/-- When the script goes on elsewhere. -/
inductive Condition
  /-- In any case. -/
  | always
  /-- If something was replaced since the line was read. -/
  | replaced
  /-- If nothing was. -/
  | notReplaced
deriving DecidableEq

/-- What an instruction does. -/
inductive Action
  /-- Go past the instructions in front of another one, if the line is not meant. -/
  | block (stop : Nat)
  /-- Nothing. -/
  | nothing
  /-- Print the number of the line. -/
  | number
  /-- Print a text at the end of the cycle. -/
  | append (text : String)
  /-- Print a text. -/
  | insert (text : String)
  /-- Print a text instead of the lines. -/
  | change (text : String)
  /-- Go on at another instruction. -/
  | branch (condition : Condition) (target : Nat)
  /-- Delete the line. -/
  | delete
  /-- Delete the first line of several. -/
  | deleteFirst
  /-- Empty the line. -/
  | clear
  /-- Take what is held, behind the line or in its place. -/
  | take (append : Bool)
  /-- Hold the line, behind what is held or in its place. -/
  | hold (append : Bool)
  /-- Exchange the line and what is held. -/
  | exchange
  /-- Print the line so that everything in it can be seen. -/
  | list (width : Option Nat)
  /-- Go on with the next line, or add it. -/
  | next (append : Bool)
  /-- Print the line, or the first one of several. -/
  | print (firstOnly : Bool)
  /-- End, with a status. -/
  | quit (status : Nat) (prints : Bool)
  /-- Print a file at the end of the cycle. -/
  | readFile (path : String)
  /-- Print a line of a file at the end of the cycle. -/
  | readLine (path : String)
  /-- Replace matches. -/
  | substitute (s : Substitution)
  /-- Replace characters. -/
  | translate (pairs : List (Char × Char))
  /-- Write the line to a file, or the first one of several. -/
  | write (path : String) (firstOnly : Bool)
  /-- Print the name of the file. -/
  | fileName
  /-- Run a command, and print what it prints; without one, the line is run, and what it prints
  becomes the line. -/
  | run (command : Option String)

/-- An instruction. -/
structure Instruction where
  /-- The lines that it is meant for. -/
  guard : Guard
  /-- What it does. -/
  action : Action

end AslBuild.Tools.Sed
