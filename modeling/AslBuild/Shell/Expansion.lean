import AslBuild.Shell.Braces
import AslBuild.Shell.Fields
import AslBuild.Shell.Parameters
set_option autoImplicit false

/-!
# Expansion

The parameters of a word are replaced by their values, its calculations by numbers, and its commands
by what they print.

## Main definitions

* `AslBuild.Shell.atomsOf` — the atoms of a word.
* `AslBuild.Shell.fieldsOf`, `AslBuild.Shell.textOf`, `AslBuild.Shell.patternOf` — a word as
  fields, as a text, and as a pattern.
-/

namespace AslBuild.Shell

open FileSystem Host Text

/-! ## Words -/

/-- The atoms of a part of a word. -/
def partAtoms (e : Engine) (splits : Bool) : Part → Sh (List Atom)
  | .text cs quoted =>
    pure (if quoted && cs.isEmpty then [.mark] else cs.map (.char · quoted))
  | .parameter name subscript change quoted =>
    parameterAtoms e splits name subscript change quoted
  | .output body quoted => do
    pure (atomsOfText quoted (← e.output body))
  | .arithmetic w quoted => do
    let n ← calculate (joined (← e.atoms false w))
    pure (atomsOfText quoted (toString n))
  | .channel body isRead => do
    let channel ← if isRead then do
        let channel ← onMachine fun _ => newPipe []
        Act.update fun s => { s with consumers := s.consumers ++ [(channel, body)] }
        pure channel
      else e.feed body
    let used := (← Act.read).process.descriptors.map (·.1)
    let number := ((List.range' 20 44).reverse.find? fun n => !used.contains n).getD 63
    changeProcess fun p => p.setChannel number (some channel)
    pure (atomsOfText true ("/dev/fd/" ++ toString number))

/-- The atoms of a word. -/
def atomsOf (e : Engine) (splits : Bool) : Word → Sh (List Atom)
  | [] => pure []
  | p :: ps => do
    let first ← partAtoms e splits p
    pure (first ++ (← atomsOf e splits ps))

/-! ## Results -/

/-- The fields of a word. -/
def fieldsOf (e : Engine) (w : Word) : Sh (List String) := do
  let s ← Act.read
  let atoms ← atomsOf e true (withTilde s w)
  let s ← Act.read
  pure (← (fields s.separators atoms).mapM filesOf).flatten

/-- The fields of some words. -/
def fieldsOfAll (e : Engine) : List Word → Sh (List String)
  | [] => pure []
  | w :: ws => do
    let s ← Act.read
    let rec each : List Word → Sh (List String)
      | [] => pure []
      | v :: vs => do
        let first ← fieldsOf e v
        pure (first ++ (← each vs))
    let first ← each (bracesOf s w)
    pure (first ++ (← fieldsOfAll e ws))

/-- The text of a word, which stays in one piece. -/
def textOf (e : Engine) (w : Word) : Sh String := do
  let s ← Act.read
  pure (joined (← atomsOf e false (withTilde s w)))

/-- The text that a variable is set to. -/
def assignedText (e : Engine) (w : Word) : Sh String := do
  let s ← Act.read
  pure (joined (← atomsOf e false (withTildes s true w)))

/-- The pattern of a word. -/
def patternOf (e : Engine) (style : GlobStyle) (w : Word) : Sh (List Glob) := do
  let s ← Act.read
  pure (globs style (charsOf (← atomsOf e false (withTilde s w))))

end AslBuild.Shell
