import AslBuild.Tools.Amount
import AslBuild.Tools.Listing.Names
import AslBuild.Tools.Names
set_option autoImplicit false

/-!
# What is known of files

The format in which it is shown has directives: a percent sign, flags, a width and a precision, and a
letter for what is shown.

## Main definitions

* `AslBuild.Tools.StatusField` — what a directive stands for.
* `AslBuild.Tools.StatusPart` — the parts of a format.
* `AslBuild.Tools.stat` — show what is known of files.
-/

namespace AslBuild.Tools

open FileSystem Host Text

/-! ## Fields -/

/-- What a directive stands for. -/
inductive StatusField
  /-- A text. -/
  | text (s : String)
  /-- A number in a base. -/
  | number (base n : Nat)
  /-- A time, as thousandths of a second. -/
  | time (t : Int)

/-- The bits in front of a mode for a kind of file. -/
def kindBits : Entry → Nat
  | .dir _ => 0x4000
  | .file .. => 0x8000
  | .link _ => 0xA000
  | .device _ => 0x2000

/-- The numbers of a device. -/
def deviceNumbers : Entry → Nat × Nat
  | .device .null => (1, 3)
  | .device .zero => (1, 5)
  | .device .full => (1, 7)
  | .device .terminal => (5, 0)
  | _ => (0, 0)

/-- What one letter stands for. `style` is how names are shown. -/
def statusField (t : Tree) (style : NameStyle) (path : String) (loc : Location) (e : Entry) :
    Char → Option StatusField
  | 'a' => some (.number 8 (shownModeOf loc e))
  | 'A' => some (.text (Permission.listed (kindLetter e) (shownModeOf loc e)))
  | 'b' => some (.number 10 ((entrySize e + 4095) / 4096 * 8))
  | 'B' => some (.number 10 512)
  | 'C' => some (.text "?")
  | 'd' => some (.number 10 64)
  | 'D' => some (.number 16 64)
  | 'f' => some (.number 16 (kindBits e + shownModeOf loc e))
  | 'F' => some (.text (kindOf e))
  | 'g' | 'u' => some (.number 10 (if isHosts loc then 0 else userNumber))
  | 'G' | 'U' => some (.text (if isHosts loc then "root" else userName))
  | 'h' => some (.number 10 ((entryLinks t loc e)))
  | 'i' => some (.number 10 (entryNumber t loc))
  | 'm' => some (.text "/")
  | 'n' => some (.text path)
  | 'N' => some (.text (style.apply [] path ++ match e with
    | .link target => " -> " ++ style.apply [] (Raw.ofText target)
    | _ => ""))
  | 'o' => some (.number 10 4096)
  | 's' => some (.number 10 (entrySize e))
  | 't' => some (.number 16 (deviceNumbers e).1)
  | 'T' => some (.number 16 (deviceNumbers e).2)
  | 'w' | 'x' | 'y' | 'z' =>
    some (.text (Moment.format (t.changed loc) "%Y-%m-%d %H:%M:%S.%N %z"))
  | 'W' | 'X' | 'Y' | 'Z' => some (.time (t.changed loc))
  | _ => none

/-! ## Formats -/

/-- A part of a format. -/
inductive StatusPart
  /-- Text as it is. -/
  | plain (s : String)
  /-- A directive: its flags, its width, its precision and its letter. -/
  | directive (flags : List Char) (width : Nat) (precision : Option (Option Nat)) (letter : Char)
  /-- A directive that makes no sense. -/
  | bad (s : String)
  /-- A warning. -/
  | warning (s : String)

/-- The escape that some characters behind a backslash start with. -/
def statusEscape : List Char → List StatusPart × List Char
  | [] => ([.warning "backslash at end of format", .plain "\\"], [])
  | c :: cs =>
    let ds := ((c :: cs).take 3).takeWhile fun d => '0' ≤ d && d ≤ '7'
    let hs := (cs.take 2).takeWhile fun d => Escape.digitOf d < 16
    let value (base : Nat) (ds : List Char) : Char :=
      Char.ofNat (ds.foldl (fun n d => n * base + Escape.digitOf d) 0 % 256)
    if !ds.isEmpty then ([.plain (value 8 ds).toString], (c :: cs).drop ds.length)
    else if c = 'x' ∧ !hs.isEmpty then ([.plain (value 16 hs).toString], cs.drop hs.length)
    else
      let known := [('a', 7), ('b', 8), ('e', 27), ('f', 12), ('n', 10), ('r', 13), ('t', 9),
        ('v', 11), ('"', 34), ('\\', 92)]
      match known.lookup c with
      | some n => ([.plain (Char.ofNat n).toString], cs)
      | none =>
        ([.warning ("unrecognized escape '\\" ++ c.toString ++ "'"), .plain c.toString], cs)

/-- The parts of a format, of which at most so many are read. -/
def statusParts (escapes : Bool) : Nat → List Char → List StatusPart
  | 0, _ => []
  | _, [] => []
  | n + 1, '%' :: cs =>
    let flags := cs.takeWhile fun c => "'-+ #0I".toList.contains c
    let rest := cs.drop flags.length
    let ds := rest.takeWhile Char.isDigit
    let rest := rest.drop ds.length
    let (precision, point, rest) := match rest with
      | '.' :: rest =>
        let ps := rest.takeWhile Char.isDigit
        (some ((String.ofList ps).toNat?), '.' :: ps, rest.drop ps.length)
      | rest => (none, [], rest)
    let front := flags ++ ds ++ point
    let width := ((String.ofList ds).toNat?).getD 0
    match rest with
    | [] => [if front.isEmpty then .plain "%" else .bad (String.ofList ('%' :: front))]
    | '%' :: rest =>
      if front.isEmpty then .plain "%" :: statusParts escapes n rest
      else [.bad (String.ofList ('%' :: front ++ ['%']))]
    | 'H' :: c :: rest | 'L' :: c :: rest =>
      if c = 'd' ∨ c = 'r' then .directive flags width precision 'd' :: statusParts escapes n rest
      else .plain "?" :: statusParts escapes n (c :: rest)
    | c :: rest => .directive flags width precision c :: statusParts escapes n rest
  | n + 1, '\\' :: cs =>
    if escapes then
      let (parts, rest) := statusEscape cs
      parts ++ statusParts escapes n rest
    else .plain "\\" :: statusParts escapes n cs
  | n + 1, c :: cs => .plain c.toString :: statusParts escapes n cs

/-- A text in a width. -/
def inWidth (flags : List Char) (width : Nat) (zeros : Bool) (text : String) : String :=
  if flags.contains '-' then padRight width text
  else if flags.contains '0' && zeros then
    let sign := text.startsWith "-"
    let digits := if sign then (text.drop 1).toString else text
    let blanks := width - text.length
    (if sign then "-" else "") ++ String.ofList (List.replicate blanks '0') ++ digits
  else padLeft width text

/-- A field as a directive shows it. -/
def StatusField.shown (flags : List Char) (width : Nat) (precision : Option (Option Nat)) :
    StatusField → String
  | .text s =>
    let s := match precision with
      | some p => (s.take (p.getD 0)).toString
      | none => s
    inWidth flags width false s
  | .number base n =>
    let ds := String.ofList (Nat.toDigits base n)
    let ds := match precision with
      | some p => String.ofList (List.replicate (p.getD 0 - ds.length) '0') ++ ds
      | none => ds
    let ds := if flags.contains '#' && base = 8 && !ds.startsWith "0" then "0" ++ ds
      else if flags.contains '#' && base = 16 && n ≠ 0 then "0x" ++ ds else ds
    inWidth flags width precision.isNone ds
  | .time t =>
    let seconds := t.fdiv 1000
    let fraction := (t - seconds * 1000).toNat
    let digits := Decimal.padded 3 fraction ++ "000000"
    let text := toString seconds ++ match precision with
      | none => ""
      | some p =>
        let places := p.getD 9
        if places = 0 then ""
        else "." ++ padRightWith '0' places ((digits.take places).toString)
    inWidth flags width true (if flags.contains '+' && 0 ≤ t then "+" ++ text else text)
where
  /-- A text with a sign behind it up to a width. -/
  padRightWith (c : Char) (width : Nat) (text : String) : String :=
    text ++ String.ofList (List.replicate (width - text.length) c)

/-! ## Showing -/

/-- The options of `stat`. -/
def statusChoices : Choices where
  letters := "c:fLt"
  words := [("dereference", 'L'), ("file-system", 'f'), ("format", 'c'), ("printf:", 'p'),
    ("terse", 't'), ("cached:", 'C')]

/-- The format if nobody asks for another one. -/
def usualStatus (e : Entry) : String :=
  "  File: %N\n  Size: %-10s\tBlocks: %-10b IO Block: %-6o %F\n" ++
    "Device: %Hd,%Ld\tInode: %-10i  Links: " ++
    (match e with
    | .device _ => "%-5h Device type: %t,%T\n"
    | _ => "%h\n") ++
    "Access: (%04a/%10.10A)  Uid: (%5u/%8U)   Gid: (%5g/%8G)\n" ++
    "Access: %x\nModify: %y\nChange: %z\n Birth: %w\n"

/-- The format for those who want it short. -/
def terseStatus : String := "%n %s %b %f %u %g %D %i %h %t %T %X %Y %Z %W %o\n"

/-- What lies at a path: the input, if the path is a dash. -/
def statusOf (follows : Bool) (path : String) : Task (Except IoError (Location × Entry)) := do
  let d ← files
  if path ≠ "-" then pure (if follows then d.stat (pathOf path) else d.lstat (pathOf path))
  else match (← channelOf 0).map Channel.target with
    | none => pure (.error (.os .badDescriptor))
    | some (.file loc) =>
      pure (((d.tree.get? loc).map fun e => (loc, e)).elim (.error (.os .noEntry)) .ok)
    | some (.device kind) => pure (.ok (["dev"], .device kind))
    | some .dir => pure (.ok (["dev"], .dir 0o755))
    | some _ => pure (.ok (["dev"], .file [] 0o600))

/-- Show what is known of files. -/
def stat : Tool := .ofTask fun args => do
  let g ← given statusChoices args
  match g.value? 'C' with
  | some word => do
    let _ ← wordOf 1 "--cached" [(["default"], 0), (["never"], 1), (["always"], 2)] word
  | none => pure ()
  if g.operands.isEmpty then misuse 1 "missing operand"
  let asked := (g.options.filter fun o => o.1 == 'c' || o.1 == 'p').getLast?
  let variable_ := ((← Act.read).process.value? "QUOTING_STYLE").bind fun w =>
    (NameStyle.words.flatMap fun x => x.1.map (·, x.2)).lookup w
  let style := variable_.getD (.shell true asked.isSome)
  g.operands.forM fun path => do
    match ← statusOf (g.has 'L') path with
    | .error e =>
      warn (if path = "-" then "cannot stat standard input: " ++ reasonOf e
        else "cannot statx " ++ quoted path ++ ": " ++ reasonOf e)
    | .ok (loc, e) => do
      let (escapes, format, finish) := match asked with
        | some ('p', format) => (true, format, "")
        | some (_, format) => (false, format, "\n")
        | none => (false, if g.has 't' then terseStatus else usualStatus e, "")
      let t := (← files).tree
      let parts := statusParts escapes (format.length + 1) format.toList
      (parts ++ [StatusPart.plain finish]).forM fun
        | .plain s => say s
        | .bad s => die 1 (cited s ++ ": invalid directive")
        | .warning s => remark ("warning: " ++ s)
        | .directive flags width precision letter =>
          match statusField t style path loc e letter with
          | some field => say (field.shown flags width precision)
          | none => say "?"

end AslBuild.Tools
