import AslBuild.Text.Date
import AslBuild.Text.Decimal
import AslBuild.Text.Escape
import AslBuild.Text.Quoting
set_option autoImplicit false

/-!
# Templates

A template is a text with directives, in the places of which arguments are printed. It is used again
as long as there are arguments.

## Main definitions

* `AslBuild.Text.Template.Dialect` — who reads the template.
* `AslBuild.Text.Template.Complaint` — what can be wrong with a directive or an argument.
* `AslBuild.Text.Template.fill` — the text of a template with arguments.
-/

namespace AslBuild.Text.Template

/-! ## Dialects and complaints -/

/-- Who reads the template. -/
inductive Dialect
  /-- The shell. -/
  | shell
  /-- The shell with extensions. -/
  | extended
  /-- A program of its own. -/
  | program
deriving DecidableEq

/-- What can be wrong. -/
inductive Complaint
  /-- An argument is no number. -/
  | notNumber (argument : String)
  /-- An argument only starts with a number. -/
  | partly (argument : String)
  /-- A number is too large. -/
  | range (argument : String)
  /-- A directive is not known, which ends with the given character. -/
  | directive (text : String) (last : Char)
  /-- A directive has no end. -/
  | unfinished (text : String)
  /-- There are arguments that nothing asks for. -/
  | excess (argument : String)
  /-- The form of a time is not followed by the letter that has to follow it. -/
  | time (last : Option Char)
deriving DecidableEq

/-- What is said of an argument that is no number, which depends on the base that it tells. -/
def numberRefusal (argument : String) : String :=
  match argument.toList with
  | '0' :: c :: _ =>
    if c.isDigit then "invalid octal number"
    else if c = 'x' then "invalid hex number"
    else "invalid number"
  | _ => "invalid number"

/-- How a complaint is put. -/
def Complaint.message (dialect : Dialect) : Complaint → String
  | .notNumber a =>
    match dialect with
    | .shell => a ++ ": expected numeric value"
    | .extended => a ++ ": " ++ numberRefusal a
    | .program => "'" ++ a ++ "': expected a numeric value"
  | .partly a =>
    match dialect with
    | .shell => a ++ ": not completely converted"
    | .extended => a ++ ": " ++ numberRefusal a
    | .program => "'" ++ a ++ "': value not completely converted"
  | .range a =>
    match dialect with
    | .shell => a ++ ": Numerical result out of range"
    | .extended => "warning: " ++ a ++ ": Numerical result out of range"
    | .program => "'" ++ a ++ "': Numerical result out of range"
  | .directive text last =>
    match dialect with
    | .shell => text ++ ": invalid directive"
    | .extended => "\x60" ++ last.toString ++ "': invalid format character"
    | .program => text ++ ": invalid conversion specification"
  | .unfinished text =>
    match dialect with
    | .shell => "missing format character"
    | .extended => "\x60" ++ text ++ "': missing format character"
    | .program => text ++ ": invalid conversion specification"
  | .excess a => "warning: ignoring excess arguments, starting with '" ++ a ++ "'"
  | .time last => "warning: \x60" ++ (last.map Char.toString).getD "" ++
      "': invalid time format specification"

/-- The status that a complaint leads to. -/
def Complaint.status (dialect : Dialect) : Complaint → Nat
  | .directive .. | .unfinished _ => if dialect = .shell then 2 else 1
  | .range _ => if dialect = .extended then 0 else 1
  | .excess _ | .time _ => 0
  | _ => 1

/-- The escapes in a template. -/
def templateEscapes (dialect : Dialect) : Escape.Style :=
  { octal := true, zeroOctal := false, hex := dialect != .shell, stops := dialect = .program
    quotes := dialect != .shell, capitalEscape := dialect = .extended }

/-- The escapes in an argument. -/
def argumentEscapes (dialect : Dialect) : Escape.Style :=
  { octal := true, zeroOctal := true, hex := dialect != .shell, stops := true
    capitalEscape := dialect = .extended }

/-! ## Work in progress -/

/-- What was printed so far, and what is left. -/
structure Work where
  /-- The arguments that are left. -/
  arguments : List String
  /-- Whether a directive asked for an argument. -/
  asked : Bool := false
  /-- What was printed, the last of it first. -/
  out : List String := []
  /-- What was wrong, the last of it first. -/
  complaints : List Complaint := []
  /-- Whether nothing more is printed. -/
  stopped : Bool := false

namespace Work

/-- Print a text. -/
def put (w : Work) (s : String) : Work := { w with out := s :: w.out }

/-- Something is wrong. -/
def complain (w : Work) (c : Complaint) : Work := { w with complaints := c :: w.complaints }

/-- The next argument. -/
def take (w : Work) : Option String × Work :=
  (w.arguments.head?, { w with arguments := w.arguments.tail, asked := true })

end Work

/-! ## Numbers -/

/-- The number that some characters start with, in the base that they tell, and what follows. -/
def readNumber (cs : List Char) : Int × List Char :=
  let (minus, digits) := match cs with
    | '-' :: cs => (true, cs)
    | '+' :: cs => (false, cs)
    | cs => (false, cs)
  let inBase (base : Nat) (ds : List Char) : Nat × List Char :=
    Escape.readDigits base ds.length 0 ds
  let (n, rest) := match digits with
    | '0' :: x :: d :: more =>
      if (x = 'x' ∨ x = 'X') ∧ Escape.digitOf d < 16 then inBase 16 (d :: more)
      else inBase 8 digits
    | '0' :: _ => inBase 8 digits
    | _ => inBase 10 digits
  if rest.length = digits.length then (0, cs) else (if minus then -(n : Int) else n, rest)

/-- The characters behind blanks. -/
def dropBlanks (cs : List Char) : List Char := cs.dropWhile fun c => " \t\n\r\x0b\x0c".toList.contains c

/-- A number as an argument gives it, or the code of a character after a quote. -/
def integer (w : Work) (signed : Bool) : Int × Work :=
  match w.take with
  | (none, w) => (0, w)
  | (some a, w) =>
    match a.toList with
    | [] => (0, w)
    | q :: cs =>
      if q = '\'' ∨ q = '"' then
        match cs with
        | [] => (0, w)
        | c :: _ => (c.toNat, w)
      else
        let start := dropBlanks (q :: cs)
        let (n, rest) := readNumber start
        let low : Int := if signed then -(Int.pow 2 63) else -(Int.pow 2 64 - 1)
        let high : Int := if signed then Int.pow 2 63 - 1 else Int.pow 2 64 - 1
        if rest.length = start.length then (0, w.complain (.notNumber a))
        else
          let w := if rest.isEmpty then w else w.complain (.partly a)
          if n < low then ((if signed then low else high), w.complain (.range a))
          else if high < n then (high, w.complain (.range a))
          else (n, w)

/-- A number with a fraction as an argument gives it. -/
def decimal (bits : Nat) (w : Work) : Decimal × Work :=
  match w.take with
  | (none, w) => ({ num := 0 }, w)
  | (some a, w) =>
    match a.toList with
    | [] => ({ num := 0 }, w)
    | q :: cs =>
      if q = '\'' ∨ q = '"' then ({ num := (cs.head?.map Char.toNat).getD 0 }, w)
      else
        match Decimal.read (dropBlanks (q :: cs)) with
        | none => ({ num := 0 }, w.complain (.notNumber a))
        | some (d, rest) =>
          (d.rounded bits, if rest.isEmpty then w else w.complain (.partly a))

/-! ## Directives -/

/-- A directive. -/
structure Directive where
  /-- The flags. -/
  flags : List Char := []
  /-- The least width. -/
  width : Nat := 0
  /-- The precision. -/
  precision : Option Nat := none

/-- Put spaces next to a text, up to a width. -/
def Directive.pad (d : Directive) (s : String) : String :=
  let fill := String.ofList (List.replicate (d.width - s.length) ' ')
  if d.flags.contains '-' then s ++ fill else fill ++ s

/-- A number with its sign in front of its digits, and zeros or spaces up to the width. -/
def Directive.number (d : Directive) (sign digits : String) (zeros : Bool) : String :=
  if zeros && d.flags.contains '0' && !d.flags.contains '-' then
    sign ++ String.ofList (List.replicate (d.width - sign.length - digits.length) '0') ++ digits
  else d.pad (sign ++ digits)

/-- The sign of a number. -/
def Directive.sign (d : Directive) (negative : Bool) : String :=
  if negative then "-"
  else if d.flags.contains '+' then "+"
  else if d.flags.contains ' ' then " "
  else ""

/-- Digits with zeros in front of them, up to the precision. A zero of the precision zero has none.
-/
def Directive.digits (d : Directive) (digits : List Char) : String :=
  if d.precision = some 0 ∧ digits = ['0'] then ""
  else String.ofList (List.replicate (d.precision.getD 0 - digits.length) '0' ++ digits)

/-- A whole number with a sign. -/
def Directive.signed (d : Directive) (n : Int) : String :=
  d.number (d.sign (n < 0)) (d.digits (toString n.natAbs).toList) d.precision.isNone

/-- A whole number without a sign, in a base. -/
def Directive.unsigned (d : Directive) (base : Nat) (upper : Bool) (n : Int) : String :=
  let n := (n.emod (Int.pow 2 64)).toNat
  let digits := Nat.toDigits base n
  let digits := if upper then digits.map Char.toUpper else digits
  let lead :=
    if d.flags.contains '#' ∧ n ≠ 0 then
      if base = 16 then (if upper then "0X" else "0x") else if base = 8 then "0" else ""
    else ""
  if base = 8 then d.number "" (lead ++ d.digits digits) d.precision.isNone
  else d.number lead (d.digits digits) d.precision.isNone

/-- A number with a fraction. -/
def Directive.decimal (d : Directive) (kind : Char) (x : Decimal) : String :=
  let places := d.precision.getD 6
  let point := d.flags.contains '#'
  let text := match kind.toLower with
    | 'e' => x.scientific places point
    | 'f' => x.fixed places point
    | _ => x.general places point
  d.number (d.sign x.negative) (if kind.isUpper then text.toUpper else text) true

/-- A text in quotes, so that a shell reads it as it is. -/
def quoted (dialect : Dialect) (s : String) : String :=
  let isSafe (c : Char) : Bool := c.isAlphanum || "%+,-./:=@_".toList.contains c
  if s.isEmpty then "''"
  else if s.toList.all isSafe then s
  else if s.toList.any Quoting.isHidden then Quoting.escaped s
  else if dialect = .extended then
    String.ofList (s.toList.flatMap fun c => if isSafe c then [c] else ['\\', c])
  else Quoting.single s

/-- What a directive prints. -/
def Directive.fill (d : Directive) (dialect : Dialect) (text : String) (kind : Char) (w : Work) :
    Work :=
  let bits := if dialect = .shell then 53 else 64
  let cut (s : String) : String := match d.precision with
    | some n => (s.take n).toString
    | none => s
  let cutQuoted (s : String) : String := if dialect = .extended then cut s else s
  match kind with
  | 's' =>
    let (a, w) := w.take
    w.put (d.pad (cut (a.getD "")))
  | 'c' =>
    let (a, w) := w.take
    w.put (d.pad ((a.getD "").take 1).toString)
  | 'b' =>
    let (a, w) := w.take
    let (s, stop) := Escape.unescape (argumentEscapes dialect) (a.getD "")
    { w.put (d.pad (cut s)) with stopped := stop }
  | 'd' | 'i' =>
    let (n, w) := integer w true
    w.put (d.signed n)
  | 'u' =>
    let (n, w) := integer w false
    w.put (d.unsigned 10 false n)
  | 'o' =>
    let (n, w) := integer w false
    w.put (d.unsigned 8 false n)
  | 'x' =>
    let (n, w) := integer w false
    w.put (d.unsigned 16 false n)
  | 'X' =>
    let (n, w) := integer w false
    w.put (d.unsigned 16 true n)
  | 'e' | 'E' | 'f' | 'F' | 'g' | 'G' =>
    let (x, w) := Template.decimal bits w
    w.put (d.decimal kind x)
  | 'q' =>
    if dialect = .shell then { w.complain (.directive text kind) with stopped := true }
    else
      let (a, w) := w.take
      w.put (d.pad (cutQuoted (quoted dialect (a.getD ""))))
  | 'Q' =>
    if dialect = .extended then
      let (a, w) := w.take
      w.put (d.pad (quoted dialect (cut (a.getD ""))))
    else { w.complain (.directive text kind) with stopped := true }
  | _ => { w.complain (.directive text kind) with stopped := true }

/-- A number in a directive, or the argument that an asterisk asks for, and what follows. -/
def readSize (w : Work) (cs : List Char) : Option Int × Work × List Char :=
  match cs with
  | '*' :: cs =>
    let (n, w) := integer w true
    (some n, w, cs)
  | cs =>
    let digits := cs.takeWhile Char.isDigit
    if digits.isEmpty then (none, w, cs)
    else (some (Decimal.digitsValue digits), w, cs.drop digits.length)

/-- The form of a time in round brackets, the first of which was read, and what follows them. So many
brackets are open. -/
def readForm : Nat → List Char → List Char × List Char
  | _, [] => ([], [])
  | depth, c :: cs =>
    if c = ')' ∧ depth = 0 then ([], cs)
    else
      let (form, rest) := readForm (if c = '(' then depth + 1 else if c = ')' then depth - 1 else depth) cs
      (c :: form, rest)

/-- The time that stands for the one at which the template is filled. -/
def usualTime : Int := 1700000000

/-- A time in a form, given in seconds. -/
def Directive.time (d : Directive) (form : List Char) (w : Work) : Work :=
  let (n, w) : Int × Work := if w.arguments.isEmpty then (-1, { w with asked := true })
    else integer w true
  let seconds := if n < 0 then usualTime else n
  let text := Moment.format (seconds * 1000) (if form.isEmpty then "%X" else String.ofList form)
  w.put (d.pad (match d.precision with
    | some n => (text.take n).toString
    | none => text))

/-- What a directive prints, the percent sign of which was read, and what follows it. -/
def directive (dialect : Dialect) (w : Work) (cs : List Char) : Work × List Char :=
  match cs with
  | '%' :: rest => (w.put "%", rest)
  | _ =>
    let flags := cs.takeWhile fun c => "#-+ 0".toList.contains c
    let (width, w, rest) := readSize w (cs.drop flags.length)
    let (precision, w, rest) := match rest with
      | '.' :: rest =>
        let (n, w, rest) := readSize w rest
        (some (n.getD 0), w, rest)
      | rest => (none, w, rest)
    let rest := if dialect = .shell then rest
      else rest.dropWhile fun c => "hlLjztq".toList.contains c && c != 'q'
    let d : Directive :=
      { flags := if width.any (· < 0) then '-' :: flags else flags
        width := (width.getD 0).natAbs
        precision := precision.bind fun n => if n < 0 then none else some n.toNat }
    match rest with
    | [] => ({ w.complain (.unfinished (String.ofList ('%' :: cs))) with stopped := true }, [])
    | kind :: rest =>
      if kind = '(' ∧ dialect = .extended then
        match readForm 0 rest with
        | (form, 'T' :: rest) => (d.time form w, rest)
        | (_, rest) => ((w.complain (.time rest.head?)).put "%", cs)
      else
        let text := String.ofList ('%' :: cs.take (cs.length - rest.length))
        (d.fill dialect text kind w, rest)

/-- One pass over a template. At most so many steps are made. -/
def pass (dialect : Dialect) : Nat → List Char → Work → Work
  | 0, _, w => w
  | _, [], w => w
  | n + 1, '%' :: cs, w =>
    let (w, rest) := directive dialect w cs
    if w.stopped then w else pass dialect n rest w
  | n + 1, '\\' :: cs, w =>
    let style := templateEscapes dialect
    if style.stops && cs.head? == some 'c' then { w with stopped := true }
    else
      match Escape.read? style cs with
      | some (c, rest) => pass dialect n rest (w.put c.toString)
      | none => pass dialect n cs (w.put "\\")
  | n + 1, c :: cs, w =>
    let plain := c :: cs.takeWhile fun d => d != '%' && d != '\\'
    pass dialect n (cs.drop (plain.length - 1)) (w.put (String.ofList plain))

/-- Passes over a template, as long as there are arguments. At most so many are made. -/
def passes (dialect : Dialect) (template : List Char) : Nat → Work → Work
  | 0, w => w
  | n + 1, w =>
    let w := pass dialect (template.length + 1) template { w with asked := false }
    if w.stopped || w.arguments.isEmpty then w
    else if w.asked then passes dialect template n w
    else if dialect = .program then w.complain (.excess (w.arguments.headD ""))
    else w

/-! ## Results -/

/-- What comes of a template. -/
structure Filled where
  /-- What is printed. -/
  out : String
  /-- What was wrong. -/
  messages : List String
  /-- The status. -/
  status : Nat

/-- The text of a template with arguments. -/
def fill (dialect : Dialect) (template : String) (arguments : List String) : Filled :=
  let w := passes dialect template.toList (arguments.length + 1) { arguments }
  let complaints := w.complaints.reverse
  { out := String.join w.out.reverse
    messages := complaints.map (·.message dialect)
    status := (complaints.map (·.status dialect)).foldl max 0 }

end AslBuild.Text.Template
