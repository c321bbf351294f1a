import AslBuild.Text.Escape
import AslBuild.Tools.Running
set_option autoImplicit false

/-!
# Arguments from the input

A command is run with items from the input as its arguments, in groups of as many as may be.

## Main definitions

* `AslBuild.Tools.Group.Item`, `AslBuild.Tools.Group.itemsFrom` — the items in a text.
* `AslBuild.Tools.Group.Limits`, `AslBuild.Tools.Group.take` — how groups are made.
* `AslBuild.Tools.xargs` — the tool.
-/

namespace AslBuild.Tools

open FileSystem Host Text

namespace Group

/-! ## Items -/

/-- What is read of the input. -/
inductive Item
  /-- An item, and whether a line ends with it. -/
  | word (text : String) (endsLine : Bool)
  /-- There is nothing behind it that counts. -/
  | finish
  /-- A quote has no partner. -/
  | unmatched (quote : Char)

/-- The items in a text, with the item that was begun, the last character first. A quote takes away
the meaning of blanks, and so does a backslash. If lines are items, blanks within them have no meaning.
`last` is the item behind which nothing counts; `first` tells whether the item is the first one of its
line. -/
def itemsFrom (wholeLines : Bool) (last : Option String) : Nat → Bool → Option (List Char) →
    List Char → List Item
  | 0, _, _, _ => []
  | _, first, word, [] =>
    match word with
    | none | some [] => []
    | some cs =>
      let text := String.ofList cs.reverse
      if first && last == some text then [] else [.word text false]
  | n + 1, first, word, c :: cs =>
    let text := String.ofList (word.getD []).reverse
    let add (s : List Char) : Option (List Char) := some (s.reverse ++ word.getD [])
    let isBlank (c : Char) : Bool := c == ' ' || c == '\t'
    match word with
    | none =>
      if isBlank c || c == '\n' then itemsFrom wholeLines last n first none cs
      else itemsFrom wholeLines last n first (some []) (c :: cs)
    | some _ =>
      if c = '\n' then
        if last = some text then [.finish]
        else
          let endsLine := !((word.getD []).head?).any isBlank
          .word text endsLine :: itemsFrom wholeLines last n true none cs
      else if isBlank c && !wholeLines then
        if last = some text then [.finish]
        else .word text false :: itemsFrom wholeLines last n false none cs
      else if c = '\'' ∨ c = '"' then
        let inner := cs.takeWhile fun d => d != c && d != '\n'
        match cs.drop inner.length with
        | d :: rest =>
          if d = c then itemsFrom wholeLines last n first (add inner) rest else [.unmatched c]
        | [] => [.unmatched c]
      else if c = '\\' then itemsFrom wholeLines last n first (add (cs.take 1)) (cs.drop 1)
      else itemsFrom wholeLines last n first (add [c]) cs

/-- The items between separators. -/
def itemsBetween (separator text : String) : List Item :=
  let pieces := text.splitOn separator
  let pieces := if pieces.getLast? = some "" then pieces.dropLast else pieces
  pieces.map fun p => .word p true

/-! ## Groups -/

/-- How large groups may be. -/
structure Limits where
  /-- How many items are in a group. -/
  count : Option Nat
  /-- How many lines are in a group. -/
  lines : Option Nat
  /-- How many characters a command may have, with one more for every word. -/
  size : Option Nat
  /-- Whether a group that is larger than that is refused. -/
  strict : Bool
  /-- The characters that the command has by itself. -/
  own : Nat

/-- A part of what is done. -/
inductive Step
  /-- Run the command with some items. -/
  | run (items : List String)
  /-- Complain, and end. -/
  | refuse (message : String)
deriving DecidableEq

/-- What is said of a quote without a partner. -/
def unmatchedMessage (quote : Char) : String :=
  "unmatched " ++ (if quote = '"' then "double" else "single") ++ " quote; by default " ++
    "quotes are special to xargs unless you use the -0 option"

/-- What is done with items, given the group that was begun, the last item first, and how many lines
it has. -/
def steps (l : Limits) (group : List String) (lines : Nat) : List Item → List Step
  | [] | .finish :: _ => if group.isEmpty then [] else [.run group.reverse]
  | .unmatched quote :: _ =>
    (if group.isEmpty then [] else [.run group.reverse]) ++ [.refuse (unmatchedMessage quote)]
  | .word text endsLine :: items =>
    let size (ws : List String) : Nat := (ws.map fun w => w.utf8ByteSize + 1).foldl (· + ·) 0
    let isTooLong (ws : List String) : Bool := l.size.any fun n => n < l.own + size ws
    let flushed := if group.isEmpty then [] else [Step.run group.reverse]
    if isTooLong [text] then flushed ++ [.refuse "argument line too long"]
    else if isTooLong (text :: group) && l.strict then [.refuse "argument list too long"]
    else
      let overflows := isTooLong (text :: group)
      let before := if overflows then flushed else []
      let group := if overflows then [text] else text :: group
      let lines := if endsLine then lines + 1 else lines
      if l.count = some group.length ∨ (endsLine ∧ l.lines.any fun n => n ≤ lines) then
        before ++ .run group.reverse :: steps l [] 0 items
      else before ++ steps l group lines items

/-! ## Options -/

/-- The options of `xargs`. -/
def choices : Choices where
  letters := "0a:d:E:e::i::I:l::L:n:oprs:P:tx"
  words := [("null", '0'), ("arg-file", 'a'), ("delimiter", 'd'), ("eof", 'e'), ("replace", 'i'),
    ("max-lines", 'l'), ("max-args", 'n'), ("open-tty", 'o'), ("interactive", 'p'),
    ("no-run-if-empty", 'r'), ("max-chars", 's'), ("verbose", 't'), ("show-limits", 'S'),
    ("exit", 'x'), ("max-procs", 'P'), ("process-slot-var:", 'v')]
  ordered := true

/-- How the items of the input make commands. -/
structure Manner where
  /-- How many items are in a group. -/
  count : Option Nat := none
  /-- How many lines are in a group. -/
  lines : Option Nat := none
  /-- The sign that stands for an item. -/
  sign : Option String := none
  /-- How many characters a command may have. -/
  size : Option Nat := none

/-- The largest size of a command. -/
def maxSize : Nat := 2092986

/-- The number that an option is given. One that is out of range is refused, or replaced. -/
def numberOf (option : Char) (least : Nat) (most : Option Nat) (strict : Bool) (text : String) :
    Task Nat := do
  let cs := text.toList.dropWhile fun c => c == ' ' || (0x09 ≤ c.toNat && c.toNat ≤ 0x0D)
  let negative := cs.head? = some '-'
  let ds := if negative || cs.head? = some '+' then cs.drop 1 else cs
  let complain (sign : String) (bound : Nat) : Task Nat := do
    remark ("value " ++ text ++ " for -" ++ option.toString ++ " option should be " ++ sign ++ " " ++
      toString bound)
    if strict then advise 1 else pure bound
  match digits? (String.ofList ds) with
  | none =>
    misuse 1 ("invalid number \"" ++ text ++ "\" for -" ++ option.toString ++ " option")
  | some n =>
    if (negative && n != 0) || n < least then complain ">=" least
    else match most.filter (· < n) with
      | some bound => complain "<=" bound
      | none => pure n

/-- Warn that an option takes away what other ones asked for. -/
def warnOf (option : String) (others : List (String × Bool)) : Task Unit :=
  others.forM fun (other, isGiven) =>
    if isGiven then
      remark ("warning: options " ++ other ++ " and " ++ option ++
        " are mutually exclusive, ignoring previous " ++ other ++ " value")
    else pure ()

/-- How options make commands. -/
def mannerFrom : Manner → List (Char × String) → Task Manner
  | k, [] => pure k
  | k, (c, text) :: rest => do
    let lines := ("--max-lines", k.lines.isSome)
    let count := ("--max-args", k.count.isSome)
    let sign := ("--replace", k.sign.isSome)
    let k ← match c with
      | 'I' | 'i' => do
        warnOf "--replace/-I/-i" [lines, count]
        let mark := if c = 'i' ∧ text.isEmpty then "\x7b\x7d" else text
        pure { k with sign := some mark, lines := none, count := none }
      | 'L' => do
        let n ← numberOf c 1 none true text
        warnOf "-L" [count, sign]
        pure { k with lines := some n, count := none, sign := none }
      | 'l' => do
        let n ← if text.isEmpty then pure 1 else numberOf c 1 none true text
        warnOf "--max-lines/-l" [count, sign]
        pure { k with lines := some n, count := none, sign := none }
      | 'n' => do
        let n ← numberOf c 1 none true text
        if n = 1 ∧ k.sign.isSome then pure k
        else
          warnOf "--max-args/-n" [lines, sign]
          pure { k with count := some n, lines := none, sign := none }
      | 's' => do pure { k with size := some (← numberOf c 1 (some maxSize) false text) }
      | 'P' => do
        let _ ← numberOf c 0 (some 2147483647) true text
        pure k
      | _ => pure k
    mannerFrom k rest

/-- The character that separates items, as an option spells it. -/
def separatorOf (text : String) : Task String := do
  let invalid (rest : String) : Task String :=
    die 1 ("Invalid escape sequence " ++ text ++ " in input delimiter specification" ++ rest)
  let byte (base digits : Nat) (most : String) (cs : List Char) : Task String := do
    let (n, rest) := Escape.readDigits base digits 0 cs
    if 255 < n then invalid ("; character values must not exceed " ++ most ++ ".")
    else if !rest.isEmpty then
      invalid ("; trailing characters " ++ String.ofList rest ++ " not recognised.")
    else pure (Char.ofNat n).toString
  match text.toList with
  | [c] => pure c.toString
  | ['\\', c] =>
    match Escape.letter? c with
    | some d => pure d.toString
    | none => if '0' ≤ c ∧ c ≤ '7' then byte 8 20 "377" [c] else invalid "."
  | '\\' :: 'x' :: cs => byte 16 20 "FF" cs
  | '\\' :: c :: cs => if '0' ≤ c ∧ c ≤ '7' then byte 8 20 "377" (c :: cs) else invalid "."
  | _ =>
    die 1 ("Invalid input delimiter specification " ++ text ++ ": the delimiter must be either a " ++
      "single character or an escape sequence starting with \\.")

/-! ## Running -/

/-- End with a status, but tell of commands that failed before. -/
def breakOff {α : Type} (n : Nat) (message : String) : Task α := do
  remark message
  quit (if (← Act.read).status = 123 then 123 else n)

/-- Run a command. -/
def runWords (launch : Launch) (g : Given) (words : List String) : Task Unit := do
  if g.has 't' || g.has 'p' then
    tell (" ".intercalate (words.map quotedIfOdd) ++ if g.has 'p' then "" else "\n")
  if g.has 'p' then breakOff 1 "failed to open /dev/tty for reading: No such device or address"
  match words with
  | [] => pure ()
  | name :: arguments => do
    let input ← if g.has 'a' then pure none
      else some <$> onMachine fun _ => addChannel { target := .device .null, readable := true }
    let change (p : Process) : Process :=
      let p := match input with
        | some channel => p.setChannel 0 (some channel)
        | none => p
      match g.value? 'v' with
      | some slot => { p with bindings := (slot, "0") :: p.bindings.filter fun v => v.1 != slot }
      | none => p
    match ← running launch change name arguments with
    | .ok (.exited 0) => pure ()
    | .ok (.exited 255) => breakOff 124 (name ++ ": exited with status 255; aborting")
    | .ok (.exited _) => mark 123
    | .ok (.killed signal) => breakOff 125 (name ++ ": terminated by signal " ++ toString signal)
    | .error e => breakOff (unstartable e) (name ++ ": " ++ reasonOf e)

end Group

open AslBuild.Tools.Group in
/-- Run a command with items from the input as arguments. -/
def xargs : Tool := .ofLaunching fun launch args => do
  let g ← given Group.choices args
  let k ← mannerFrom {} g.options
  let separator ← match g.last? ['0', 'd'] with
    | some 'd' => some <$> separatorOf ((g.value? 'd').getD "")
    | some _ => pure (some "\x00")
    | none => pure none
  match (g.value? 'v').filter fun name => name.toList.contains '=' with
  | some _ =>
    die 1 "option --process-slot-var may not be set to a value which includes \x60='"
  | none => pure ()
  let last := match g.last? ['E', 'e'] with
    | some c => (g.value? c).filter fun t => !t.isEmpty
    | none => none
  if last.isSome && separator.isSome then
    remark "warning: the -E option has no effect if -0 or -d is used.\n"
  let path := (g.value? 'a').getD "-"
  let text ← match ← textOf path with
    | .ok text => pure text
    | .error e => die 1 ("Cannot open input file " ++ quoted path ++ ": " ++ reasonOf e)
  let items ← match separator with
    | some s => pure (itemsBetween s text)
    | none => do
      if text.toList.contains (Char.ofNat 0) then
        remark ("WARNING: a NUL character occurred in the input.  It cannot be passed through in " ++
          "the argument list.  Did you mean to use the --null option?")
      let items := itemsFrom k.sign.isSome last (2 * text.length + 2) true none text.toList
      let shown (t : String) : String := String.ofList (t.toList.takeWhile (· != Char.ofNat 0))
      pure (items.map fun item => match item with
        | .word t e => .word (shown t) e
        | other => other)
  let command := if g.operands.isEmpty then ["echo"] else g.operands
  let size (ws : List String) : Nat := (ws.map fun w => w.utf8ByteSize + 1).foldl (· + ·) 0
  let perform (sign : Option String) : Step → Task Unit
    | .refuse message => breakOff 1 message
    | .run words =>
      match sign, command with
      | some sign, name :: arguments =>
        if sign.isEmpty && !arguments.isEmpty then breakOff 1 "command too long"
        else runWords launch g
          (name :: arguments.map fun w => w.replace sign (words.headD ""))
      | _, command => runWords launch g (command ++ words)
  match k.sign with
  | some sign =>
    let l : Limits := { count := some 1, lines := none, size := none, strict := false, own := 0 }
    (steps l [] 0 items).forM (perform (some sign))
  | none => do
    let own := size command
    if k.size.any fun n => n < own then
      breakOff 1 "cannot fit single argument within argument list size limit"
    let l : Limits :=
      { count := k.count, lines := k.lines, size := k.size, own
        strict := g.has 'x' && (k.count.isSome || k.lines.isSome) }
    let plan := steps l [] 0 items
    (if plan.isEmpty && !g.has 'r' then [Step.run []] else plan).forM (perform none)

end AslBuild.Tools
