import AslBuild.Shell.Grammar.Words
set_option autoImplicit false

/-!
# Reading the pieces of a script

## Main definitions

* `AslBuild.Shell.Reading.documents` — read the documents that are to come.
* `AslBuild.Shell.Reading.next` — the next piece.
-/

namespace AslBuild.Shell

namespace Reading

/-! ## Documents -/

/-- The first line of some characters, and what follows it from the end of the line on. A backslash
at its end joins it with the next line, unless all is to stand as it is. -/
def logicalLine (literal : Bool) : List Char → List Char × List Char
  | [] => ([], [])
  | '\n' :: cs => ([], '\n' :: cs)
  | '\\' :: c :: cs =>
    if literal then
      let (line, rest) := logicalLine literal (c :: cs)
      ('\\' :: line, rest)
    else
      let (line, rest) := logicalLine literal cs
      ('\\' :: c :: line, rest)
  | c :: cs =>
    let (line, rest) := logicalLine literal cs
    (c :: line, rest)

/-- The lines in front of the one that ends a document, that line left out, what follows it, and
whether that line is there. At most so many lines are read. -/
def cutDocument (a : Awaited) : Nat → List Char → List Char × List Char × Bool
  | 0, cs => ([], cs, false)
  | n + 1, cs =>
    if cs.isEmpty then ([], [], false)
    else
      let first := if a.stripped then cs.dropWhile (· == '\t') else cs
      let (line, rest) := logicalLine a.literal first
      if line = a.delimiter then ([], rest.tail, true)
      else
        let (body, after, ended) := cutDocument a n rest.tail
        (line ++ rest.take 1 ++ body, after, ended)

/-- Read the documents that are to come. -/
def documents (inner : Inner) : List Awaited → Reading Unit
  | [] => pure ()
  | a :: others => do
    let s ← Act.read
    let (body, rest, ended) := cutDocument a (s.rest.length + 1) s.rest
    let used := s.rest.take (s.rest.length - rest.length)
    let w ← if a.literal then pure [.text body true]
      else elsewhere body s.line (inner.parts .document)
    let line := s.line + used.count '\n'
    let warning := (line - 1, "here-document at line " ++ toString a.line ++
      " delimited by end-of-file (wanted \x60" ++ String.ofList a.delimiter ++ "')")
    Act.update fun s => { s with
      rest
      line
      documents := (a.number, w) :: s.documents
      warnings := if s.extended && !ended then s.warnings ++ [warning] else s.warnings }
    documents inner others

/-- Read the documents that are to come, at the end of a line. -/
def awaitedDocuments (inner : Inner) : Reading Unit := do
  let s ← Act.read
  if s.awaited.isEmpty then pure ()
  else
    Act.update fun s => { s with awaited := [] }
    documents inner s.awaited

/-! ## Pieces -/

/-- The next piece, read or given back. -/
def fresh (inner : Inner) : Reading Lexeme := do
  match (← Act.read).back with
  | some t =>
    Act.update fun s => { s with back := none }
    pure t
  | none =>
    let t ← match ← scan with
      | some t => pure t
      | none => do
        let before := (← Act.read).rest
        let w ← word inner
        Act.update fun s => { s with
          spelled := String.ofList (before.take (before.length - s.rest.length)) }
        pure (.word w)
    match t with
    | .newline => awaitedDocuments inner
    | .finish => awaitedDocuments inner
    | _ => pure ()
    pure t

/-- The first piece that is not a line end. -/
def freshPastLines (inner : Inner) : Nat → Reading Lexeme
  | 0 => fresh inner
  | n + 1 => do
    match ← fresh inner with
    | .newline => freshPastLines inner n
    | t => pure t

/-- A piece, a word of which may be taken for a keyword. -/
def asKeyword (extended keyword : Bool) (t : Lexeme) : Lexeme :=
  match t with
  | .word w =>
    match w.plain? with
    | some s =>
      if keyword && (keywords.contains s || (extended && extendedKeywords.contains s)) then
        .keyword s
      else t
    | none => t
  | t => t

/-- The text that a word stands for, and whether the word behind it may stand for one, too. A word is
not replaced by a text that it comes from. `before` is the number of characters that were left before
the word was read, and `command` tells whether it stands where a command may. -/
def aliasOf? (s : Source) (before : Nat) (command : Bool) (t : Lexeme) : Option String :=
  let left := s.rest.length
  let follows := s.replaced.any fun (_, n, goesOn) => goesOn && n < before && left < n
  match t with
  | .word w =>
    if command || follows then
      w.plain?.bind fun name =>
        if s.replaced.any fun r => r.1 == name && r.2.1 ≤ left then none else s.aliases.lookup name
    else none
  | _ => none

/-- The next piece that no text is put in the place of. Line ends may be gone past, words may be taken
for keywords, and words where a command may stand are replaced by the texts that they stand for. At
most so many are. -/
def unaliased (inner : Inner) (pastLines keyword command : Bool) : Nat → Reading Lexeme
  | 0 => fresh inner
  | n + 1 => do
    let s ← Act.read
    let t ← if pastLines then freshPastLines inner (← bound) else fresh inner
    let t := asKeyword s.extended keyword t
    if s.aliases.isEmpty || s.back.isSome then pure t
    else match aliasOf? (← Act.read) s.rest.length command t with
      | none => pure t
      | some text => do
        Act.update fun s => { s with
          rest := text.toList ++ s.rest
          replaced := ((t.asWord.plain?).getD "", s.rest.length,
            text.endsWith " " || text.endsWith "\t") :: s.replaced }
        unaliased inner pastLines keyword command n

/-- How many words may be replaced on the way to one piece. -/
def aliasLimit : Nat := 100

/-- The next piece. Line ends may be gone past, words may be taken for keywords, and for texts that
they stand for. -/
def nextWhere (inner : Inner) (pastLines keyword command : Bool) : Reading Lexeme := do
  let t ← unaliased inner pastLines keyword command aliasLimit
  Act.update fun s => { s with last := t }
  pure t

/-- The next piece. Line ends may be gone past, and words may be taken for keywords, as they are where
a command may stand. -/
def next (inner : Inner) (pastLines keyword : Bool) : Reading Lexeme :=
  nextWhere inner pastLines keyword keyword

/-- Give a piece back. -/
def giveBack (t : Lexeme) : Reading Unit := Act.update fun s => { s with back := some t }

/-- Go past a keyword that has to come next. -/
def expectKeyword (inner : Inner) (k : String) (pastLines : Bool) : Reading Unit := do
  match ← next inner pastLines true with
  | .keyword found => if found = k then pure () else unexpected (some ("\"" ++ k ++ "\""))
  | _ => unexpected (some ("\"" ++ k ++ "\""))


end Reading

end AslBuild.Shell
