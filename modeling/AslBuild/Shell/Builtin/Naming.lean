import AslBuild.Shell.Builtin.Variables
set_option autoImplicit false

/-!
# Names of commands

## Main definitions

* `AslBuild.Shell.Builtin.alias_`, `AslBuild.Shell.Builtin.unalias` — texts that stand for words.
* `AslBuild.Shell.Builtin.hash` — the paths of commands that are known.
-/

namespace AslBuild.Shell

open FileSystem Host Text

namespace Builtin

/-! ## Texts that stand for words -/

/-- Define, list or forget texts that stand for words. -/
def alias_ : Builtin := fun args => do
  let (opts, args) ← options (if (← Act.read).extended then "p" else "") args
  let s ← Act.read
  let shown (a : String × String) : String :=
    (if s.extended then "alias " else "") ++ a.1 ++ "=" ++ quoted s.extended a.2 ++ "\n"
  if args.isEmpty || given 'p' opts then print (String.join ((sorted s.aliases).map shown))
  args.foldlM (fun status a => do
    match splitAssignment a with
    | (name, some value) =>
      Act.update fun s =>
        { s with aliases := (name, value) :: s.aliases.filter fun x => x.1 != name }
      pure status
    | (name, none) =>
      match s.aliases.lookup name with
      | some value =>
        print (shown (name, value))
        pure status
      | none =>
        if s.extended then complain (name ++ ": not found")
        else onMachine fun p => printTo p 2 ("alias: " ++ name ++ " not found\n")
        pure 1) 0

/-- Forget texts that stand for words. -/
def unalias : Builtin := fun args => do
  let s ← Act.read
  let (opts, names) ← options "a" args
  if given 'a' opts then
    Act.update fun s => { s with aliases := [] }
    pure 0
  else if names.isEmpty && s.extended then
    sayUsage
    pure 2
  else
    names.foldlM (fun status name => do
      if (← Act.read).aliases.any (·.1 == name) then
        Act.update fun s => { s with aliases := s.aliases.filter fun x => x.1 != name }
        pure status
      else
        if s.extended then complain (name ++ ": not found")
        else onMachine fun p => printTo p 2 ("unalias: " ++ name ++ " not found\n")
        pure 1) 0

/-! ## Paths -/

/-- The place of a name in the list of those with known paths. -/
def placeOfName (name : String) : Nat :=
  match name.toList with
  | [] => 0
  | c :: cs => ((c :: cs).foldl (fun n c => n + c.toNat) (16 * c.toNat)) % 31

/-- Look commands up, forget them, or list those that are known. -/
def plainHash : Builtin := fun args => do
  let (opts, names) ← options "r" args
  if given 'r' opts then Act.update fun s => { s with hashed := [] }
  let s ← Act.read
  if opts.isEmpty && names.isEmpty then
    let known := s.hashed.reverse.mergeSort fun a b => placeOfName a.1 ≤ placeOfName b.1
    print (String.join (known.filterMap fun (name, _) =>
      (commandPath? s name).map fun p => p.1 ++ "\n"))
  names.foldlM (fun status name => do
    let s ← Act.read
    match s.functions.lookup name, commandPath? s name with
    | some _, _ => pure status
    | none, some (path, true) =>
      Act.update fun s =>
        { s with hashed := (name, ⟨path, 0⟩) :: s.hashed.filter fun h => h.1 != name }
      pure status
    | _, _ =>
      complain (name ++ ": not found")
      pure 1) 0

/-- A command with its path, as it would be made known. -/
def hashLine (name path : String) : String := "builtin hash -p " ++ path ++ " " ++ name ++ "\n"

/-- The commands that are known, in the order of a table in which the latest of a row comes first. -/
def knownInOrder (s : State) : List (String × Known) :=
  s.hashed.mergeSort fun a b => Value.tablePlace a.1 % 256 ≤ Value.tablePlace b.1 % 256

/-- Show the commands that are known, with the number of their uses or as they would be made known. -/
def listKnown (portable : Bool) : Sh Unit := do
  let known := knownInOrder (← Act.read)
  if known.isEmpty then print (if portable then "" else "hash: hash table empty\n")
  else if portable then print (String.join (known.map fun h => hashLine h.1 h.2.path))
  else
    let line (h : String × Known) : String :=
      let uses := toString h.2.uses
      String.ofList (List.replicate (4 - uses.length) ' ') ++ uses ++ "\t" ++ h.2.path ++ "\n"
    print ("hits\tcommand\n" ++ String.join (known.map line))

/-- Show the paths of commands that are known. -/
def showKnown (portable : Bool) (names : List String) : Sh Nat :=
  names.foldlM (fun status name => do
    match (← Act.read).hashed.lookup name with
    | some known =>
      print (if portable then hashLine name known.path
        else if names.length = 1 then known.path ++ "\n"
        else name ++ "\t" ++ known.path ++ "\n")
      Act.update fun s => { s with hashed := s.hashed.map fun h =>
        if h.1 == name then (name, { h.2 with uses := h.2.uses + 1 }) else h }
      pure status
    | none =>
      complain (name ++ ": not found")
      pure 1) 0

/-- Make the path of a command known, or forget it. What the path is may be said. -/
def rehash (own : String → Bool) (opts : List (Char × String)) (name : String) : Sh Nat := do
  let s ← Act.read
  let others := s.hashed.filter fun h => h.1 != name
  let absent : Sh Nat := do
    complain (name ++ ": not found")
    pure 1
  let keep (path : String) : Sh Nat := do
    Act.update fun s => { s with hashed := (name, ⟨path, 0⟩) :: others }
    pure 0
  if name.toList.contains '/' then pure 0
  else match value? 'p' opts with
    | some path =>
      if s.disk.isDir ⟨Raw.toText path⟩ then
        complain (path ++ ": Is a directory")
        pure 1
      else keep path
    | none =>
      if given 'd' opts then
        if s.knowsPath name then
          Act.update fun s => { s with hashed := others }
          pure 0
        else absent
      else if s.functions.any (·.1 == name) || own name then pure 0
      else match commandPath? s name with
        | some (path, true) => keep path
        | _ => absent

/-- Look commands up, forget them, or list those that are known, in the language with extensions. `own`
tells which names are those of commands of the shell itself. -/
def hash (own : String → Bool) : Builtin := fun args => do
  if !(← Act.read).extended then plainHash args
  else
    let (opts, names) ← options "dlp:rt" args
    let needs := if given 'd' opts then "-d" else "-t"
    if names.isEmpty && (given 'd' opts || given 't' opts) then
      fail (needs ++ ": option requires an argument")
    else if names.isEmpty && !given 'r' opts then
      listKnown (given 'l' opts)
      pure 0
    else
      if given 'r' opts then Act.update fun s => { s with hashed := [] }
      if given 't' opts then showKnown (given 'l' opts) names
      else names.foldlM (fun status name => do pure (max status (← rehash own opts name))) 0

end Builtin

end AslBuild.Shell
