import AslBuild.FileSystem.Permission
import AslBuild.Host.Search
import AslBuild.Shell.Builtin.Basic
set_option autoImplicit false

/-!
# The working directory and the mask

## Main definitions

* `AslBuild.Shell.Builtin.cd`, `AslBuild.Shell.Builtin.pwd` — the working directory.
* `AslBuild.Shell.Builtin.umask` — the bits that new entries do not have.
-/

namespace AslBuild.Shell

open FileSystem Host Text

namespace Builtin

/-! ## Directories -/

/-- The components of an absolute path, with `.` and `..` taken out by their names alone. -/
def normalized (components : List String) : List String :=
  (components.foldl (fun dirs c =>
    if c.isEmpty || c == "." then dirs else if c == ".." then dirs.tail else c :: dirs) []).reverse

/-- The text of a path from the root. -/
def rooted (components : List String) : String := "/" ++ "/".intercalate components

/-- The raw text of the path to a location. -/
def physical (loc : Location) : String := Raw.ofText (pathTo loc).text

/-- Go to another directory. -/
def cd : Builtin := fun args => do
  let (opts, rest) ← options "PL" args
  let s ← Act.read
  let isPhysical := (opts.getLast?.map (·.1)) == some 'P'
  let here := (s.get? "PWD").getD (physical s.process.cwd)
  let (dest, shown) ← match rest with
    | [] =>
      if s.extended && (s.get? "HOME").isNone then fail "HOME not set"
      else pure ((s.get? "HOME").getD "", false)
    | "-" :: _ =>
      if s.extended && (s.get? "OLDPWD").isNone then fail "OLDPWD not set"
      else pure ((s.get? "OLDPWD").getD "", true)
    | d :: _ => pure (d, false)
  let refused : Sh Nat :=
    if s.extended then do
      complain (dest ++ ": " ++ (if s.disk.present ⟨Raw.toText dest⟩ then "Not a directory"
        else "No such file or directory"))
      pure 1
    else fail ("can't cd to " ++ dest)
  let fromHere := dest.startsWith "/" || dest.startsWith "." || dest.isEmpty
  let bases := if fromHere then [] else
    ((s.get? "CDPATH").map (·.splitOn ":")).getD [] |>.filter (!·.isEmpty)
  let places := (bases.map fun b => (b ++ "/" ++ dest, true)) ++ [(dest, shown)]
  let logical (d : String) : String :=
    let whole := if d.startsWith "/" then d else here ++ "/" ++ d
    let twice := whole.startsWith "//" && !whole.startsWith "///"
    (if twice then "/" else "") ++ rooted (normalized (whole.splitOn "/"))
  let target (d : String) : String := if isPhysical then d else logical d
  let enters (d : String) : Option Location :=
    match s.disk.stat ⟨Raw.toText (target d)⟩ with
    | .ok (loc, .dir mode) => if mayEnter mode then some loc else none
    | _ => none
  match places.findSome? fun (d, shown) => (enters d).map fun loc => (d, shown, loc) with
  | none => refused
  | some (d, shown, loc) =>
    changeProcess fun p => { p with cwd := loc }
    let now := if isPhysical then physical loc else logical d
    assign "OLDPWD" here
    markExported "OLDPWD" true
    assign "PWD" now
    markExported "PWD" true
    if shown then print (now ++ "\n")
    pure 0

/-- Print the working directory. -/
def pwd : Builtin := fun args => do
  let (opts, _) ← options "PL" args
  let s ← Act.read
  let here := physical s.process.cwd
  print ((if given 'P' opts then here else (s.get? "PWD").getD here) ++ "\n")
  pure 0

/-! ## Masks -/

/-- A number in octal digits, at least so many. -/
def octal (digits n : Nat) : String :=
  let ds := Nat.toDigits 8 n
  String.ofList (List.replicate (digits - ds.length) '0' ++ ds)

/-- Show or set the bits that new entries do not have. -/
def umask : Builtin := fun args => do
  let (opts, rest) ← options "Sp" args
  let mask := (← Act.read).process.mask
  match rest with
  | [] =>
    if given 'S' opts then
      let left := 0o777 - mask
      print ("u=" ++ Permission.triple (left >>> 6) ++ ",g=" ++ Permission.triple (left >>> 3) ++
        ",o=" ++ Permission.triple left ++ "\n")
    else print (octal 4 mask ++ "\n")
    pure 0
  | a :: _ =>
    let set (n : Nat) : Sh Nat := do
      changeProcess fun p => { p with mask := n }
      pure 0
    if a.toList.head?.any Char.isDigit then
      match Permission.octal? a with
      | some n => set (n % 0o1000)
      | none => fail ("Illegal number: " ++ a)
    else match Permission.read? 0 a with
      | some change => set (0o777 - change false (0o777 - mask) % 0o1000)
      | none => fail ("Illegal mode: " ++ a)

end Builtin

end AslBuild.Shell
