import AslBuild.Host.Process
set_option autoImplicit false

/-!
# Reading and writing

## Main definitions

* `AslBuild.Host.Opening`, `AslBuild.Host.openPath` — open a file.
* `AslBuild.Host.newPipe` — make a pipe.
* `AslBuild.Host.readSome`, `AslBuild.Host.readAll` — read from a channel.
* `AslBuild.Host.writeTo` — write to a channel.
-/

namespace AslBuild.Host

open FileSystem Text

/-! ## Opening -/

/-- How a file is opened. -/
inductive Opening
  /-- For reading. -/
  | read
  /-- For writing, emptied first. -/
  | write
  /-- For writing to its end. -/
  | append
  /-- For reading and writing. -/
  | update
  /-- For writing, if there is no file yet. -/
  | fresh
deriving DecidableEq

/-- Whether a file that is opened may be read. -/
def Opening.reads : Opening → Bool
  | .read | .update => true
  | _ => false

/-- Whether a file that is opened may be written. -/
def Opening.writes : Opening → Bool
  | .read => false
  | _ => true

/-- Add a channel, and give its place. -/
def addChannel (c : Channel) : Run Nat := fun m =>
  (m.channels.size, { m with channels := m.channels.push c })

/-- The number in the path of an open file of the process itself. -/
def ownNumber? (path : String) : Option Nat :=
  if path = "/dev/stdin" then some 0
  else if path = "/dev/stdout" then some 1
  else if path = "/dev/stderr" then some 2
  else if path.startsWith "/dev/fd/" then (path.drop 8).toString.toNat?
  else if path.startsWith "/proc/self/fd/" then (path.drop 14).toString.toNat?
  else none

/-- What an open file leads to, if a path is that of one. -/
def openedAt? (m : Machine) (p : Process) (path : String) : Option Target := do
  let fd ← ownNumber? path
  let place ← p.channel? fd
  (m.channels[place]?).map Channel.target

/-- What is found at a path that is opened for reading. -/
def openForReading (d : Disk) (p : Path) : Except IoError Target := do
  match ← d.stat p with
  | (loc, .file _ mode) =>
    if mayRead mode then .ok (.file loc) else .error (.os .accessDenied)
  | (_, .dir mode) => if mayRead mode then .ok .dir else .error (.os .accessDenied)
  | (_, .device .terminal) => .error (.os .noDevice)
  | (_, .device kind) => .ok (.device kind)
  | (_, .link _) => .error (.os .tooManyLinks)

/-- The path of the file that an open file of the process leads to, if it has one. -/
def openedPath? (m : Machine) (c : Channel) : Option Path :=
  match c.target with
  | .file loc => if (m.tree.get? loc).isSome then some ⟨"/" ++ "/".intercalate loc⟩ else none
  | _ => none

/-- Open what lies at a path, and give the place of its channel. -/
def openAt (p : Process) (place : Path) (how : Opening) : Run (Except IoError Nat) := do
  let d := (← get).disk p
  let opened (target : Target) : Run (Except IoError Nat) := do
    let c ← addChannel
      { target, readable := how.reads, writable := how.writes, atEnd := how == .append }
    pure (.ok c)
  if how = .read then
    match openForReading d place with
    | .ok target => opened target
    | .error e => pure (.error e)
  else
    let taken := match how, d.stat place with
      | .fresh, .ok (_, .file ..) => true
      | _, _ => false
    if taken then pure (.error (.os .alreadyExists))
    else
      match ← onDisk p (Disk.openToWrite (how == .write) place) with
      | .ok (loc, .file ..) => opened (.file loc)
      | .ok (_, .device kind) => opened (.device kind)
      | .ok _ => pure (.error (.os .isDirectory))
      | .error e => pure (.error e)

/-- Open the file at a path, and give the place of its channel. The path of an open file of the
process itself leads to that file, which is opened once more. -/
def openPath (p : Process) (path : String) (how : Opening) : Run (Except IoError Nat) := do
  match ownNumber? path with
  | some fd =>
    match p.channel? fd with
    | none => pure (.error (.os .noEntry))
    | some c =>
      let m ← get
      match (m.channels[c]?).bind (openedPath? m) with
      | some place => openAt p place how
      | none => pure (.ok c)
  | none => openAt p ⟨Raw.toText path⟩ how

/-- Make a pipe that can be read and written, and give the place of its channel. -/
def newPipe (contents : List UInt8) : Run Nat :=
  addChannel { target := .pipe, held := contents, readable := true, writable := true }

/-! ## Reading -/

/-- Zeros, as many as anyone reads at a time. -/
def someZeros (count : Option Nat) : List UInt8 := List.replicate (count.getD 65536) 0

/-- Read at most so many bytes, or all that are there, from the channel of a number. -/
def readSome (p : Process) (fd : Nat) (count : Option Nat) :
    Run (Except Errno (List UInt8)) := fun m =>
  let cut (bytes : List UInt8) : List UInt8 := match count with
    | some n => bytes.take n
    | none => bytes
  match p.channel? fd with
  | none => (.error .badDescriptor, m)
  | some i =>
    match m.channels[i]? with
    | none => (.error .badDescriptor, m)
    | some c =>
      if !c.readable then (.error .badDescriptor, m)
      else
        let fromContents (contents : List UInt8) : Except Errno (List UInt8) × Machine :=
          let bytes := cut (contents.drop c.offset)
          (.ok bytes, { m with
            channels := m.channels.setIfInBounds i { c with offset := c.offset + bytes.length } })
        match c.target with
        | .dir => (.error .isDirectory, m)
        | .user _ => (.ok [], m)
        | .device .null => (.ok [], m)
        | .device _ => (.ok (someZeros count), m)
        | .pipe =>
          let all := c.held ++ c.arrived.reverse.flatten
          let bytes := cut all
          let left := all.drop bytes.length
          (.ok bytes, { m with
            channels := m.channels.setIfInBounds i
              { c with held := left, arrived := [], offset := left.length } })
        | .nameless => fromContents c.held
        | .file loc =>
          match m.tree.get? loc with
          | some (.file contents _) => fromContents contents
          | _ => (.ok [], m)

/-- Read all that is there from the channel of a number. -/
def readAll (p : Process) (fd : Nat) : Run (Except Errno (List UInt8)) := readSome p fd none

/-- The bytes of a raw text that can still be read from the channel of a number. -/
def readText (p : Process) (fd : Nat) : Run (Except Errno String) := do
  pure ((← readAll p fd).map Raw.ofBytes)

/-- Give bytes back that were read last and are not used. A pipe and a file take them. -/
def unread (p : Process) (fd : Nat) (bytes : List UInt8) : Run Unit := modify fun m =>
  match p.channel? fd with
  | none => m
  | some i =>
    let back (c : Channel) : Channel := match c.target with
      | .pipe => { c with held := bytes ++ c.held, offset := c.offset + bytes.length }
      | _ => { c with offset := c.offset - bytes.length }
    { m with channels := m.channels.modify i back }

/-! ## Writing -/

/-- The contents of a file after bytes were written at a place in it. -/
def splice (contents : List UInt8) (offset : Nat) (bytes : List UInt8) : List UInt8 :=
  contents.take offset ++ List.replicate (offset - contents.length) 0 ++ bytes ++
    contents.drop (offset + bytes.length)

/-- The most bytes that a pipe takes before its reader runs. A reader that needs fewer is gone by
then, as far as the writer can tell. -/
def pipeLimit : Nat := 1048576

/-- Write bytes to the channel of a number. -/
def writeTo (p : Process) (fd : Nat) (bytes : List UInt8) : Run (Except Errno Unit) := fun m =>
  match p.channel? fd with
  | none => (.error .badDescriptor, m)
  | some i =>
    match m.channels[i]? with
    | none => (.error .badDescriptor, m)
    | some c =>
      if !c.writable then (.error .badDescriptor, m)
      else if bytes.isEmpty then (.ok (), m)
      else
        match c.target with
        | .user stream => (.ok (), { m with printed := (stream, bytes) :: m.printed })
        | .device .full => (.error .noSpace, m)
        | .device _ => (.ok (), m)
        | .dir => (.error .badDescriptor, m)
        | .pipe =>
          if pipeLimit ≤ c.offset then (.error .brokenPipe, m)
          else (.ok (), { m with
            channels := m.channels.setIfInBounds i
              { c with arrived := bytes :: c.arrived, offset := c.offset + bytes.length } })
        | .nameless =>
          let place := if c.atEnd then c.held.length else c.offset
          (.ok (), { m with
            channels := m.channels.setIfInBounds i
              { c with held := splice c.held place bytes, offset := place + bytes.length } })
        | .file loc =>
          match m.tree.get? loc with
          | some (.file contents mode) =>
            let place := if c.atEnd then contents.length else c.offset
            let tree := m.tree.rewrite loc (.file (splice contents place bytes) mode)
            (.ok (), { m with
              tree := tree.stamp loc tree.clock
              channels := m.channels.setIfInBounds i
                { c with offset := place + bytes.length } })
          | _ => (.ok (), m)

/-- Print a raw text to the channel of a number. That output did not get through is remembered. -/
def printTo (p : Process) (fd : Nat) (text : String) : Run Unit := do
  match ← writeTo p fd (Raw.toBytes text) with
  | .ok () => pure ()
  | .error errno =>
    if fd = 1 then modify fun m => { m with refused := m.refused.or (some errno) } else pure ()

/-- The bytes that were printed to one stream, out of all that was printed. -/
def bytesTo (stream : Stream) (printed : List (Stream × List UInt8)) : List UInt8 :=
  (printed.filter fun p => p.1 == stream).flatMap (·.2)

end AslBuild.Host
