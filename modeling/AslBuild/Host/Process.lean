import AslBuild.FileSystem.Operations
import AslBuild.Journal
import AslBuild.Text.Utf8
set_option autoImplicit false

/-!
# Processes

A process is started from a program file with arguments and variables, and at the end it has a
status. While it runs it reads and writes *channels*, which it knows by numbers. A channel is a file
that was opened, a pipe, a device, or one of the two streams that a user sees. Several numbers, also
of several processes, may stand for one channel, and share then the place in the file.

Processes run one after the other: a process that starts another one waits for its end.

## Main definitions

* `AslBuild.Host.Status` — how a process ends.
* `AslBuild.Host.Channel` — an open file.
* `AslBuild.Host.Process` — what a process has for itself.
* `AslBuild.Host.Machine` — what processes share.
* `AslBuild.Host.Start`, `AslBuild.Host.Launch` — how processes are started.
* `AslBuild.Host.onDisk` — a step over the files, as a process sees them.
-/

namespace AslBuild.Host

open FileSystem

/-! ## Ends -/

/-- How a process ends. -/
inductive Status
  /-- With a number that it chose. -/
  | exited (code : Nat)
  /-- By a signal. -/
  | killed (signal : Nat)
deriving DecidableEq

/-- The number that tells how a process ended: its own, or -1 if it was ended by a signal. -/
def Status.code : Status → Int
  | .exited code => code
  | .killed _ => -1

/-- The number that tells a shell how a process ended. -/
def Status.number : Status → Nat
  | .exited code => code
  | .killed signal => 128 + signal

/-! ## Channels -/

/-- What a channel leads to. -/
inductive Target
  /-- A stream that the user sees. -/
  | user (stream : Stream)
  /-- A file. -/
  | file (loc : Location)
  /-- A file that has no name any more. -/
  | nameless
  /-- A pipe. -/
  | pipe
  /-- A device. -/
  | device (kind : Device)
  /-- A directory. -/
  | dir
deriving DecidableEq

/-- An open file. -/
structure Channel where
  /-- What it leads to. -/
  target : Target
  /-- What a pipe or a file without a name holds. -/
  held : List UInt8 := []
  /-- What was written to a pipe since it was read last, the last of it first. -/
  arrived : List (List UInt8) := []
  /-- The place at which a file is read or written next, or the number of bytes in a pipe. -/
  offset : Nat := 0
  /-- Whether everything is written to the end. -/
  atEnd : Bool := false
  /-- Whether it may be read. -/
  readable : Bool := false
  /-- Whether it may be written. -/
  writable : Bool := false

/-! ## Processes and what they share -/

/-- What a process has for itself. -/
structure Process where
  /-- Its number. -/
  number : Nat
  /-- The number of the process that started it. -/
  parent : Nat
  /-- Its working directory. -/
  cwd : Location
  /-- Its variables, as raw texts. -/
  bindings : List (String × String)
  /-- The channels that it knows by numbers. -/
  descriptors : List (Nat × Nat)
  /-- The bits that the modes of new entries do not have. -/
  mask : Nat := 0o022
  /-- The signals that it does not notice. -/
  deaf : List Nat := []

/-- A signal that is sent later on. -/
structure Alarm where
  /-- When it is sent. -/
  time : Int
  /-- The signal. -/
  signal : Nat
  /-- It is sent to all processes with larger numbers. -/
  above : Nat
deriving DecidableEq

/-- What processes share. -/
structure Machine where
  /-- The files. -/
  tree : Tree
  /-- The directory for temporary files. -/
  temp : Path
  /-- The channels. -/
  channels : Array Channel := #[]
  /-- What was printed to the user, the last of it first. -/
  printed : List (Stream × List UInt8) := []
  /-- The number of the process that was started last. -/
  lastNumber : Nat := 1
  /-- The numbers of the processes that run. -/
  alive : List Nat := []
  /-- The signals that were sent and not yet noticed, each with the number of its process. -/
  signals : List (Nat × Nat) := []
  /-- The signals that are sent later on. -/
  alarms : List Alarm := []
  /-- Why something that a process printed did not get through. -/
  refused : Option Errno := none

/-- What a process does with the machine. -/
abbrev Run (α : Type) : Type := StateM Machine α

/-- What a process is started with. -/
structure Start where
  /-- The path of the program. -/
  path : String
  /-- The name that the program is told. -/
  name : String
  /-- The arguments. -/
  arguments : List String
  /-- The process. -/
  process : Process

/-- How processes are started, and run to their end. It may fail before the process runs. -/
abbrev Launch : Type := Start → Run (Except IoError Status)

namespace Process

/-- The value of a variable. -/
def value? (p : Process) (name : String) : Option String := p.bindings.lookup name

/-- The channel that a number stands for. -/
def channel? (p : Process) (fd : Nat) : Option Nat := p.descriptors.lookup fd

/-- Let a number stand for a channel, or for none. -/
def setChannel (p : Process) (fd : Nat) (channel : Option Nat) : Process :=
  let others := p.descriptors.filter fun d => d.1 != fd
  { p with descriptors := match channel with
      | some c => (fd, c) :: others
      | none => others }

end Process

/-! ## Files as a process sees them -/

namespace Machine

/-- The files as a process sees them. -/
def disk (m : Machine) (p : Process) : Disk :=
  { tree := m.tree, cwd := p.cwd, temp := m.temp, mask := p.mask }

/-- A channel after the files have changed: a file that is gone is kept by those who use it. -/
def Channel.follow (before after : Tree) (c : Channel) : Channel :=
  match c.target with
  | .file loc =>
    match after.get? loc, before.get? loc with
    | some (.file ..), _ => c
    | _, some (.file contents _) =>
      match (before.namesAt loc).find? fun other => (after.get? other).isSome with
      | some other => { c with target := .file other }
      | none => { c with target := .nameless, held := contents }
    | _, _ => { c with target := .nameless }
  | _ => c

/-- The machine with other files. -/
def setTree (m : Machine) (after : Tree) : Machine :=
  { m with tree := after, channels := m.channels.map (Channel.follow m.tree after) }

/-- Forget all channels but so many. -/
def forget (m : Machine) (count : Nat) : Machine := { m with channels := m.channels.take count }

end Machine

/-- A step over the files, as a process sees them. -/
def onDisk {α : Type} (p : Process) (x : Disk.Step α) : Run (Except IoError α) := fun m =>
  let (result, d) := x.run (m.disk p)
  (result, m.setTree d.tree)

/-- Move an entry. The channels of what is moved go with it. -/
def moveEntry (p : Process) (source target : Path) : Run (Except IoError Unit) := fun m =>
  match (Disk.rename source target).run (m.disk p) with
  | (.error e, _) => (.error e, m)
  | (.ok (old, new), d) =>
    let relocated (c : Channel) : Channel :=
      match c.target with
      | .file loc =>
        if loc = new ∧ old ≠ new then Machine.Channel.follow m.tree (m.tree.erase new) c
        else { c with target := .file (Disk.moved old new loc) }
      | _ => c
    (.ok (), { m with tree := d.tree, channels := m.channels.map relocated })

end AslBuild.Host
