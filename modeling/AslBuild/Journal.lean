import AslBuild.Failure
import AslBuild.Tool.Command
set_option autoImplicit false

/-!
# The journal of a session

A session does things that its result does not show: it logs messages, it starts tools, it writes
and removes files. The journal holds them in their order, so that it can be told what was done and
what was not.

## Main definitions

* `AslBuild.Remark` — a message that is logged, or output of a tool that is passed on.
* `AslBuild.Event` — a remark, a call of a tool, or a deed on the files.
* `AslBuild.Event.log`, `AslBuild.Event.calls` — the messages and the calls of a journal.
-/

namespace AslBuild

/-! ## Remarks -/

/-- How much a message matters. -/
inductive Level
  | error
  | warn
  | info
  | debug
  | trace
deriving DecidableEq

/-- The name of a level. -/
def Level.name : Level → String
  | .error => "ERROR"
  | .warn => "WARN"
  | .info => "INFO"
  | .debug => "DEBUG"
  | .trace => "TRACE"

/-- The level of a message on the progress of a session: it matters more if the user wants to see
it. -/
def Level.progress (verbose : Bool) : Level := if verbose then .info else .debug

/-- Where output goes. -/
inductive Stream
  | out
  | err
deriving DecidableEq

/-- What is said for the user's eyes. -/
inductive Remark
  /-- A message is logged. -/
  | logged (level : Level) (message : String)
  /-- A tool writes some bytes. -/
  | printed (stream : Stream) (bytes : List UInt8)
deriving DecidableEq

/-! ## Events -/

/-- How a tool is called. -/
inductive CallMode
  /-- For what it does. -/
  | run
  /-- For what it prints. -/
  | capture
deriving DecidableEq

/-- Something that a session does. -/
inductive Event
  /-- Something is said. -/
  | said (remark : Remark)
  /-- A tool is called, and fails or not. -/
  | called (mode : CallMode) (command : Command) (failure : Option Failure)
  /-- A file is written. -/
  | wrote (path : Path)
  /-- The removal of a working directory is tried. -/
  | removing (path : Path)
deriving DecidableEq

namespace Event

/-- The message of an event. -/
def message? : Event → Option (Level × String)
  | .said (.logged level message) => some (level, message)
  | _ => none

/-- The messages of a journal. -/
def log (journal : List Event) : List (Level × String) := journal.filterMap message?

/-- The call of an event. -/
def call? : Event → Option (CallMode × Command × Option Failure)
  | .called mode command failure => some (mode, command, failure)
  | _ => none

/-- The calls of a journal. -/
def calls (journal : List Event) : List (CallMode × Command × Option Failure) :=
  journal.filterMap call?

@[simp] theorem calls_append (js ks : List Event) : calls (js ++ ks) = calls js ++ calls ks :=
  List.filterMap_append

/-- The remark of an event. -/
def remark? : Event → Option Remark
  | .said remark => some remark
  | _ => none

/-- The remarks of a journal. -/
def remarks (journal : List Event) : List Remark := journal.filterMap remark?

end Event

end AslBuild
