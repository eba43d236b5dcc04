/-
# Notes

The log records of the drivers: what is worth telling a person about. Each
has a level and a text; the text names the driver by its role and handle.

Key definitions: `Level`, `Note`, `Note.level`, `Note.text`.
-/
import ClusterLink.Answer
import ClusterLink.Callback

namespace ClusterLink

/-- How much a note matters. -/
inductive Level
  | debug | warning | error | critical
  deriving DecidableEq, Repr, Inhabited

/-- The name of the level. -/
def Level.name : Level → String
  | debug => "DEBUG"
  | warning => "WARNING"
  | error => "ERROR"
  | critical => "CRITICAL"

/-- What is noted. -/
inductive Note
  /-- A driver was made, for the remote side that was given. -/
  | constructed (remote : String)
  /-- No driver was made; a scheduler tells for which master, as it was shown. -/
  | unconstructed (remote : Option String)
  | started (remote : String)
  | stopped
  | aborted
  | destroyed
  | destroyingActive
  /-- A lifecycle call in the wrong state. -/
  | refused (op : String) (state : Lifecycle)
  /-- A command in the wrong state. -/
  | rejected (op : String) (state : Lifecycle)
  /-- A flat call with a malformed sequence. -/
  | malformed (op : String)
  | sending (m : Message)
  | sendFailed (m : Message)
  /-- A message that is not sent, since an earlier send failed. -/
  | withheld (m : Message)
  | listening (address remote : String)
  | connected (remote : String)
  /-- The driver was not started any more when its transport connected. -/
  | leftEarly (commands : Nat)
  /-- A message that came too late. -/
  | dropped (m : Message) (state : Lifecycle)
  | unexpected (m : Message)
  | unknownAcknowledgement (uuid : Bytes)
  | resending (uuid : Bytes) (age : Int)
  | callbackFailed (slot : Slot)
  | failed (message : WideText)
  | failedLate (message : WideText)
  | misused
  | loopFailed
  | closeFailed
  | exited (status : Status)
  deriving DecidableEq, Repr

namespace Note

/-- The level of the note. -/
def level : Note → Level
  | constructed .. | started .. | stopped | aborted | destroyed | rejected .. | sending ..
  | withheld .. | listening .. | connected .. | leftEarly .. | dropped ..
  | unknownAcknowledgement .. | exited .. => .debug
  | destroyingActive | refused .. | unexpected .. | resending .. | failedLate .. => .warning
  | unconstructed .. | malformed .. | sendFailed .. | callbackFailed .. | failed .. | loopFailed
  | closeFailed => .error
  | misused => .critical

/-- A number of nanoseconds in seconds, with one decimal place. -/
def inSeconds (nanos : Int) : String := ((Double.ofInt nanos).dividedBy 1000000000).oneDecimal

/-- The text of a note about the driver with that role and handle. -/
def text (role : Role) (handle : String) (n : Note) : WideText :=
  let driver := role.name ++ " driver " ++ handle
  match n with
  | constructed remote => "constructed " ++ driver ++ " for " ++ remote
  | unconstructed none => "failed to construct " ++ role.name ++ " driver"
  | unconstructed (some remote) => "failed to construct " ++ role.name ++ " driver for " ++ remote
  | started remote => "started " ++ driver ++ " against " ++ remote
  | stopped => "stopped " ++ driver
  | aborted => "aborted " ++ driver
  | destroyed => "destroyed " ++ driver
  | destroyingActive => "destroying active " ++ driver ++ ", aborting it first"
  | refused op s => op ++ " of " ++ driver ++ " in state " ++ s.name
  | rejected op s => op ++ " on " ++ driver ++ " in state " ++ s.name ++ " rejected"
  | malformed op => "malformed sequence passed to " ++ op ++ " of " ++ handle
  | sending m => "sending " ++ m.className ++ " from " ++ handle
  | sendFailed m => "failed to send " ++ m.className ++ " from " ++ handle
  | withheld m => "dropping " ++ m.className ++ " from " ++ handle ++ ", transport already failed"
  | listening a remote => "listening at " ++ a ++ ", connected to " ++ remote
  | connected remote => driver ++ " connected to " ++ remote
  | leftEarly k => driver ++ " left before connecting, dropping " ++ toString k ++ " commands"
  | dropped m s => "dropping " ++ m.className ++ " as " ++ handle ++ " is " ++ s.name
  | unexpected m => driver ++ " ignoring unexpected " ++ m.className
  | unknownAcknowledgement u =>
    "duplicate or unknown acknowledgement " ++ u.hex ++ " at " ++ handle
  | resending u age =>
    "resending status update " ++ u.hex ++ " of " ++ handle ++ ", not acknowledged for " ++
      inSeconds age ++ "s"
  | callbackFailed s => s.name ++ " callback of " ++ driver ++ " failed, aborting"
  | failed m => driver ++ " failed, aborting: " ++ m
  | failedLate m => driver ++ " failed after shutdown: " ++ m
  | misused => "contract violation on the dispatch thread of " ++ handle
  | loopFailed => "dispatch loop of " ++ driver ++ " failed"
  | closeFailed => "failed to close transport of " ++ handle
  | exited s => "dispatch loop of " ++ handle ++ " exited with " ++ s.name

end Note

end ClusterLink
