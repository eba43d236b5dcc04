/-
# Events

What happens to a driver, in order: the history of a driver is a list of
events. An observer sees those that involve somebody else: the transport,
the callbacks, the callers and the log. The rest tells what the driver made
of it, and is there for reasoning: which messages were received, taken up
and accepted for sending, and which states the driver was put in.

Key definitions: `Parameter`, `Cause`, `Event`, `Event.isShown`.
-/
import ClusterLink.Driver.Note
import ClusterLink.Transport.Library

namespace ClusterLink

/-- An argument of a callback: an envelope or several, by their bytes, or a number. -/
inductive Parameter
  | envelope (b : Bytes)
  | envelopes (bs : List Bytes)
  | number (n : Int)
  deriving DecidableEq, Repr, Inhabited

/-- Why a message is sent. -/
inductive Cause
  | command
  /-- The callback of a status update returned. -/
  | acknowledgement
  /-- A status update was not acknowledged in time, or is sent to an agent that was restarted. -/
  | resend
  /-- The driver is stopped. -/
  | farewell
  deriving DecidableEq, Repr, Inhabited

/-- Something that happened. -/
inductive Event
  /-- The driver was put in a state. -/
  | became (s : Lifecycle)
  /-- A transport to the remote side was made. -/
  | transportMade (remote : String)
  /-- The transport was told to connect. -/
  | connecting
  | connected
  /-- A call of the socket library. -/
  | called (c : LibraryCall)
  /-- A message went out, in the given span of time. -/
  | sent (m : Message) (began ended : Int)
  /-- A message was to go out, and the transport failed. -/
  | notSent (m : Message) (f : Failure) (began ended : Int)
  /-- A message was accepted for sending. -/
  | accepted (why : Cause) (m : Message)
  /-- A receive ended. -/
  | received (r : Except Failure (List Message))
  /-- A message from the remote side was taken up, while the driver was active. -/
  | taken (m : Message)
  /-- A failure left the dispatch loop. -/
  | escaped (f : Failure)
  /-- The transport was closed, whether that failed or not. -/
  | closed
  /-- A callback began. -/
  | began (slot : Slot) (state : Lifecycle) (payload : Datum) (args : List Parameter)
  /-- A callback returned. -/
  | ended (slot : Slot)
  /-- A callback failed. -/
  | broke (slot : Slot) (f : Failure)
  /-- A callback made a call. -/
  | acted (op : String) (r : Except Failure Answer)
  /-- A callback waits to be woken. -/
  | held (slot : Slot)
  /-- A callback asked for the name of its thread. -/
  | threadNamed (name : String)
  /-- A caller's call returned. -/
  | returned (caller : Nat) (r : Except Failure Answer)
  /-- The dispatch thread ended with a failure. -/
  | threadRaised (f : Failure)
  | noted (n : Note)

namespace Event

/-- Whether a call of the library shows that a transport is made, connected or closed. -/
def isMilestone : LibraryCall → Bool
  | .bind .. | .connect .. | .terminate .. => true
  | _ => false

/-- Whether an observer sees the event, of a driver over sockets or over another transport, with
or without the log. Over sockets the library's milestones stand for making and closing the
transport. -/
def isShown (sockets logs : Bool) : Event → Bool
  | transportMade _ | closed => !sockets
  | called c => isMilestone c
  | noted _ => logs
  | became _ | connecting | connected | accepted .. | received _ | taken _ | escaped _
  | broke .. => false
  | _ => true

end Event

end ClusterLink
