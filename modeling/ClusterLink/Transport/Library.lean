/-
# The socket library

What a transport uses to talk over the network: sockets that push or pull
frames, and a context that they belong to. The library is a state: the
frames that arrived and were not fetched, those that are still to arrive
(each poll lets one more batch of them in), and a record of all calls, the
last one first. Which calls fail is up to the network, and may depend on
all calls made before (`Faults`).

A call is recorded whether it fails or not. Polling reports one event while
frames are queued and a socket is watched, unless the number of events is
forced.

Key definitions: `Socket`, `LibraryCall`, `Faults`, `Library`,
`Library.poll`, `Library.fetch`.
-/
import ClusterLink.Failure

namespace ClusterLink

/-- Which way a socket carries frames. -/
inductive Direction
  | pull | push
  deriving DecidableEq, Repr, Inhabited

/-- The name of the direction. -/
def Direction.name : Direction → String
  | .pull => "PULL"
  | .push => "PUSH"

/-- A socket, by its number. -/
structure Socket where
  id : Nat
  direction : Direction
  deriving DecidableEq, Repr, Inhabited

/-- A setting of a socket, in milliseconds. -/
inductive SocketOption
  /-- How long closing waits for frames that were not sent yet. -/
  | linger
  /-- How long a send may wait. -/
  | sendTimeout
  deriving DecidableEq, Repr, Inhabited

/-- The name of the setting. -/
def SocketOption.name : SocketOption → String
  | .linger => "LINGER"
  | .sendTimeout => "SNDTIMEO"

/-- A call of the library. -/
inductive LibraryCall
  | context (id : Nat)
  | «open» (s : Socket)
  | configure (s : Socket) (o : SocketOption) (value : Int)
  | bind (s : Socket) (address : String)
  | watch (s : Socket)
  | connect (s : Socket) (address : String)
  | send (s : Socket) (frame : Bytes)
  /-- Wait for so many milliseconds, or for ever. -/
  | poll (millis : Option Int)
  | fetch (s : Socket)
  | close (s : Socket)
  | terminate (context : Nat)
  deriving DecidableEq, Repr

/-- Which calls fail: the failure of a call, given the calls before it, the last one first. -/
abbrev Faults := List LibraryCall → LibraryCall → Option Failure

namespace Faults

/-- No call fails. -/
def never : Faults := fun _ _ => none

/-- Whether a call is a send. -/
def isSend : LibraryCall → Bool
  | .send .. => true
  | _ => false

/-- Binding, connecting and terminating always fail in the given way, if at all; each send has an
outcome of its own, and those beyond the list succeed. -/
def scripted (bind connect terminate : Option Failure) (sends : List (Option Failure)) : Faults :=
  fun before call =>
    match call with
    | .bind .. => bind
    | .connect .. => connect
    | .terminate .. => terminate
    | .send .. => sends.getD (before.countP isSend) none
    | _ => none

end Faults

/-- The state of the library. -/
structure Library where
  /-- The port that binding takes. -/
  port : Int
  faults : Faults
  /-- The frames that arrived and were not fetched. -/
  queue : List Bytes
  /-- The frames that each of the next polls lets in. -/
  arriving : List (List Bytes)
  /-- How many events every poll reports, if that is forced. -/
  forced : Option Nat
  /-- How many sockets and contexts were made. -/
  made : Nat
  /-- All calls, the last one first. -/
  calls : List LibraryCall

namespace Library

/-- A library that was not used yet. -/
def fresh (port : Int) (faults : Faults) : Library :=
  { port, faults, queue := [], arriving := [], forced := none, made := 0, calls := [] }

/-- A call is recorded. -/
def record (l : Library) (c : LibraryCall) : Library := { l with calls := c :: l.calls }

/-- How the last call ended. -/
def outcome (l : Library) : Except Failure Unit :=
  match l.calls with
  | [] => .ok ()
  | c :: before =>
    match l.faults before c with
    | some f => .error f
    | none => .ok ()

/-- One more frame arrives. -/
def arrive (l : Library) (frame : Bytes) : Library := { l with queue := l.queue ++ [frame] }

/-- The library after the next batch of frames was let in. -/
def letIn (l : Library) : Library :=
  match l.arriving with
  | [] => l
  | frames :: later => { l with queue := l.queue ++ frames, arriving := later }

/-- How many events a poll reports, with these sockets watched. -/
def events (l : Library) (watched : List Socket) : Nat :=
  match l.forced with
  | some n => n
  | none => if watched = [] ∨ l.queue = [] then 0 else 1

/-- The first frame of the queue, and the library without it. -/
def pop (l : Library) : Except Failure Bytes × Library :=
  match l.queue with
  | [] => (.error .emptyQueue, l)
  | frame :: rest => (.ok frame, { l with queue := rest })

/-- The number of frames that are queued or still to arrive. -/
def pending (l : Library) : Nat := l.queue.length + l.arriving.flatten.length

end Library

end ClusterLink
