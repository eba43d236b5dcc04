/-
# Transports

What a driver needs of the way to its remote side: to connect, to know its
own address, to send, to receive and to close. A transport either works over
sockets or is scripted, which means that the outcome of everything it does
is laid down in advance.

What comes in is an arrival: messages, frames that still have to be read, or
the failure of a receive. A transport takes one arrival per receive, and a
receive without one waits, unless it is bound to fail before it waits
(`Transport.refusal`).

Key definitions: `Arrival`, `Scripted`, `Transport`, `Transport.send`,
`Transport.receive`, `Transport.close`.
-/
import ClusterLink.Transport.Sockets

namespace ClusterLink

/-- What a receive finds. -/
inductive Arrival
  | messages (ms : List Message)
  | frames (fs : List Bytes)
  | failure (f : Failure)
  deriving DecidableEq, Repr, Inhabited

/-- The frames that arrive. -/
def Arrival.toFrames : Arrival → List Bytes
  | messages ms => ms.map Wire.encode
  | frames fs => fs
  | failure _ => []

/-- A transport whose outcomes are laid down. -/
structure Scripted where
  address : Except Failure String
  connecting : Option Failure
  /-- The outcomes of the sends to come; those beyond the list succeed. -/
  sending : List (Option Failure)
  closing : Option Failure

/-- The way to the remote side. -/
inductive Transport
  | scripted (s : Scripted)
  | sockets (s : Sockets)

namespace Transport

/-- The outcome of something that may fail. -/
def outcome : Option Failure → Except Failure Unit
  | none => .ok ()
  | some f => .error f

/-- What a use of the sockets does to a transport over them. -/
def through {α : Type} (s : Sockets) (u : Sockets.Use α) : Except Failure α × Transport :=
  let (r, s) := u.run s
  (r, sockets s)

/-- The calls of the library that the transport made so far, the last one first. -/
def calls : Transport → List LibraryCall
  | scripted _ => []
  | sockets s => s.library.calls

/-- The first half of connecting, up to the call that may take its time. -/
def connectStart : Transport → Except Failure Unit × Transport
  | scripted s => (.ok (), scripted s)
  | sockets s => through s Sockets.connectStart

/-- The second half of connecting. -/
def connectEnd : Transport → Except Failure Unit × Transport
  | scripted s => (outcome s.connecting, scripted s)
  | sockets s => through s Sockets.connectEnd

/-- The address under which the remote side reaches this one. -/
def address : Transport → Except Failure String
  | scripted s => s.address
  | sockets s => s.address

/-- Send a message. -/
def send (m : Message) : Transport → Except Failure Unit × Transport
  | scripted s => (outcome (s.sending.headD none), scripted { s with sending := s.sending.tail })
  | sockets s => through s (Sockets.send (Wire.encode m))

/-- The failure of a receive that does not wait for an arrival. -/
def refusal (timeout : Double) : Transport → Option Failure
  | scripted _ => none
  | sockets s =>
    match s.pull, (Seconds.real timeout).millis with
    | none, _ => some .notConnected
    | some _, .error f => some f
    | some _, .ok _ => none

/-- The messages of an arrival. -/
def receive (timeout : Double) (a : Arrival) : Transport → Except Failure (List Message) × Transport
  | scripted s =>
    match a with
    | .messages ms => (.ok ms, scripted s)
    | .frames fs => (fs.mapM Wire.decode, scripted s)
    | .failure f => (.error f, scripted s)
  | sockets s =>
    match a with
    | .failure f => (.error f, sockets s)
    | a =>
      let s := { s with library := { s.library with arriving := [a.toFrames] } }
      through s (Sockets.receive (some (.real timeout)))

/-- Close. -/
def close : Transport → Except Failure Unit × Transport
  | scripted s => (outcome s.closing, scripted s)
  | sockets s => through s Sockets.close

end Transport

end ClusterLink
