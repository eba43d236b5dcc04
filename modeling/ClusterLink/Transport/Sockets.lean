/-
# The socket transport

A transport over the socket library. It pulls frames on a socket of its own,
bound to a free port, and pushes them to the remote side on another one; the
address under which the remote side reaches it is known once the first one
is bound.

Connecting is done in two halves, since the last call may take its time:
`connectStart` makes all calls, and `connectEnd` tells how the last one
ended. Closing closes both sockets and then the context, and forgets them
only if no call failed.

Receiving polls once with the given time span, and if there is a frame goes
on without waiting until a poll finds none. `drain` ends, since each round
but the last fetches a frame; its fuel is the number of frames there are.

Key definitions: `Seconds`, `Sockets`, `Sockets.connect`, `Sockets.send`,
`Sockets.receive`, `Sockets.close`, `Sockets.address`.
-/
import ClusterLink.Answer
import ClusterLink.Transport.Library
import ClusterLink.Wire.Reader

namespace ClusterLink

/-- A span of time in seconds. -/
inductive Seconds
  | whole (n : Int)
  | real (x : Double)
  deriving DecidableEq, Repr, Inhabited

/-- The span in whole milliseconds. -/
def Seconds.millis : Seconds → Except Failure Int
  | whole n => .ok (n * 1000)
  | real x =>
    match x.times 1000 with
    | .infinity _ => .error .infiniteSpan
    | .nan => .error .undefinedSpan
    | y => .ok (y.truncate?.getD 0)

/-- A transport over the socket library. -/
structure Sockets where
  library : Library
  remote : String
  /-- The host part of its own address. -/
  host : String
  lingerMs : Int
  sendTimeoutMs : Int
  context : Option Nat
  push : Option Socket
  pull : Option Socket
  /-- The sockets that polls look at, the last one first. -/
  watched : List Socket
  known : Option String

namespace Sockets

/-- A transport that was not connected yet. -/
def fresh (library : Library) (remote host : String) (lingerMs sendTimeoutMs : Int) : Sockets where
  library
  remote
  host
  lingerMs
  sendTimeoutMs
  context := none
  push := none
  pull := none
  watched := []
  known := none

/-- What uses the transport, and may fail midway. -/
abbrev Use := ExceptT Failure (StateM Sockets)

/-- A call is recorded. -/
def record (c : LibraryCall) : Use Unit :=
  modify fun t => { t with library := t.library.record c }

/-- How the last call ended. -/
def outcome : Use Unit := do
  let t ← get
  ExceptT.mk (pure t.library.outcome)

/-- A call of the library. -/
def call (c : LibraryCall) : Use Unit := do
  record c
  outcome

/-- The number of the next socket or context. -/
def next : Use Nat := do
  let t ← get
  set { t with library := { t.library with made := t.library.made + 1 } }
  return t.library.made

/-- A new socket. -/
def openSocket (d : Direction) : Use Socket := do
  let s : Socket := ⟨← next, d⟩
  call (.open s)
  return s

/-- The address under which the remote side reaches this one. -/
def address (t : Sockets) : Except Failure String :=
  match t.known with
  | some a => .ok a
  | none => .error .notConnected

/-- The first half of connecting. The own socket is bound before anything is sent, since replies
would be lost otherwise. -/
def connectStart : Use Unit := do
  let context ← next
  call (.context context)
  modify fun t => { t with context := some context }
  let pull ← openSocket .pull
  modify fun t => { t with pull := some pull }
  call (.configure pull .linger 0)
  call (.bind pull "tcp://*")
  modify fun t => { t with known := some ("tcp://" ++ t.host ++ ":" ++ toString t.library.port) }
  call (.watch pull)
  modify fun t => { t with watched := pull :: t.watched }
  let push ← openSocket .push
  modify fun t => { t with push := some push }
  let t ← get
  call (.configure push .linger t.lingerMs)
  call (.configure push .sendTimeout t.sendTimeoutMs)
  record (.connect push t.remote)

/-- The second half of connecting. -/
def connectEnd : Use Unit := outcome

/-- Connect. -/
def connect : Use Unit := do
  connectStart
  connectEnd

/-- Send a frame. -/
def send (frame : Bytes) : Use Unit := do
  let t ← get
  match t.push with
  | none => throw .notConnected
  | some s => call (.send s frame)

/-- Poll, and fetch a frame if there is one. -/
def receiveFrame (pull : Socket) (millis : Option Int) : Use (Option Bytes) := do
  call (.poll millis)
  modify fun t => { t with library := t.library.letIn }
  let t ← get
  match t.library.events t.watched with
  | 0 => return none
  | 1 =>
    call (.fetch (t.watched.headD pull))
    let t ← get
    let (frame, library) := t.library.pop
    set { t with library }
    let frame ← ExceptT.mk (pure frame)
    return some frame
  | n => throw (.eventCount n)

/-- Poll, and read a message if there is one. -/
def receiveOne (pull : Socket) (millis : Option Int) : Use (Option Message) := do
  match ← receiveFrame pull millis with
  | none => return none
  | some frame =>
    let m ← ExceptT.mk (pure (Wire.decode frame))
    return some m

/-- Read messages without waiting until there are none. -/
def drain (pull : Socket) : Nat → Use (List Message)
  | 0 => return []
  | fuel + 1 => do
    match ← receiveOne pull (some 0) with
    | none => return []
    | some m => return m :: (← drain pull fuel)

/-- The milliseconds of a span, for ever if there is none. -/
def millisOf : Option Seconds → Except Failure (Option Int)
  | none => .ok none
  | some s => s.millis.map some

/-- The messages that there are, waiting for the first one as long as the span says. -/
def receive (span : Option Seconds) : Use (List Message) := do
  let t ← get
  match t.pull with
  | none => throw .notConnected
  | some pull =>
    let millis ← ExceptT.mk (pure (millisOf span))
    match ← receiveOne pull millis with
    | none => return []
    | some m =>
      let t ← get
      return m :: (← drain pull (t.library.pending + 1))

/-- Close a socket, if there is one. -/
def closeSocket : Option Socket → Use Unit
  | none => return ()
  | some s => call (.close s)

/-- Terminate a context, if there is one. -/
def terminate : Option Nat → Use Unit
  | none => return ()
  | some c => call (.terminate c)

/-- Close. -/
def close : Use Unit := do
  let t ← get
  closeSocket t.push
  closeSocket t.pull
  terminate t.context
  modify fun t => { t with push := none, pull := none, context := none }

/-- What is done with a transport on its own. -/
inductive Step
  | connect
  | close
  | address
  /-- Whether it is a transport, which looks at its address. -/
  | isTransport
  | send (m : Message)
  /-- A frame arrives. -/
  | arrive (frame : Bytes)
  /-- The number of events that every poll reports is forced from now on, or no longer. -/
  | force (events : Option Nat)
  | receive (span : Option Seconds)
  deriving Repr

/-- The answer to a step, and the transport after it. -/
def step (t : Sockets) : Step → Except Failure Answer × Sockets
  | .connect => answered connect fun _ => .nothing
  | .close => answered close fun _ => .nothing
  | .address => (t.address.map .text, t)
  | .isTransport => (t.address.map fun _ => .truth true, t)
  | .send m => answered (send (Wire.encode m)) fun _ => .nothing
  | .arrive frame => (.ok .nothing, { t with library := t.library.arrive frame })
  | .force events => (.ok .nothing, { t with library := { t.library with forced := events } })
  | .receive span => answered (receive span) .messages
where
  /-- The answer of a use. -/
  answered {α : Type} (u : Use α) (f : α → Answer) : Except Failure Answer × Sockets :=
    let (r, t) := u.run t
    (r.map f, t)

/-- The calls of the library that were made since it had made `n` calls, in order. -/
def callsSince (t : Sockets) (n : Nat) : List LibraryCall :=
  (t.library.calls.take (t.library.calls.length - n)).reverse

/-- The answers to a row of steps, each with the calls of the library that it made. -/
def run (t : Sockets) : List Step → List (Except Failure Answer × List LibraryCall)
  | [] => []
  | s :: ss =>
    let (r, t') := t.step s
    (r, t'.callsSince t.library.calls.length) :: t'.run ss

end Sockets

end ClusterLink
