/-
# Endpoints

A driver in its surroundings: the transport, the clock, the supply of
identifiers, and the history of all that happened so far. Everything a
driver does while it holds its lock is a function of endpoints.

Two functions hand messages over. `push` sends, unless the transport is not
connected yet (the message waits in the backlog) or an earlier send failed
(the message is dropped). `submit` does the same for a message that was
accepted for one of the causes there are; only the registration is not.

Key definitions: `Surroundings`, `Endpoint`, `Endpoint.push`,
`Endpoint.submit`, `Endpoint.become`, `Endpoint.enter`.
-/
import ClusterLink.Driver
import ClusterLink.Transport

namespace ClusterLink

/-- What a driver works with. -/
structure Surroundings where
  transport : Transport
  /-- The outcomes of making a transport; those beyond the list succeed. -/
  making : List (Option Failure)
  /-- The time, in nanoseconds. -/
  clock : Int
  /-- How long the sends to come take; those beyond the list take no time. -/
  lags : List Nat
  /-- The identifiers for status updates, and how many were drawn. -/
  ids : Nat → Bytes
  drawn : Nat

/-- A driver in its surroundings, and what happened so far, the last event first. -/
structure Endpoint where
  driver : Driver
  surroundings : Surroundings
  history : List Event

namespace Endpoint

/-! ### Recording -/

/-- Something happens. -/
def record (e : Endpoint) (v : Event) : Endpoint := { e with history := v :: e.history }

/-- Something is noted. -/
def note (e : Endpoint) (n : Note) : Endpoint := e.record (.noted n)

/-- The driver is put in a state. -/
def become (e : Endpoint) (s : Lifecycle) : Endpoint :=
  { e with driver.state := s }.record (.became s)

/-- An active driver ends as aborted, and nothing else changes. -/
def breakOff (e : Endpoint) : Endpoint :=
  if e.driver.state.isActive then e.become .aborted else e

/-- Calls of the library are recorded, the last one first. -/
def recordCalls (e : Endpoint) (cs : List LibraryCall) : Endpoint :=
  { e with history := cs.map .called ++ e.history }

/-- Something is done with the transport, and the calls of the library that it makes are
recorded. -/
def useTransport {α : Type} (e : Endpoint) (f : Transport → Except Failure α × Transport) :
    Except Failure α × Endpoint :=
  let before := e.surroundings.transport
  let (r, transport) := f before
  let new := transport.calls.take (transport.calls.length - before.calls.length)
  (r, { e with surroundings.transport := transport }.recordCalls new)

/-! ### Sending -/

/-- The time passes that the next send takes. -/
def lag (e : Endpoint) : Endpoint :=
  { e with
    surroundings.clock := e.surroundings.clock + e.surroundings.lags.headD 0
    surroundings.lags := e.surroundings.lags.tail }

/-- A message is given to the transport. A failure is kept for the dispatch thread to report, since
this may be the thread of a caller. -/
def transmit (e : Endpoint) (m : Message) : Endpoint :=
  let began := e.surroundings.clock
  let (r, e) := e.useTransport (·.send m)
  let e := e.lag
  match r with
  | .ok () => e.record (.sent m began e.surroundings.clock)
  | .error f =>
    let e := { e with driver.pendingError := some f }
    (e.record (.notSent m f began e.surroundings.clock)).note (.sendFailed m)

/-- A message is handed over. -/
def push (e : Endpoint) (m : Message) : Endpoint :=
  if e.driver.connected = false then { e with driver.backlog := e.driver.backlog ++ [m] }
  else if e.driver.pendingError.isSome then e.note (.withheld m)
  else (e.note (.sending m)).transmit m

/-- A message that was accepted is handed over. -/
def submit (e : Endpoint) (why : Cause) (m : Message) : Endpoint :=
  (e.record (.accepted why m)).push m

/-- Several messages are handed over. -/
def pushAll (e : Endpoint) (ms : List Message) : Endpoint := ms.foldl push e

/-! ### Connecting and closing -/

/-- The first half of connecting the transport. -/
def connectStart (e : Endpoint) : Except Failure Unit × Endpoint :=
  (e.record .connecting).useTransport Transport.connectStart

/-- The second half of connecting the transport. -/
def connectEnd (e : Endpoint) : Except Failure Unit × Endpoint :=
  let (r, e) := e.useTransport Transport.connectEnd
  match r with
  | .error f => (.error f, e)
  | .ok () =>
    let e := e.record .connected
    match e.surroundings.transport with
    | .scripted _ => (.ok (), e)
    | .sockets s => (.ok (), e.note (.listening (s.known.getD "") s.remote))

/-- The driver joins the cluster, its transport being connected: it registers, and what waited in
the backlog follows. A driver that was shut down in the meantime does not. -/
def enter (e : Endpoint) : Except Failure Unit × Endpoint :=
  if e.driver.state ≠ .started then
    let e := e.note (.leftEarly e.driver.backlog.length)
    (.ok (), { e with driver.backlog := [] })
  else
    let e := { e with driver.connected := true }
    match e.surroundings.transport.address with
    | .error f => (.error f, e)
    | .ok replyTo =>
      let e := e.push (e.driver.registration replyTo)
      let waiting := e.driver.backlog
      let e := { e with driver.backlog := [] }.pushAll waiting
      (.ok (), (e.become .running).note (.connected e.driver.remote))

/-- The transport is closed. -/
def closeTransport (e : Endpoint) : Endpoint :=
  let (r, e) := e.useTransport Transport.close
  let e := e.record .closed
  match r with
  | .ok () => e
  | .error _ => e.note .closeFailed

/-- The driver leaves the cluster: whatever made its dispatch loop end, it is not active any more,
its final status is settled and its transport is closed. -/
def leave (e : Endpoint) : Endpoint :=
  let e := { e.breakOff with driver.connected := false, driver.backlog := [] }
  { e with driver.finalStatus := some e.driver.state.status }.closeTransport

/-- The end of the dispatch loop is made known. -/
def signal (e : Endpoint) : Endpoint :=
  { e with driver.done := true }.note (.exited e.driver.verdict)

end Endpoint

end ClusterLink
