/-
# Sessions

A run of a system in which the threads take turns: one at a time goes on
until it has to wait or is done, and then the one that has been ready for
longest. The lock is fair. When it is given back it passes to the thread
that has waited for longest, which becomes ready, while the one that gave it
back goes on.

A session is a row of steps. A call is made by a new thread, which runs
first; after that the others run until all wait. If then the only thing
missing is that a receive times out, so that a driver that was shut down can
end for somebody who waits for that, it does.

A step reports the answer to its call, or that it is pending, the state of
the driver after the step, and what happened meanwhile.

`tick` makes one move or one change of turns. A step ends when there is
nothing left to do; the bound on the number of ticks is far beyond what the
steps, messages and actions of the session can give rise to.

Key definitions: `Session`, `Session.tick`, `Session.settle`,
`Session.Step`, `Report`, `Scenario`, `Scenario.play`.
-/
import ClusterLink.Driver.Construct
import ClusterLink.System.Move

namespace ClusterLink

/-- A system whose threads take turns. -/
structure Session where
  system : System
  /-- The thread whose turn it is. -/
  current : Option Thread
  /-- The threads that can go on, the one that has been ready for longest first. -/
  ready : List Thread
  /-- The threads that wait for the lock, in order of arrival. -/
  waiting : List Thread
  /-- The thread that the lock was passed to, until it takes it. -/
  heir : Option Thread
  /-- The callers that wait for the end of the dispatch thread, in order of arrival. -/
  sleeping : List Thread
  /-- Whether the dispatch thread waits for something from outside. -/
  parked : Bool

namespace Session

/-- A session before its first step. -/
def fresh (system : System) : Session where
  system
  current := none
  ready := []
  waiting := []
  heir := none
  sleeping := []
  parked := false

/-- Whether a thread can go on. -/
def mayGo (s : Session) (t : Thread) (need : Need) : Bool :=
  match need, s.heir with
  | .lock, some h => decide (h = t)
  | n, _ => s.system.provides n

/-- A thread waits for what it needs. -/
def suspend (s : Session) (t : Thread) : Need → Session
  | .lock => { s with waiting := s.waiting ++ [t] }
  | .finish => { s with sleeping := s.sleeping ++ [t] }
  | .gate | .arrival | .wake => { s with parked := true }
  | .nothing | .never => s

/-- The lock, which was given back, passes to the thread that has waited for longest. -/
def passLock (s : Session) : Session :=
  match s.waiting with
  | [] => s
  | t :: waiting => { s with waiting, heir := some t, ready := s.ready ++ [t] }

/-- The dispatch thread is ready as soon as it is launched. -/
def launched (s : Session) (before : System) : Session :=
  match before.phase, s.system.phase with
  | .idle, .begun => { s with ready := s.ready ++ [.dispatch] }
  | _, _ => s

/-- Who waited for the end of the dispatch thread is ready once it ended. -/
def awakened (s : Session) (before : System) : Session :=
  if !before.driver.done && s.system.driver.done then
    { s with ready := s.ready ++ s.sleeping, sleeping := [] }
  else s

/-- A thread makes a move. -/
def go (s : Session) (t : Thread) (need : Need) : Session :=
  let before := s.system
  let s := { s with
    system := before.advance t
    heir := if need = Need.lock then none else s.heir }
  let s := (s.launched before).awakened before
  if (decide (need = Need.lock) || before.isLocked) && !s.system.isLocked then s.passLock else s

/-- Whether all wait for a receive to time out. -/
def isStuck (s : Session) : Bool :=
  s.parked && decide (s.system.dispatchNeed = .arrival) && !s.system.driver.state.isActive &&
    !s.sleeping.isEmpty

/-- A receive times out. -/
def timeOut (s : Session) : Session :=
  { s with
    system := s.system.step (.arrive (.messages []))
    ready := s.ready ++ [.dispatch]
    parked := false }

/-- One move, or one change of turns; nothing if all threads wait. -/
def tick (s : Session) : Option Session :=
  match s.current with
  | some t =>
    let need := s.system.need t
    if s.mayGo t need then some (s.go t need)
    else some { s.suspend t need with current := none }
  | none =>
    match s.ready with
    | t :: ready => some { s with current := some t, ready }
    | [] => if s.isStuck then some s.timeOut else none

/-- The thread whose turn it is goes on until it has to wait. -/
def finishTurn : Nat → Session → Session
  | 0, s => s
  | fuel + 1, s =>
    match s.current with
    | none => s
    | some _ =>
      match s.tick with
      | some s => finishTurn fuel s
      | none => s

/-- All threads go on until they have to wait. -/
def settle : Nat → Session → Session
  | 0, s => s
  | fuel + 1, s =>
    match s.tick with
    | some s => settle fuel s
    | none => s

/-- Something happens outside; the dispatch thread is ready if it waited for that. -/
def outside (s : Session) (m : Move) : Session :=
  let s := { s with system := s.system.step m }
  if s.parked && s.system.provides s.system.dispatchNeed then
    { s with ready := s.ready ++ [.dispatch], parked := false }
  else s

/-- One step of a session. -/
inductive Step
  | call (c : Call)
  | arrive (a : Arrival)
  | openGate
  | wake
  | elapse (nanos : Int)
  deriving Repr

end Session

/-- What came of the call of a step. -/
inductive Outcome
  | answered (r : Except Failure Answer)
  /-- The call of that number waits. -/
  | pending (caller : Nat)

/-- What a step reports. -/
structure Report where
  outcome : Outcome
  /-- The state of the driver, if there is one. -/
  state : Option Lifecycle
  /-- What happened, in order. -/
  events : List Event

namespace Session

/-- The events since the history had `n`, in order. -/
def eventsSince (s : Session) (n : Nat) : List Event :=
  let h := s.system.endpoint.history
  (h.take (h.length - n)).reverse

/-- Whether an event tells that a call returned. -/
def isReturnOf (caller : Nat) : Event → Bool
  | .returned n _ => decide (n = caller)
  | _ => false

/-- The answer of a caller, once it has one. -/
def answerOf (s : Session) (caller : Nat) : Option (Except Failure Answer) :=
  match s.system.errandOf caller with
  | some (.finished r) => some r
  | _ => none

/-- A call is made by a new thread. -/
def makeCall (s : Session) (fuel : Nat) (c : Call) : Report × Session :=
  let known := s.system.endpoint.history.length
  let caller := s.system.callers.length
  let s := { s with system := s.system.step (.call c), current := some (.caller caller) }
  let s := s.finishTurn fuel
  let answer := s.answerOf caller
  let s := s.settle fuel
  let events := s.eventsSince known
  let state := some s.system.driver.state
  match answer with
  | some r => (⟨.answered r, state, events.filter fun v => !isReturnOf caller v⟩, s)
  | none => (⟨.pending caller, state, events⟩, s)

/-- Something is done outside. -/
def makeMove (s : Session) (fuel : Nat) (m : Move) : Report × Session :=
  let known := s.system.endpoint.history.length
  let s := (s.outside m).settle fuel
  (⟨.answered (.ok .nothing), some s.system.driver.state, s.eventsSince known⟩, s)

/-- One step. -/
def step (s : Session) (fuel : Nat) : Step → Report × Session
  | .call c => s.makeCall fuel c
  | .arrive a => s.makeMove fuel (.arrive a)
  | .openGate => s.makeMove fuel .openGate
  | .wake => s.makeMove fuel .wake
  | .elapse nanos => s.makeMove fuel (.elapse nanos)

/-- The reports of a row of steps. -/
def run (s : Session) (fuel : Nat) : List Step → List Report
  | [] => []
  | x :: xs =>
    let (r, s) := s.step fuel x
    r :: s.run fuel xs

end Session

/-- All that a session starts from, and its steps. -/
structure Scenario where
  application : Application
  surface : Surface
  /-- The transport to the address that is given, with the settings of the driver. -/
  transport : String → Settings → Transport
  making : List (Option Failure)
  gateOpen : Bool
  scripts : List (Slot × List Action)
  steps : List Session.Step

namespace Scenario

/-- How much work an arrival can make. -/
def arrivalSize : Arrival → Nat
  | .messages ms => ms.length
  | .frames fs => fs.length
  | .failure _ => 1

/-- How much work a step can make. -/
def stepSize : Session.Step → Nat
  | .arrive a => 1 + arrivalSize a
  | _ => 1

/-- A bound on the ticks that a step of the session takes. -/
def fuel (sc : Scenario) : Nat :=
  let steps := sc.steps.foldl (fun n x => n + stepSize x) 0
  64 + 32 * (steps + (sc.scripts.flatMap (·.2)).length)

/-- The session of a driver that was made; identifiers of status updates are numbers. -/
def session (sc : Scenario) (d : Driver) : Session :=
  let surroundings : Surroundings :=
    { transport := sc.transport d.remote d.settings, making := sc.making, clock := 0, lags := []
      ids := Bytes.bigEndian 16, drawn := 0 }
  .fresh (.fresh ⟨d, surroundings, []⟩ sc.surface sc.scripts sc.gateOpen)

/-- What a call comes to on the null pair: there is nothing to be read, nothing was kept, and every
call of the driver is misuse, unless it fails before. -/
def callOnNullPair (sc : Scenario) (c : Call) : Except Failure Answer :=
  let find := fun _ => .error .listIndex
  match c with
  | .read _ => .ok .nothing
  | .ask .. => .error .listIndex
  | c => (c.prepared sc.surface sc.application.identity.role find).bind fun _ => .error .nullPair

/-- What a step comes to on the null pair, where nothing happens. -/
def onNullPair (sc : Scenario) : Session.Step → Report
  | .call c => ⟨.answered (sc.callOnNullPair c), none, []⟩
  | _ => ⟨.answered (.ok .nothing), none, []⟩

/-- What comes of the application, with what is noted about it, and the reports of the steps. -/
def play (sc : Scenario) : Opening × List Note × List Report :=
  let (opening, notes) := sc.application.submit (decide (sc.surface = .flat))
  let reports := match opening with
    | .driver d => (sc.session d).run sc.fuel sc.steps
    | .nullPair => sc.steps.map sc.onNullPair
    | .failed _ => []
  (opening, notes, reports)

end Scenario

end ClusterLink
