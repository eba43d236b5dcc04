/-
# Systems

A driver among the threads that use it: the dispatch thread, which connects
the transport and then delivers what arrives to the callbacks, and any
number of callers. A system goes on in moves, each of which is a piece of
work that no lock separates: what one thread does under the lock in one go,
or between two times of holding it. Whoever picks the moves decides how the
threads interleave; a move that a thread cannot make yet changes nothing.

The lock is held from one move to the next only while a callback runs
(`System.isLocked`). A callback is laid down as a list of actions, and each
action is a move of its own, so that a callback that waits holds the lock
for as long.

Key definitions: `Action`, `Frame`, `Phase`, `Caller`, `System`, `System.isLocked`,
`Thread`, `Need`, `System.need`, `System.provides`.
-/
import ClusterLink.Call

namespace ClusterLink

/-- What a callback does next. -/
inductive Action
  /-- Make a call; its failure is that of the callback if it is passed on. -/
  | call (c : Call) (passOn : Bool)
  /-- Fail. -/
  | raise (f : Failure)
  /-- Wait to be woken. -/
  | hold
  /-- Keep the envelopes that were lent to the callback, or a view of each. -/
  | keep
  | keepViews
  /-- Ask for the name of the thread. -/
  | nameThread
  deriving Repr

/-- What the dispatch thread goes on with after a callback. -/
inductive After
  /-- The callback was due to a message, and more messages follow. -/
  | message (m : Message) (rest : List Message)
  /-- The callback reported a send that failed. -/
  | pending
  /-- The callback reported a failure that ended the dispatch loop. -/
  | escaped
  deriving Repr

/-- A callback that runs. -/
structure Frame where
  slot : Slot
  /-- The envelopes that were lent to it. -/
  lent : List Nat
  /-- What it still does. -/
  actions : List Action
  /-- Whether it waits to be woken. -/
  held : Bool
  after : After
  deriving Repr

/-- Where the dispatch thread is. -/
inductive Phase
  /-- It was not launched. -/
  | idle
  | begun
  /-- The transport was told to connect. -/
  | linking
  /-- The transport connected, and the driver is to join the cluster. -/
  | entering
  /-- A round of the dispatch loop begins, unless the driver was shut down. -/
  | checking
  /-- A send may have failed. -/
  | deciding
  | reporting (f : Failure)
  | receiving
  | handling (ms : List Message)
  | ticking
  /-- The loop was left by a failure, which is to be reported. -/
  | escaped (f : Failure)
  | calling (frame : Frame)
  /-- The driver is to leave the cluster; misuse is passed on after that. -/
  | closing (cause : Option Failure)
  | signalling (cause : Option Failure)
  | ended
  deriving Repr

/-- A caller: the call that it made, and what it still has to do. -/
structure Caller where
  call : Call
  errand : Errand
  deriving Repr

/-- A driver, its dispatch thread, its callers, and what they share. -/
structure System where
  endpoint : Endpoint
  surface : Surface
  phase : Phase
  /-- The callers, in the order in which they came; a caller's number is its place. -/
  callers : List Caller
  store : Store
  /-- The envelopes and views that callbacks kept. -/
  kept : List Object
  /-- What the invocations of each slot do, in order; beyond that they do nothing. -/
  scripts : List (Slot × List Action)
  inbox : List Arrival
  /-- Whether the transport can get through to the remote side. -/
  gateOpen : Bool

/-- A thread that uses a driver. -/
inductive Thread
  | dispatch
  | caller (n : Nat)
  deriving DecidableEq, Repr, Inhabited

/-- What a thread needs to go on. -/
inductive Need
  | nothing
  | lock
  /-- The end of the dispatch thread. -/
  | finish
  | gate
  | arrival
  /-- Somebody to wake the callback. -/
  | wake
  /-- The thread has nothing left to do. -/
  | never
  deriving DecidableEq, Repr, Inhabited

namespace System

/-- The driver. -/
abbrev driver (s : System) : Driver := s.endpoint.driver

/-- Whether the lock is held, which it is by the dispatch thread while a callback runs. -/
def isLocked (s : System) : Bool :=
  match s.phase with
  | .calling _ => true
  | _ => false

/-- The failure of a receive that does not wait for an arrival. -/
def refusal (s : System) : Option Failure :=
  s.endpoint.surroundings.transport.refusal s.driver.settings.receiveTimeout

/-- What the dispatch thread needs. -/
def dispatchNeed (s : System) : Need :=
  match s.phase with
  | .idle | .ended => .never
  | .begun | .deciding | .signalling _ => .nothing
  | .linking => .gate
  | .receiving => if s.refusal.isSome then .nothing else .arrival
  | .entering | .checking | .reporting _ | .handling _ | .ticking | .escaped _ | .closing _ => .lock
  | .calling frame => if frame.held then .wake else .nothing

/-- What a caller still has to do. -/
def errandOf (s : System) (n : Nat) : Option Errand := s.callers[n]?.map Caller.errand

/-- What a caller needs. -/
def callerNeed (s : System) (n : Nat) : Need :=
  match s.errandOf n with
  | some (.region _) => .lock
  | some .awaitVerdict | some .awaitDestroy => .finish
  | some (.finished _) | none => .never

/-- What a thread needs. -/
def need (s : System) : Thread → Need
  | .dispatch => s.dispatchNeed
  | .caller n => s.callerNeed n

/-- Whether a need is met. -/
def provides (s : System) : Need → Bool
  | .nothing => true
  | .lock => !s.isLocked
  | .finish => s.driver.done
  | .gate => s.gateOpen
  | .arrival => !s.inbox.isEmpty
  | .wake | .never => false

/-- The object that was kept in a place. -/
def keptAt (s : System) (i : Int) : Except Failure Object := do
  let k ← Index.place s.kept.length .listIndex i
  .ok (s.kept.getD k (.buffer []))

/-- An object that was kept, as an argument. -/
def find (s : System) (i : Int) : Except Failure Argument := (s.keptAt i).map s.store.argument

/-- The answer of an object that was kept. -/
def ask (s : System) (i : Int) (q : Query) : Except Failure Answer × System :=
  match s.keptAt i with
  | .ok o => let (r, store) := s.store.ask o q; (r, { s with store })
  | .error f => (.error f, s)

/-- Something happens. -/
def record (s : System) (v : Event) : System := { s with endpoint := s.endpoint.record v }

/-- Something is noted. -/
def note (s : System) (n : Note) : System := s.record (.noted n)

end System

end ClusterLink
