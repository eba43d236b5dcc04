/-
# Moves

All that can happen to a system: a thread goes on, a new caller comes, or
the outside does something. A thread that lacks what it needs stays where it
is, so that every row of moves is a run of the system (`System.run`).

Key definitions: `Move`, `System.step`, `System.run`.
-/
import ClusterLink.System.Dispatch

namespace ClusterLink

/-- Something that happens to a system. -/
inductive Move
  /-- A thread goes on. -/
  | go (t : Thread)
  /-- A new caller comes. -/
  | call (c : Call)
  | arrive (a : Arrival)
  | openGate
  /-- A callback that waits is woken. -/
  | wake
  /-- Time passes. -/
  | elapse (nanos : Int)
  deriving Repr

namespace System

/-- A caller is left with an errand; what it comes to is recorded once it is finished. -/
def assign (s : System) (n : Nat) (errand : Errand) : System :=
  let s := { s with callers := s.callers.modify n fun c => { c with errand } }
  match errand with
  | .finished r => s.record (.returned n r)
  | _ => s

/-- The dispatch thread begins once it is launched. -/
def launch (s : System) : System :=
  match s.phase with
  | .idle => if s.driver.launched then { s with phase := .begun } else s
  | _ => s

/-- The next move of a caller, which has what it needs. -/
def caller (s : System) (n : Nat) : System :=
  match s.errandOf n with
  | none | some (.finished _) => s
  | some (.region r) =>
    let (errand, endpoint) := s.endpoint.region false r
    ({ s with endpoint }.assign n errand).launch
  | some errand => s.assign n (s.endpoint.awaited errand)

/-- The next move of a thread, which has what it needs. -/
def advance (s : System) : Thread → System
  | .dispatch => s.dispatch
  | .caller n => s.caller n

/-- A new caller comes. Its arguments are converted, and what needs no lock is answered. -/
def addCaller (s : System) (c : Call) : System :=
  let n := s.callers.length
  let (errand, s) := match c with
    | .ask i q => let (r, s) := s.ask i q; (Errand.finished r, s)
    | c => (c.errand s.surface s.driver s.find, s)
  { s with callers := s.callers ++ [Caller.mk c errand] }.assign n errand

/-- A callback that waits is woken. -/
def wake (s : System) : System :=
  match s.phase with
  | .calling frame => { s with phase := .calling { frame with held := false } }
  | _ => s

/-- One move. -/
def step (s : System) : Move → System
  | .go t => if s.provides (s.need t) then s.advance t else s
  | .call c => s.addCaller c
  | .arrive a => { s with inbox := s.inbox ++ [a] }
  | .openGate => { s with gateOpen := true }
  | .wake => s.wake
  | .elapse nanos =>
    { s with endpoint := { s.endpoint with
        surroundings.clock := s.endpoint.surroundings.clock + nanos } }

/-- A row of moves. -/
def run (s : System) (moves : List Move) : System := moves.foldl step s

/-- A system whose driver was just made. -/
def fresh (endpoint : Endpoint) (surface : Surface) (scripts : List (Slot × List Action))
    (gateOpen : Bool) : System where
  endpoint
  surface
  phase := .idle
  callers := []
  store := .empty
  kept := []
  scripts
  inbox := []
  gateOpen

end System

end ClusterLink
