/-
# Lifecycle

The states a driver goes through, and the status codes its calls report.

The documented machine: created to started by `start`, started to running
once connected, started or running to stopped or aborted, and any state to
destroyed. `Step` is that relation; what the driver does is in `Driver`.

Codes 1 to 4 are those of the cluster protocol; the code of a call that was
made in the wrong state has no counterpart there.

Key definitions: `Lifecycle`, `Status`, `Lifecycle.isActive`,
`Lifecycle.status`, `Lifecycle.Step`.
-/
namespace ClusterLink

/-- The state of a driver. -/
inductive Lifecycle
  | created | started | running | stopped | aborted | destroyed
  deriving DecidableEq, Repr, Inhabited

/-- What a lifecycle call or a command reports. -/
inductive Status
  | notStarted | running | aborted | stopped | invalidState
  deriving DecidableEq, Repr, Inhabited

namespace Status

/-- The number of the code. -/
def code : Status → Nat
  | notStarted => 1
  | running => 2
  | aborted => 3
  | stopped => 4
  | invalidState => 5

/-- The name of the code. -/
def name : Status → String
  | notStarted => "NOT_STARTED"
  | running => "RUNNING"
  | aborted => "ABORTED"
  | stopped => "STOPPED"
  | invalidState => "INVALID_STATE"

end Status

namespace Lifecycle

/-- The name of the state. -/
def name : Lifecycle → String
  | created => "created"
  | started => "started"
  | running => "running"
  | stopped => "stopped"
  | aborted => "aborted"
  | destroyed => "destroyed"

/-- Every state, in the order of a driver's life. -/
def all : List Lifecycle := [created, started, running, stopped, aborted, destroyed]

/-- The state of that name. -/
def ofName? (s : String) : Option Lifecycle := all.find? fun l => l.name = s

/-- Whether the driver takes part in the cluster: it does while started or running. -/
def isActive : Lifecycle → Bool
  | started | running => true
  | _ => false

/-- What a successful call reports in the state. -/
def status : Lifecycle → Status
  | created => .notStarted
  | started | running => .running
  | stopped => .stopped
  | aborted => .aborted
  | destroyed => .invalidState

/-- The documented changes of state. -/
inductive Step : Lifecycle → Lifecycle → Prop
  | start : Step created started
  | connect : Step started running
  | stop {s : Lifecycle} (h : s.isActive = true) : Step s stopped
  | abort {s : Lifecycle} (h : s.isActive = true) : Step s aborted
  | destroy (s : Lifecycle) : Step s destroyed

@[simp] theorem status_eq_running_iff {s : Lifecycle} :
    s.status = .running ↔ s.isActive = true := by
  cases s <;> simp [status, isActive]

end Lifecycle

end ClusterLink
