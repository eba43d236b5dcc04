/-
# Drivers

The fields of one driver. Its identity, callback table, payload and settings
are fixed when it is made; the rest changes only while its lock is held.

A driver is attached to a transport from its start to its destruction. Until
the transport connected, messages wait in the backlog; once a send failed,
nothing is sent any more, and the dispatch thread is to report the failure.

Key definitions: `Driver`, `Driver.alive`, `Driver.registration`,
`Driver.farewell`, `Reaction`, `Driver.reaction`.
-/
import ClusterLink.Driver.Event
import ClusterLink.Driver.Ledger
import ClusterLink.Settings

namespace ClusterLink

/-- A driver of either role. -/
structure Driver where
  role : Role
  /-- The name that messages about the driver call it by. -/
  handle : String
  settings : Settings
  /-- The address of the master or the agent. -/
  remote : String
  table : Table
  payload : Datum
  /-- The serialized framework info of a scheduler. -/
  framework : Bytes
  /-- Assigned to a scheduler when it is registered; given to an executor. -/
  frameworkId : Bytes
  /-- The identifier of an executor. -/
  executorId : Bytes
  /-- The status updates of an executor that were not acknowledged. -/
  inflight : Ledger
  state : Lifecycle
  /-- Whether there is a dispatch thread. -/
  launched : Bool
  attached : Bool
  connected : Bool
  backlog : List Message
  /-- The failure of a send, until the dispatch thread reports it. -/
  pendingError : Option Failure
  /-- Whether the dispatch thread ended. -/
  done : Bool
  finalStatus : Option Status
  deriving Repr

/-- The state of that name. -/
def Lifecycle.ofName (name : String) : Except Failure Lifecycle :=
  match ofName? name with
  | some s => .ok s
  | none => .error (.noState name)

namespace Driver

/-- The failure of a call on the driver once it is destroyed. -/
def gone (d : Driver) (op : String) : Failure := .destroyed op d.role d.handle

/-- The failure of a call that would wait for the thread it is made on. -/
def inOwnCallback (d : Driver) (op : String) : Failure := .ownCallback op d.role d.handle

/-- What a call gives, unless the driver is destroyed. -/
def alive {α : Type} (d : Driver) (op : String) (a : α) : Except Failure α :=
  if d.state = .destroyed then .error (d.gone op) else .ok a

/-- The first message that is sent, which tells the remote side where to reply to. -/
def registration (d : Driver) (replyTo : String) : Message :=
  match d.role with
  | .scheduler => .registerFramework d.framework replyTo
  | .executor => .registerExecutor d.frameworkId d.executorId replyTo

/-- What is sent on stopping: a scheduler that is registered, and that no other one is to take
over from, has its framework torn down. -/
def farewell (d : Driver) (failover : Bool) : Option Message :=
  match d.role with
  | .scheduler =>
    if failover = true ∨ d.frameworkId = [] then none else some (.unregisterFramework d.frameworkId)
  | .executor => none

/-- The name of the dispatch thread. -/
def threadName (d : Driver) : String := d.role.name ++ "-" ++ d.handle

/-- The final status, for a call that waited for it. -/
def verdict (d : Driver) : Status := d.finalStatus.getD .aborted

end Driver

/-- What a message from the remote side asks for. -/
inductive Reaction
  /-- A callback. -/
  | invoke (slot : Slot) (args : List Parameter)
  /-- A status update is acknowledged. -/
  | settle (uuid : Bytes)
  /-- The remote side failed. -/
  | fail (message : WideText)
  /-- No message that the role expects. -/
  | ignore
  deriving DecidableEq, Repr

/-- What a message asks of a scheduler. -/
def Reaction.ofScheduler : Message → Reaction
  | .frameworkRegistered f m => .invoke .registered [.envelope f, .envelope m]
  | .frameworkReregistered m => .invoke .reregistered [.envelope m]
  | .resourceOffers os => .invoke .resourceOffers [.envelopes os, .number os.length]
  | .rescindResourceOffer o => .invoke .offerRescinded [.envelope o]
  | .statusUpdate s _ => .invoke .statusUpdate [.envelope s]
  | .executorToFramework _ e s d =>
    .invoke .frameworkMessage [.envelope e, .envelope s, .envelope d]
  | .slaveLost s => .invoke .slaveLost [.envelope s]
  | .executorLost e s n => .invoke .executorLost [.envelope e, .envelope s, .number n]
  | .disconnected => .invoke .disconnected []
  | .error m => .fail m
  | _ => .ignore

/-- What a message asks of an executor. -/
def Reaction.ofExecutor : Message → Reaction
  | .executorRegistered e f s => .invoke .registered [.envelope e, .envelope f, .envelope s]
  | .executorReregistered s => .invoke .reregistered [.envelope s]
  | .runTask t => .invoke .launchTask [.envelope t]
  | .killTask _ t => .invoke .killTask [.envelope t]
  | .frameworkToExecutor _ _ _ d => .invoke .frameworkMessage [.envelope d]
  | .statusUpdateAcknowledgement _ u => .settle u
  | .shutdownExecutor => .invoke .shutdown []
  | .disconnected => .invoke .disconnected []
  | .error m => .fail m
  | _ => .ignore

/-- What a message asks of a driver. -/
def Driver.reaction (d : Driver) (m : Message) : Reaction :=
  match d.role with
  | .scheduler => .ofScheduler m
  | .executor => .ofExecutor m

end ClusterLink
