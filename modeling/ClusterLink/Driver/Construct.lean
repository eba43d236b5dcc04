/-
# Making drivers

A driver is made from a callback table, a payload, settings and an identity,
of which each part is checked: the table has to be one of the right role, a
scheduler needs the info of its framework and the address of the master, an
executor the address of its agent and two identifiers. What is not given of
an executor's identity comes from the environment that its agent launched it
with. Settings that are not given come from the environment, too.

Nothing is connected yet. Whatever fails because a value is malformed makes
the flat surface return the null pair (`Opening`).

Key definitions: `Application`, `Application.driver`, `Opening`,
`Application.submit`.
-/
import ClusterLink.Address
import ClusterLink.Driver

namespace ClusterLink

/-- Who a driver is to be, and for whom. -/
inductive Identity
  | scheduler (framework master : Argument)
  | executor (agent frameworkId executorId : Argument)
  deriving Repr

/-- All that a driver is made from. -/
structure Application where
  table : TableArgument
  payload : Datum
  identity : Identity
  settings : Option Settings
  environment : Environment
  hostName : String
  /-- The name that the driver will have. -/
  handle : String

/-- An argument that is not given is taken from elsewhere. -/
def Argument.orElse (a : Argument) (other : String) : Argument :=
  match a with
  | none => text other
  | a => a

/-- Whether an argument is not given. -/
def Argument.isAbsent : Argument → Bool
  | none => true
  | _ => false

namespace Identity

/-- The role. -/
def role : Identity → Role
  | scheduler .. => .scheduler
  | executor .. => .executor

/-- The framework info of a scheduler, which has to be there. -/
def frameworkInfo (framework : Argument) : Except Failure Bytes :=
  match framework.copyIn with
  | .error (.notBytes t) => .error (.badFramework t)
  | .error f => .error f
  | .ok [] => .error .emptyFramework
  | .ok data => .ok data

/-- The identity with all parts given, an executor's by its environment if need be. -/
def complete (env : Environment) : Identity → Except Failure Identity
  | scheduler f m => .ok (scheduler f m)
  | executor a f e =>
    if a.isAbsent || f.isAbsent || e.isAbsent then do
      let info ← LaunchInfo.ofEnvironment env
      .ok (executor (a.orElse info.agentEndpoint) (f.orElse info.frameworkId)
        (e.orElse info.executorId))
    else .ok (executor a f e)

/-- The identifiers of an executor, which are texts, and not empty. -/
def identifiers (framework executor : Argument) : Except Failure (Bytes × Bytes) :=
  match framework, executor with
  | .text f, .text e =>
    if f.isEmpty || e.isEmpty then .error .emptyIds else .ok (Bytes.ofText f, Bytes.ofText e)
  | f, e => .error (.idsNotText f.fullTypeName e.fullTypeName)

/-- The remote side, as it was given. -/
def remote : Identity → Argument
  | scheduler _ m => m
  | executor a _ _ => a

end Identity

namespace Application

/-- The callback table, which has to be one of the role. -/
def checkedTable (a : Application) : Except Failure Table :=
  match a.table with
  | .table t =>
    if t.role = a.identity.role then .ok t
    else .error (.notCallbacks a.identity.role a.table.typeName)
  | .other _ => .error (.notCallbacks a.identity.role a.table.typeName)

/-- The settings, from the environment if they are not given. -/
def checkedSettings (a : Application) : Except Failure Settings :=
  match a.settings with
  | some s => .ok s
  | none => Settings.ofEnvironment a.hostName a.environment

/-- A driver that was just made. -/
def assemble (a : Application) (table : Table) (settings : Settings) (remote : Address)
    (framework frameworkId executorId : Bytes) : Driver where
  role := a.identity.role
  handle := a.handle
  settings
  remote := remote.text
  table
  payload := a.payload
  framework
  frameworkId
  executorId
  inflight := []
  state := .created
  launched := false
  attached := false
  connected := false
  backlog := []
  pendingError := none
  done := false
  finalStatus := none

/-- The driver that is applied for, and the remote side as it was given. -/
def driver (a : Application) : Except Failure (Driver × Argument) := do
  let table ← a.checkedTable
  let identity ← a.identity.complete a.environment
  let (framework, frameworkId, executorId) ← match identity with
    | .scheduler f _ => (Identity.frameworkInfo f).map fun data => (data, [], [])
    | .executor _ f e => (Identity.identifiers f e).map fun ids => ([], ids.1, ids.2)
  let remote ← Address.parse identity.remote
  let settings ← a.checkedSettings
  .ok (a.assemble table settings remote framework frameworkId executorId, identity.remote)

end Application

/-- The text of an argument that is one. -/
def Argument.plainText : Argument → String
  | text s => s
  | _ => ""

/-- What making a driver comes to: a driver, the null pair, or a failure. -/
inductive Opening
  | driver (d : Driver)
  | nullPair
  | failed (f : Failure)

namespace Application

/-- What is noted about a driver that was not made, unless the master cannot be shown. -/
def regret (a : Application) : Except Failure Note :=
  match a.identity with
  | .scheduler _ master => master.shown.map fun s => .unconstructed (some s)
  | .executor .. => .ok (.unconstructed none)

/-- A driver is made, with what is noted about it. Only the flat surface, if it is `flat`, answers
a malformed value with the null pair. -/
def submit (a : Application) (flat : Bool) : Opening × List Note :=
  match a.driver with
  | .ok (d, remote) => (.driver d, [.constructed remote.plainText])
  | .error f =>
    if flat && f.isMalformed then
      match a.regret with
      | .ok n => (.nullPair, [n])
      | .error g => (.failed g, [])
    else (.failed f, [])

end Application

end ClusterLink
