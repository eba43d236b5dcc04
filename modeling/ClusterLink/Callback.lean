/-
# Callback tables

A callback table has one slot for each kind of event; which slots there are
is up to the driver's role. A slot that is not bound drops its events
silently. A table is built from named slots, of which each has to exist, or
from an object with methods, of which only those named after slots count.

Key definitions: `Slot`, `Role.slots`, `Table`, `Table.ofSlots`,
`Table.ofMethods`, `Table.binding`.
-/
import ClusterLink.Datum
import ClusterLink.Envelope

namespace ClusterLink

/-- A kind of event that a callback table has a slot for. -/
inductive Slot
  | registered | reregistered | resourceOffers | statusUpdate | disconnected | offerRescinded
  | frameworkMessage | slaveLost | executorLost | launchTask | killTask | shutdown | error
  deriving DecidableEq, Repr, Inhabited

/-- The name of the slot. -/
def Slot.name : Slot → String
  | registered => "registered"
  | reregistered => "reregistered"
  | resourceOffers => "resource_offers"
  | statusUpdate => "status_update"
  | disconnected => "disconnected"
  | offerRescinded => "offer_rescinded"
  | frameworkMessage => "framework_message"
  | slaveLost => "slave_lost"
  | executorLost => "executor_lost"
  | launchTask => "launch_task"
  | killTask => "kill_task"
  | shutdown => "shutdown"
  | error => "error"

/-- The slots of a role's callback table, in the order of the table. -/
def Role.slots : Role → List Slot
  | .scheduler =>
    [.registered, .reregistered, .resourceOffers, .statusUpdate, .disconnected, .offerRescinded,
      .frameworkMessage, .slaveLost, .executorLost, .error]
  | .executor =>
    [.registered, .reregistered, .disconnected, .launchTask, .killTask, .frameworkMessage,
      .shutdown, .error]

/-- The slot of that name, if the role has one. -/
def Role.slot? (r : Role) (name : String) : Option Slot := r.slots.find? fun s => s.name = name

/-- A callback table: the slots that are bound. -/
structure Table where
  role : Role
  bound : List Slot
  deriving DecidableEq, Repr, Inhabited

namespace Table

/-- The table of a role without any callback. -/
def empty (role : Role) : Table := ⟨role, []⟩

/-- Whether a slot is bound. -/
def binds (t : Table) (s : Slot) : Bool := t.bound.contains s

/-- The table with the slots of the given names bound, each of which has to be one. -/
def ofSlots (role : Role) : List String → Except Failure Table
  | [] => .ok (empty role)
  | name :: names =>
    match role.slot? name with
    | none => .error (.unknownSlot role name)
    | some s => (ofSlots role names).map fun t => { t with bound := s :: t.bound }

/-- The table with the slots bound that methods are named after. -/
def ofMethods (role : Role) (names : List String) : Table :=
  ⟨role, role.slots.filter fun s => names.contains s.name⟩

/-- Which slots of the table are bound, in the order of the table. -/
def binding (t : Table) : List (Slot × Bool) := t.role.slots.map fun s => (s, t.binds s)

end Table

/-- What is given as a callback table: a table, or something else, of that type. -/
inductive TableArgument
  | table (t : Table)
  | other (type : String)
  deriving DecidableEq, Repr, Inhabited

/-- The name of the type of what is given. -/
def TableArgument.typeName : TableArgument → String
  | table t => "mesosbridge.callbacks." ++ t.role.tableName
  | other type => type

/-- Whether nothing is given. -/
def TableArgument.isAbsent (t : TableArgument) : Bool :=
  decide (t.typeName = Argument.none.typeName)

end ClusterLink
