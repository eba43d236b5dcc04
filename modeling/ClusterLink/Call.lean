/-
# Calls

What a caller may ask of a driver, and what is done before the lock is
taken: arguments are converted, sequences unpacked, and whatever needs no
lock is answered.

A driver is called directly or over the flat surface, on which sequences
come packed in one envelope. A malformed sequence counts there as a call in
the wrong state. The flat surface has a call for each role and command, and
these take all of their arguments. Both surfaces end in the same regions:
what is done under the lock, one after the other, with waiting in between
(`Region`, `Errand`).

A call is made in steps, each of which may fail it. The operands become
arguments, and it is found out whether there is such a call and whether it
has all of its arguments (`CallOf.prepared`); on the null pair nothing
follows. Then the arguments are converted, as they are at that moment and in
the order of the parameters (`Order.ready`). A sequence is a list by then; how
its elements are drawn from an iterator in the course of the call is told in
`World.Gathers`.

Key definitions: `Order`, `Call`, `Surface`, `Region`, `Errand`,
`CallOf.prepared`, `Order.ready`, `CallOf.errand`.
-/
import ClusterLink.Driver.Command
import ClusterLink.Envelope.Operand
import ClusterLink.Envelope.Store

namespace ClusterLink

/-- An argument that may name an object that was kept, by its place among these. -/
abbrev Kept := Operand Int

/-- A command with its arguments. -/
inductive Order (α : Type)
  | launchTasks (offerIds tasks : α) (filters : Option α)
  | declineOffer (offerId : α) (filters : Option α)
  | killTask (taskId : α)
  | reviveOffers
  | requestResources (requests : α)
  | messageExecutor (executorId slaveId data : α)
  | updateStatus (status : α)
  | messageFramework (data : α)
  deriving Repr

/-- What can be read from a driver. -/
inductive Reading
  | state | status | payload | callbacks | frameworkId | executorId | framework | inflight
  deriving DecidableEq, Repr, Inhabited

/-- A call, with arguments of some kind. -/
inductive CallOf (α : Type)
  | start
  | stop (failover : Option Bool)
  | abort
  | join
  | run
  | destroy
  | order (o : Order α)
  | read (r : Reading)
  /-- A question to an object that was kept. -/
  | ask (object : Int) (q : Query)
  deriving Repr

/-- A call as it is written down. -/
abbrev Call := CallOf Kept

/-- How a driver is called. -/
inductive Surface
  | direct | flat
  deriving DecidableEq, Repr, Inhabited

/-- The name of the command. -/
def Order.op {α : Type} : Order α → String
  | launchTasks .. => "launch_tasks"
  | declineOffer .. => "decline_offer"
  | killTask .. => "kill_task"
  | reviveOffers => "revive_offers"
  | requestResources .. => "request_resources"
  | messageExecutor .. | messageFramework .. => "send_framework_message"
  | updateStatus .. => "send_status_update"

/-- The role whose driver takes the command. -/
def Order.role {α : Type} : Order α → Role
  | updateStatus .. | messageFramework .. => .executor
  | _ => .scheduler

/-- The name of what is read. -/
def Reading.op : Reading → String
  | state => "state"
  | status => "status"
  | payload => "payload"
  | callbacks => "callbacks"
  | frameworkId => "framework_id"
  | executorId => "executor_id"
  | framework => "framework"
  | inflight => "inflight"

/-- The name of the call. -/
def CallOf.op {α : Type} : CallOf α → String
  | start => "start"
  | stop _ => "stop"
  | abort => "abort"
  | join => "join"
  | run => "run"
  | destroy => "destroy"
  | order o => o.op
  | read r => r.op
  | ask .. => "retained"

/-! ### Arguments -/

/-- The failure of a driver that does not have what it is asked for. -/
def Role.lacks (r : Role) (op : String) : Failure :=
  .noMember ("'" ++ r.driverName ++ "' object") op

/-- The name of a call on the flat surface. -/
def Role.flatName (r : Role) (op : String) : String := r.name ++ "_" ++ op

/-- The failure of a surface that does not have a call. -/
def Surface.lacks (surface : Surface) (r : Role) (op : String) : Failure :=
  match surface with
  | .direct => r.lacks op
  | .flat => .noMember "module 'mesosbridge.abi'" (r.flatName op)

/-- The failure of a call on the flat surface without an argument that it needs. -/
def Role.misses (r : Role) (op argument : String) : Failure :=
  .missingArgument (r.flatName op) argument

namespace Order

variable {α β : Type}

/-- The command with its arguments replaced, one after the other. -/
def mapArguments (f : α → Except Failure β) : Order α → Except Failure (Order β)
  | launchTasks os ts fs => do return .launchTasks (← f os) (← f ts) (← fs.mapM f)
  | declineOffer o fs => do return .declineOffer (← f o) (← fs.mapM f)
  | killTask t => do return .killTask (← f t)
  | reviveOffers => .ok .reviveOffers
  | requestResources rs => do return .requestResources (← f rs)
  | messageExecutor e s data => do return .messageExecutor (← f e) (← f s) (← f data)
  | updateStatus s => do return .updateStatus (← f s)
  | messageFramework data => do return .messageFramework (← f data)

/-- The argument that only the flat surface needs, if it is not given. -/
def missing? : Order α → Option String
  | launchTasks _ _ none | declineOffer _ none => some "filters"
  | _ => none

end Order

/-- The failure of a call that the surface does not have, or that lacks an argument there. -/
def CallOf.defect? {α : Type} (surface : Surface) (r : Role) : CallOf α → Option Failure
  | order o =>
    if o.role ≠ r then some (surface.lacks r o.op)
    else match surface with
      | .direct => none
      | .flat => o.missing?.map (r.misses o.op)
  | stop failover =>
    match surface, r, failover with
    | .flat, .scheduler, none => some (r.misses "stop" "failover")
    | _, _, _ => none
  | _ => none

/-- The call with arguments in place of its operands, which `find` looks up. -/
def CallOf.arguments (find : Int → Except Failure Argument) :
    Call → Except Failure (CallOf Argument)
  | start => .ok start
  | stop failover => .ok (stop failover)
  | abort => .ok abort
  | join => .ok join
  | run => .ok run
  | destroy => .ok destroy
  | order o => (o.mapArguments (Operand.argument find)).map order
  | read r => .ok (read r)
  | ask i q => .ok (ask i q)

/-- The call with its arguments, if there is such a call and it has all that it needs. -/
def CallOf.prepared (surface : Surface) (r : Role) (find : Int → Except Failure Argument)
    (c : Call) : Except Failure (CallOf Argument) := do
  let c ← c.arguments find
  match c.defect? surface r with
  | some f => .error f
  | none => .ok c

/-! ### Commands -/

/-- A command that is ready to be given, or was found malformed. -/
inductive Readied
  | command (c : Command)
  | malformed (op : String)
  deriving DecidableEq, Repr

namespace Order

/-- The sequence packed in an argument. -/
def unpacked (a : Argument) : Except Failure (List Bytes) := a.copyIn.bind Records.unpack

/-- Several packed sequences; nothing if one of them is malformed. -/
def unpackAll : List Argument → Except Failure (Option (List (List Bytes)))
  | [] => .ok (some [])
  | a :: as =>
    match unpacked a with
    | .error f => if f.isMalformed then .ok none else .error f
    | .ok bs => (unpackAll as).map fun r => r.map (bs :: ·)

/-- A command given directly, its arguments being copied. -/
def readyDirect : Order Argument → Except Failure Command
  | launchTasks os ts f => do
    let os ← os.copyInAll
    let ts ← ts.copyInAll
    let f ← Argument.copyInOptional f
    .ok (.launchTasks os ts f)
  | declineOffer o f => do
    let o ← o.copyIn
    let f ← Argument.copyInOptional f
    .ok (.declineOffer o f)
  | killTask t => do return .killTask (← t.copyIn)
  | reviveOffers => .ok .reviveOffers
  | requestResources rs => do return .requestResources (← rs.copyInAll)
  | messageExecutor e s data => do
    let e ← e.copyIn
    let s ← s.copyIn
    .ok (.messageExecutor e s (← data.copyIn))
  | updateStatus s => do return .updateStatus (← s.copyIn)
  | messageFramework data => do return .messageFramework (← data.copyIn)

/-- A command given over the flat surface, where sequences come packed. -/
def readyFlat : Order Argument → Except Failure Readied
  | launchTasks os ts f => do
    match ← unpackAll [os, ts] with
    | some [os, ts] => do
      let f ← Argument.copyInOptional f
      .ok (.command (.launchTasks os ts f))
    | _ => .ok (.malformed "launch_tasks")
  | requestResources rs => do
    match ← unpackAll [rs] with
    | some [rs] => .ok (.command (.requestResources rs))
    | _ => .ok (.malformed "request_resources")
  | o => o.readyDirect.map .command

/-- A command on a surface. -/
def ready (o : Order Argument) : Surface → Except Failure Readied
  | .direct => o.readyDirect.map .command
  | .flat => o.readyFlat

end Order

/-! ### What is done under the lock -/

/-- What is done under the lock in one go. -/
inductive Region
  /-- Start, and wait for the end if that is asked for. -/
  | start (thenJoin : Bool)
  | stop (failover : Bool)
  | abort
  | join
  /-- The first and the last part of destruction. -/
  | condemn
  | destroy
  | give (c : Command)
  /-- A malformed command is turned down. -/
  | turnDown (op : String)
  | state
  | status
  deriving DecidableEq, Repr

/-- What a caller still has to do. -/
inductive Errand
  | region (r : Region)
  /-- Wait for the end of the dispatch thread, and then tell the final status. -/
  | awaitVerdict
  /-- Wait for the end of the dispatch thread, and then destroy the driver. -/
  | awaitDestroy
  | finished (r : Except Failure Answer)
  deriving Repr

/-- What is read without the lock. -/
def Driver.read (d : Driver) : Reading → Except Failure Answer
  | .state => .ok (.state d.state)
  | .status => d.alive "status" (.status d.state.status)
  | .payload => d.alive "payload" (.datum d.payload)
  | .callbacks => d.alive "callbacks" (.truth true)
  | .frameworkId => .ok (.octets d.frameworkId)
  | .executorId =>
    match d.role with
    | .executor => .ok (.octets d.executorId)
    | .scheduler => .error (d.role.lacks "executor_id")
  | .framework =>
    match d.role with
    | .scheduler => .ok (.octets d.framework)
    | .executor => .error (d.role.lacks "framework")
  | .inflight =>
    match d.role with
    | .executor => .ok (.updates (d.inflight.map fun u => (u.uuid, u.status, u.stamp)))
    | .scheduler => .error (d.role.lacks "inflight")

/-- What a call with its arguments has to do. -/
def CallOf.work (surface : Surface) (d : Driver) : CallOf Argument → Errand
  | start => .region (.start false)
  | stop failover => .region (.stop (failover.getD false))
  | abort => .region .abort
  | join => .region .join
  | run => .region (.start true)
  | destroy => .region .condemn
  | order o =>
    match o.ready surface with
    | .ok (.command c) => .region (.give c)
    | .ok (.malformed op) => .region (.turnDown op)
    | .error f => .finished (.error f)
  | read .state => .region .state
  | read .status => .region .status
  | read r => .finished (d.read r)
  | ask .. => .finished (.ok .nothing)

/-- What a call of a driver has to do; a question to an object that was kept is none. -/
def CallOf.errand (surface : Surface) (d : Driver) (find : Int → Except Failure Argument)
    (c : Call) : Errand :=
  match c.prepared surface d.role find with
  | .ok c => c.work surface d
  | .error f => .finished (.error f)

namespace Endpoint

/-- A status as an answer. -/
def reported (r : Except Failure Status × Endpoint) : Errand × Endpoint :=
  (.finished (r.1.map .status), r.2)

/-- What is done in a region, and what is left to do; `inside` tells whether that is on the
dispatch thread itself, which cannot wait for its own end. -/
def region (e : Endpoint) (inside : Bool) : Region → Errand × Endpoint
  | .start thenJoin =>
    match e.start with
    | (.ok .running, e) =>
      if thenJoin then (.region .join, e) else (.finished (.ok (.status .running)), e)
    | r => reported r
  | .stop failover => reported (e.stop failover)
  | .abort => reported e.abort
  | .join =>
    if e.driver.state = .destroyed then (.finished (.error (e.driver.gone "join")), e)
    else if e.driver.state = .created then (.finished (.ok (.status .notStarted)), e)
    else if inside then (.finished (.error (e.driver.inOwnCallback "join")), e)
    else (.awaitVerdict, e)
  | .condemn =>
    if e.driver.state = .destroyed then (.finished (.error (e.driver.gone "destroy")), e)
    else if inside then (.finished (.error (e.driver.inOwnCallback "destroy")), e)
    else
      let e := e.condemn
      (if e.driver.launched then .awaitDestroy else .region .destroy, e)
  | .destroy =>
    let (r, e) := e.destroy
    (.finished (r.map fun _ => .nothing), e)
  | .give c => reported (e.order c)
  | .turnDown op =>
    match e.driver.alive "status" () with
    | .error f => (.finished (.error f), e)
    | .ok () => (.finished (.ok (.status .invalidState)), e.note (.malformed op))
  | .state => (.finished (e.driver.read .state), e)
  | .status => (.finished (e.driver.read .status), e)

/-- What is left to do after waiting for the end of the dispatch thread. -/
def awaited (e : Endpoint) : Errand → Errand
  | .awaitVerdict => .finished (.ok (.status e.driver.verdict))
  | .awaitDestroy => .region .destroy
  | errand => errand

end Endpoint

end ClusterLink
