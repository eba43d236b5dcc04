/-
# Commands and lifecycle calls

What callers do to a driver, each as one step that is made while the lock is
held. The state is looked at first: on a destroyed driver every call is
misuse, a command needs an active driver, and a call in the wrong state is
noted, answered with the status code for it, and changes nothing else.

A command holds the bytes that were copied from its arguments. It is turned
into a message only once it is accepted, so that a rejected one neither
draws an identifier nor enters the ledger.

Key definitions: `Command`, `Command.op`, `Endpoint.order`,
`Endpoint.start`, `Endpoint.stop`, `Endpoint.abort`, `Endpoint.resend`.
-/
import ClusterLink.Driver.Endpoint

namespace ClusterLink

/-- A command, with the bytes of its arguments. -/
inductive Command
  | launchTasks (offerIds tasks : List Bytes) (filters : Bytes)
  | declineOffer (offerId filters : Bytes)
  | killTask (taskId : Bytes)
  | reviveOffers
  | requestResources (requests : List Bytes)
  /-- A scheduler's message to an executor. -/
  | messageExecutor (executorId slaveId data : Bytes)
  | updateStatus (status : Bytes)
  /-- An executor's message to its framework. -/
  | messageFramework (data : Bytes)
  deriving DecidableEq, Repr

/-- The name of the command. -/
def Command.op : Command → String
  | launchTasks .. => "launch_tasks"
  | declineOffer .. => "decline_offer"
  | killTask .. => "kill_task"
  | reviveOffers => "revive_offers"
  | requestResources .. => "request_resources"
  | messageExecutor .. | messageFramework .. => "send_framework_message"
  | updateStatus .. => "send_status_update"

/-- The message of a command; that of a status update carries the identifier given. The agent fills
in which agent an executor's message comes from. -/
def Driver.order (d : Driver) (uuid : Bytes) : Command → Message
  | .launchTasks os ts f => .launchTasks d.frameworkId os ts f
  | .declineOffer o f => .declineOffer d.frameworkId o f
  | .killTask t => .killTask d.frameworkId t
  | .reviveOffers => .reviveOffers d.frameworkId
  | .requestResources rs => .requestResources d.frameworkId rs
  | .messageExecutor e s data => .frameworkToExecutor d.frameworkId e s data
  | .updateStatus s => .statusUpdate s uuid
  | .messageFramework data => .executorToFramework d.frameworkId d.executorId [] data

namespace Endpoint

/-! ### Commands -/

/-- A fresh identifier is drawn, and a status update entered in the ledger under it. -/
def enroll (e : Endpoint) (status : Bytes) : Endpoint :=
  let n := e.surroundings.drawn + 1
  let u : Update := ⟨e.surroundings.ids n, status, e.surroundings.clock⟩
  { e with surroundings.drawn := n, driver.inflight := e.driver.inflight.put u }

/-- An accepted command is handed over. -/
def issue (e : Endpoint) (c : Command) : Endpoint :=
  match c with
  | .updateStatus s =>
    let e := e.enroll s
    e.submit .command (.statusUpdate s (e.surroundings.ids e.surroundings.drawn))
  | c => e.submit .command (e.driver.order [] c)

/-- A command is given. -/
def order (e : Endpoint) (c : Command) : Except Failure Status × Endpoint :=
  if e.driver.state = .destroyed then (.error (e.driver.gone c.op), e)
  else if e.driver.state.isActive = false then
    (.ok .invalidState, e.note (.rejected c.op e.driver.state))
  else (.ok .running, e.issue c)

/-! ### Lifecycle -/

/-- A lifecycle call comes in the wrong state. -/
def refuse (e : Endpoint) (op : String) : Except Failure Status × Endpoint :=
  (.ok .invalidState, e.note (.refused op e.driver.state))

/-- The driver is started: its transport is made and its dispatch thread launched. -/
def start (e : Endpoint) : Except Failure Status × Endpoint :=
  if e.driver.state = .destroyed then (.error (e.driver.gone "start"), e)
  else if e.driver.state ≠ .created then e.refuse "start"
  else
    let made := e.surroundings.making.headD none
    let e := { e with surroundings.making := e.surroundings.making.tail }
    match made with
    | some f => (.error f, e)
    | none =>
      let e := e.record (.transportMade e.driver.remote)
      let e := { e with driver.attached := true, driver.launched := true }.become .started
      (.ok .running, e.note (.started e.driver.remote))

/-- The driver is stopped. -/
def stop (e : Endpoint) (failover : Bool) : Except Failure Status × Endpoint :=
  if e.driver.state = .destroyed then (.error (e.driver.gone "stop"), e)
  else if e.driver.state.isActive = false then e.refuse "stop"
  else
    let e := match e.driver.farewell failover with
      | some m => e.submit .farewell m
      | none => e
    (.ok .stopped, (e.become .stopped).note .stopped)

/-- The driver is aborted. -/
def abort (e : Endpoint) : Except Failure Status × Endpoint :=
  if e.driver.state = .destroyed then (.error (e.driver.gone "abort"), e)
  else if e.driver.state.isActive = false then e.refuse "abort"
  else (.ok .aborted, (e.become .aborted).note .aborted)

/-- Destruction begins: an active driver is aborted. -/
def condemn (e : Endpoint) : Endpoint :=
  if e.driver.state.isActive then (e.note .destroyingActive).become .aborted else e

/-- Destruction ends. -/
def destroy (e : Endpoint) : Except Failure Unit × Endpoint :=
  if e.driver.state = .destroyed then (.error (e.driver.gone "destroy"), e)
  else
    let e := { e with driver.attached := false, driver.backlog := [] }.become .destroyed
    (.ok (), e.note .destroyed)

/-! ### Status updates in flight -/

/-- It is noted that an update was not acknowledged for so long, in seconds; the age has to be one
that a double can hold. -/
def announce (e : Endpoint) (u : Update) : Except Failure Endpoint :=
  let age := e.surroundings.clock - u.stamp
  match Double.ofInt age with
  | .infinity _ => .error .hugeSpan
  | _ => .ok (e.note (.resending u.uuid age))

/-- The updates of a ledger that are `due` are sent again, in order, and stamped, up to one that
cannot be announced. -/
def resendFrom (e : Endpoint) (due : Update → Bool) (announced : Bool) :
    Ledger → Except Failure Unit × Endpoint × Ledger
  | [] => (.ok (), e, [])
  | u :: us =>
    if due u then
      match if announced then e.announce u else .ok e with
      | .error f => (.error f, e, u :: us)
      | .ok e =>
        let e := e.submit .resend u.message
        let u := { u with stamp := e.surroundings.clock }
        let (r, e, us) := e.resendFrom due announced us
        (r, e, u :: us)
    else
      let (r, e, us) := e.resendFrom due announced us
      (r, e, u :: us)

/-- The updates in flight that are `due` are sent again. -/
def resend (e : Endpoint) (due : Update → Bool) (announced : Bool) :
    Except Failure Unit × Endpoint :=
  let (r, e, ledger) := e.resendFrom due announced e.driver.inflight
  (r, { e with driver.inflight := ledger })

/-- The age in nanoseconds at which an update is sent again. -/
def resendAge (e : Endpoint) : Except Failure Int :=
  match e.driver.settings.resendPeriod.times 1000000000 with
  | .infinity _ => .error .infiniteSpan
  | .nan => .error .undefinedSpan
  | x => .ok (x.truncate?.getD 0)

/-- What is done once per round of the dispatch loop: an executor sends again what was not
acknowledged in time. -/
def tick (e : Endpoint) : Except Failure Unit × Endpoint :=
  match e.driver.role with
  | .scheduler => (.ok (), e)
  | .executor =>
    match e.resendAge with
    | .error f => (.error f, e)
    | .ok age =>
      let watermark := e.surroundings.clock - age
      e.resend (fun u => decide (u.stamp < watermark)) true

/-! ### Messages from the remote side -/

/-- What a message changes before its callback runs. -/
def prepare (e : Endpoint) (m : Message) : Endpoint :=
  match e.driver.role, m with
  | .scheduler, .frameworkRegistered f _ => { e with driver.frameworkId := f }
  | .executor, .executorReregistered _ => (e.resend (fun _ => true) false).2
  | _, _ => e

/-- What follows once the callback of a message returned: a status update is acknowledged, unless
the callback shut the driver down, and an executor that was told to shut down is. -/
def conclude (e : Endpoint) (m : Message) : Endpoint :=
  match e.driver.role, m with
  | .scheduler, .statusUpdate _ uuid =>
    if uuid ≠ [] ∧ e.driver.state.isActive = true then
      e.submit .acknowledgement (.statusUpdateAcknowledgement e.driver.frameworkId uuid)
    else e
  | .executor, .shutdownExecutor => if e.driver.state.isActive then e.abort.2 else e
  | _, _ => e

/-- The agent acknowledged a status update. -/
def settle (e : Endpoint) (uuid : Bytes) : Endpoint :=
  match e.driver.inflight.remove? uuid with
  | some ledger => { e with driver.inflight := ledger }
  | none => e.note (.unknownAcknowledgement uuid)

end Endpoint

end ClusterLink
