/-
# The vocabulary of callbacks

Which messages are events of a role, which slot each of them goes to
(`Role.event?`), and what the callback gets beside the driver and the
payload: fields of the message, by name and in this order
(`Role.signature`). A field of bytes or text comes as an envelope, a batch as
a list of envelopes and its length, an integer as it is. A text without UTF-8
bytes does not come at all: a message with such a text in its place is not
told (`Message.isTold`).

What a driver makes of a message is what this table says
(`Driver.reaction_of_event`, `Driver.reaction_of_none`).

Key definitions: `Role.event?`, `Role.signature`, `Message.arguments`,
`Message.isTold`, `Driver.calls`, `Driver.alarms`.
-/
import ClusterLink.Driver

namespace ClusterLink

/-- The slot that a message goes to, if it is an event of the role. -/
def Role.event? : Role → Message → Option Slot
  | .scheduler, .frameworkRegistered .. => some .registered
  | .scheduler, .frameworkReregistered .. => some .reregistered
  | .scheduler, .resourceOffers .. => some .resourceOffers
  | .scheduler, .rescindResourceOffer .. => some .offerRescinded
  | .scheduler, .statusUpdate .. => some .statusUpdate
  | .scheduler, .executorToFramework .. => some .frameworkMessage
  | .scheduler, .slaveLost .. => some .slaveLost
  | .scheduler, .executorLost .. => some .executorLost
  | .executor, .executorRegistered .. => some .registered
  | .executor, .executorReregistered .. => some .reregistered
  | .executor, .runTask .. => some .launchTask
  | .executor, .killTask .. => some .killTask
  | .executor, .frameworkToExecutor .. => some .frameworkMessage
  | .executor, .shutdownExecutor => some .shutdown
  | _, .disconnected => some .disconnected
  | _, .error .. => some .error
  | _, _ => none

/-- The fields of its message that a callback gets, in order. -/
def Role.signature : Role → Slot → List String
  | .scheduler, .registered => ["framework_id", "master_info"]
  | .executor, .registered => ["executor_info", "framework_info", "slave_info"]
  | .scheduler, .reregistered => ["master_info"]
  | .executor, .reregistered => ["slave_info"]
  | .scheduler, .frameworkMessage => ["executor_id", "slave_id", "data"]
  | .executor, .frameworkMessage => ["data"]
  | _, .resourceOffers => ["offers"]
  | _, .statusUpdate => ["status"]
  | _, .offerRescinded => ["offer_id"]
  | _, .slaveLost => ["slave_id"]
  | _, .executorLost => ["executor_id", "slave_id", "status"]
  | _, .launchTask => ["task"]
  | _, .killTask => ["task_id"]
  | _, .error => ["message"]
  | _, .disconnected | _, .shutdown => []

/-- How a callback gets the content of a field. -/
def Field.parameters : Field → List Parameter
  | octets b => [.envelope b]
  | text t => t.utf8?.toList.map .envelope
  | batch bs => [.envelopes bs, .number bs.length]
  | integer n => [.number n]

/-- The fields of those names, as a callback gets them. -/
def Message.arguments (m : Message) (names : List String) : List Parameter :=
  names.flatMap fun name =>
    ((m.fields.find? fun f => f.1 = name).map fun f => f.2.parameters).getD []

/-- Whether a callback can be told of the message: the text of an error has to have UTF-8 bytes. -/
def Message.isTold : Message → Bool
  | error t => t.utf8?.isSome
  | _ => true

namespace Driver

variable {d : Driver} {m : Message} {slot : Slot}

/-- The callbacks that begin for a message: one if it is an event that is told, and its slot is
bound. The error callback begins on a driver that is aborted already. -/
def calls (d : Driver) (m : Message) : List Event :=
  match d.role.event? m with
  | some slot =>
    if d.table.binds slot && m.isTold then
      [.began slot (if slot = .error then .aborted else .running) d.payload
        (m.arguments (d.role.signature slot))]
    else []
  | none => []

/-- The callback that begins for a failure of the driver itself. -/
def alarms (d : Driver) (text : WideText) : List Event :=
  match text.utf8? with
  | some b => if d.table.binds .error then [.began .error .aborted d.payload [.envelope b]] else []
  | none => []

/-- An event of the role leads to the callback of its slot; an error of the remote side is one of
the driver. -/
theorem reaction_of_event (h : d.role.event? m = some slot) :
    (slot ≠ .error ∧ d.reaction m = .invoke slot (m.arguments (d.role.signature slot))) ∨
      (slot = .error ∧ ∃ text, m = .error text ∧ d.reaction m = .fail text) := by
  unfold reaction
  cases hr : d.role with
  | scheduler =>
    rw [hr] at h
    cases m with
    | error text => exact Or.inr ⟨(Option.some.inj h).symm, text, rfl, rfl⟩
    | frameworkRegistered | frameworkReregistered | resourceOffers | rescindResourceOffer
    | statusUpdate | executorToFramework | slaveLost | executorLost | disconnected =>
      obtain rfl := Option.some.inj h
      exact Or.inl ⟨Slot.noConfusion, rfl⟩
    | _ => cases h
  | executor =>
    rw [hr] at h
    cases m with
    | error text => exact Or.inr ⟨(Option.some.inj h).symm, text, rfl, rfl⟩
    | executorRegistered | executorReregistered | runTask | killTask | frameworkToExecutor
    | shutdownExecutor | disconnected =>
      obtain rfl := Option.some.inj h
      exact Or.inl ⟨Slot.noConfusion, rfl⟩
    | _ => cases h

/-- Only an error can go untold. -/
theorem isTold_of_event (h : d.role.event? m = some slot) (hs : slot ≠ .error) :
    m.isTold = true := by
  cases m with
  | error text =>
    cases hr : d.role <;> rw [hr] at h <;> exact absurd (Option.some.inj h).symm hs
  | _ => rfl

/-- The acknowledgement of a status update concerns the ledger of an executor; any other message
that is no event is ignored. -/
theorem reaction_of_none (h : d.role.event? m = none) :
    (d.role = .executor ∧
      ∃ f uuid, m = .statusUpdateAcknowledgement f uuid ∧ d.reaction m = .settle uuid) ∨
    ((d.role = .executor → ∀ f uuid, m ≠ .statusUpdateAcknowledgement f uuid) ∧
      d.reaction m = .ignore) := by
  unfold reaction
  cases hr : d.role with
  | scheduler =>
    rw [hr] at h
    refine Or.inr ⟨fun he => Role.noConfusion he, ?_⟩
    cases m with
    | frameworkRegistered | frameworkReregistered | resourceOffers | rescindResourceOffer
    | statusUpdate | executorToFramework | slaveLost | executorLost | disconnected | error =>
      cases h
    | _ => rfl
  | executor =>
    rw [hr] at h
    cases m with
    | statusUpdateAcknowledgement f uuid => exact Or.inl ⟨rfl, f, uuid, rfl, rfl⟩
    | executorRegistered | executorReregistered | runTask | killTask | frameworkToExecutor
    | shutdownExecutor | disconnected | error => cases h
    | _ => exact Or.inr ⟨fun _ _ _ => Message.noConfusion, rfl⟩

/-- A message leads to no more than one callback. -/
theorem calls_cases (d : Driver) (m : Message) : d.calls m = [] ∨
    ∃ slot l args, d.calls m = [.began slot l d.payload args] := by
  unfold calls
  split
  · split
    · exact Or.inr ⟨_, _, _, rfl⟩
    · exact Or.inl rfl
  · exact Or.inl rfl

/-- The text of an error is what the error callback gets. -/
theorem calls_error (d : Driver) (text : WideText) : d.calls (.error text) = d.alarms text := by
  unfold calls alarms Message.isTold Message.arguments
  cases ht : text.utf8? with
  | none => cases d.role <;> simp [Role.event?, ht]
  | some b => cases d.role <;> simp [Role.event?, Role.signature, Message.fields,
      Field.parameters, ht]

end Driver

end ClusterLink
