/-
# The identity of an executor

An executor is known by the address of its agent and by two identifiers. Each
of these components is given as an argument, or else comes from variables of
the environment that the agent launched the executor with. So whether an
executor can be made, and who it is, is decided component by component
(`Component.resolve`), but for one thing: if any component is not given, the
environment is read as a whole, and has to be that of a launched executor
(`LaunchInfo.IsComplete`), also in the variables of components that are given.

Key definitions: `Component`, `Component.resolve`, `LaunchInfo.IsComplete`,
`Application.outcome`, `Application.Componentwise`.
Key theorems: `Application.outcome_eq`, `Application.identity_componentwise`,
`Application.partly_launched`.
-/
import ClusterLink.Driver.Construct
import Mathlib.Logic.Basic

namespace ClusterLink

/-- A component of an executor's identity. -/
inductive Component
  | agent
  | frameworkId
  | executorId
  deriving DecidableEq, Repr

namespace Component

/-- The environment variables that a component is read from. -/
def reads : Component → List String
  | agent => ["MESOS_AGENT_ENDPOINT", "MESOS_SLAVE_PID"]
  | frameworkId => ["MESOS_FRAMEWORK_ID"]
  | executorId => ["MESOS_EXECUTOR_ID"]

/-- What an environment gives for a component. -/
def launched (env : Environment) : Component → Option String
  | agent => LaunchInfo.endpoint? env
  | frameworkId => env.get? "MESOS_FRAMEWORK_ID"
  | executorId => env.get? "MESOS_EXECUTOR_ID"

/-- A component that is not given comes from the environment. -/
def resolve (given : Component → Argument) (env : Environment) (c : Component) : Option Argument :=
  if (given c).isAbsent then (c.launched env).map .text else some (given c)

/-- The address that an argument gives, as it is shown. -/
def address? (a : Argument) : Option String := (Address.parse a).toOption.map Address.text

/-- The identifier that an argument gives. -/
def identifier? : Argument → Option Bytes
  | .text s => if s.isEmpty then none else some (Bytes.ofText s)
  | _ => none

/-- Whether an argument will do for a component. -/
def isValid : Component → Argument → Bool
  | agent, a => (address? a).isSome
  | frameworkId, a => (identifier? a).isSome
  | executorId, a => (identifier? a).isSome

theorem launched_congr {env env' : Environment} {c : Component}
    (h : ∀ v ∈ c.reads, env.get? v = env'.get? v) : c.launched env = c.launched env' := by
  cases c with
  | agent =>
    have hnew := h "MESOS_AGENT_ENDPOINT" (by simp [reads])
    have hold := h "MESOS_SLAVE_PID" (by simp [reads])
    simp only [launched, LaunchInfo.endpoint?, hnew, hold]
  | frameworkId => exact h _ (by simp [reads])
  | executorId => exact h _ (by simp [reads])

theorem resolve_of_given {given : Component → Argument} {c : Component} (env : Environment)
    (h : (given c).isAbsent = false) : resolve given env c = some (given c) := by
  simp [resolve, h]

/-- Only the variables of a component that is not given count for it. -/
theorem resolve_congr {given : Component → Argument} {env env' : Environment} {c : Component}
    (h : (given c).isAbsent = true → ∀ v ∈ c.reads, env.get? v = env'.get? v) :
    resolve given env c = resolve given env' c := by
  unfold resolve
  split
  · next habsent => rw [launched_congr (h habsent)]
  · rfl

end Component

namespace LaunchInfo

/-- Whether an environment is that of a launched executor: all its variables are there, and the
identifiers are not empty. -/
def IsComplete (env : Environment) : Prop :=
  ∀ c : Component, ∃ text, c.launched env = some text ∧ (c = .agent ∨ text ≠ "")

/-- A text will do for an identifier exactly if it is not empty. -/
theorem nonempty_text (s : String) : Setting.nonempty (.text s) =
    if s = "" then .error .emptyText else .ok s := by
  by_cases h : s = ""
  · subst h; rfl
  · have h' : s.isEmpty = false := by simpa using h
    simp [Setting.nonempty, Setting.toText, h, h', bind, Except.bind]

theorem mapError_ok {α : Type} (wrap : Problem → Refusal) (x : α) :
    Except.mapError wrap (.ok x) = .ok x := rfl

theorem mapError_error {α : Type} (wrap : Problem → Refusal) (p : Problem) :
    Except.mapError wrap (.error p : Except Problem α) = .error (wrap p) := rfl

/-- What a launched executor is told. -/
theorem ofEnvironment_of_complete {env : Environment} {a f e : String}
    (ha : Component.agent.launched env = some a)
    (hf : Component.frameworkId.launched env = some f) (hf' : f ≠ "")
    (he : Component.executorId.launched env = some e) (he' : e ≠ "") :
    ofEnvironment env = .ok ⟨a, f, e⟩ := by
  simp only [Component.launched] at ha hf he
  simp only [ofEnvironment, ha, hf, he]
  simp [ofArguments, Setting.field, Datum.field?, nonempty_text, hf', he', Setting.toText,
    mapError_ok]

/-- Only a launched executor is told something. -/
theorem isComplete_of_ofEnvironment {env : Environment} {info : LaunchInfo}
    (h : ofEnvironment env = .ok info) : IsComplete env := by
  unfold ofEnvironment at h
  split at h
  · next a f e ha hf he =>
    have hids : f ≠ "" ∧ e ≠ "" := by
      by_cases hf' : f = "" <;> by_cases he' : e = "" <;>
        simp_all [ofArguments, Setting.field, Datum.field?, nonempty_text, Setting.toText,
          mapError_ok, mapError_error]
    intro c
    cases c with
    | agent => exact ⟨a, ha, .inl rfl⟩
    | frameworkId => exact ⟨f, hf, .inr hids.1⟩
    | executorId => exact ⟨e, he, .inr hids.2⟩
  · cases h

/-- What is wrong with an environment is a malformed value. -/
theorem isMalformed_of_ofEnvironment {env : Environment} {f : Failure}
    (h : ofEnvironment env = .error f) : f.isMalformed = true := by
  unfold ofEnvironment at h
  split at h
  · simp only [ofArguments] at h
    split at h <;> cases h
    rfl
  · cases h
    decide

end LaunchInfo

/-- Who an executor is. -/
structure ExecutorIdentity where
  /-- The address of its agent. -/
  remote : String
  frameworkId : Bytes
  executorId : Bytes
  deriving DecidableEq, Repr

/-- Who an executor with these components is, if they are all there and will do. -/
def ExecutorIdentity.of? (part : Component → Option Argument) : Option ExecutorIdentity := do
  let remote ← (part .agent).bind Component.address?
  let frameworkId ← (part .frameworkId).bind Component.identifier?
  let executorId ← (part .executorId).bind Component.identifier?
  some ⟨remote, frameworkId, executorId⟩

theorem ExecutorIdentity.isSome_of? (part : Component → Option Argument) :
    (of? part).isSome = true ↔ ∀ c, ∃ x, part c = some x ∧ c.isValid x = true := by
  have hcomponents : (∀ c, ∃ x, part c = some x ∧ c.isValid x = true) ↔
      ((part .agent).bind Component.address?).isSome = true ∧
      ((part .frameworkId).bind Component.identifier?).isSome = true ∧
      ((part .executorId).bind Component.identifier?).isSome = true := by
    simp only [Option.isSome_bind, Option.any_eq_true]
    refine ⟨fun h => ⟨h .agent, h .frameworkId, h .executorId⟩, fun h c => ?_⟩
    cases c with
    | agent => exact h.1
    | frameworkId => exact h.2.1
    | executorId => exact h.2.2
  rw [hcomponents, of?]
  cases (part .agent).bind Component.address? <;>
    cases (part .frameworkId).bind Component.identifier? <;>
    cases (part .executorId).bind Component.identifier? <;> simp

namespace Identity

/-- An executor's identity of which these components are given. -/
def ofGiven (given : Component → Argument) : Identity :=
  executor (given .agent) (given .frameworkId) (given .executorId)

theorem toOption_identifiers (f e : Argument) : (identifiers f e).toOption =
    (Component.identifier? f).bind fun i => (Component.identifier? e).map fun j => (i, j) := by
  cases f with
  | text f =>
    cases e with
    | text e =>
      simp only [identifiers, Component.identifier?]
      cases f.isEmpty <;> cases e.isEmpty <;> rfl
    | _ => simp [identifiers, Component.identifier?, Except.toOption]
  | _ => rfl

/-- An identity with all components given is complete, whatever the environment. -/
theorem complete_of_given {given : Component → Argument} (env : Environment)
    (h : ∀ c, (given c).isAbsent = false) : (ofGiven given).complete env = .ok (ofGiven given) := by
  simp [ofGiven, complete, h]

/-- Otherwise the environment is read as a whole. -/
theorem complete_of_absent {given : Component → Argument} (env : Environment) {c : Component}
    (h : (given c).isAbsent = true) : (ofGiven given).complete env =
      (LaunchInfo.ofEnvironment env).map fun info =>
        executor ((given .agent).orElse info.agentEndpoint)
          ((given .frameworkId).orElse info.frameworkId)
          ((given .executorId).orElse info.executorId) := by
  have hany : ((given .agent).isAbsent || (given .frameworkId).isAbsent ||
      (given .executorId).isAbsent) = true := by
    cases c <;> simp [h]
  simp only [ofGiven, complete, if_pos hany]
  rfl

end Identity

/-- A component that is not given is taken from what the environment holds for it. -/
theorem Component.resolve_of_launched {given : Component → Argument} {env : Environment}
    {c : Component} {text : String} (h : c.launched env = some text) :
    resolve given env c = some ((given c).orElse text) := by
  unfold resolve
  cases hg : given c <;> simp [Argument.isAbsent, Argument.orElse, h]

namespace Application

/-- Who the executor of an application is, if it can be made. -/
def outcome (a : Application) : Option ExecutorIdentity :=
  a.driver.toOption.map fun d => ⟨d.1.remote, d.1.frameworkId, d.1.executorId⟩

/-- Once the components are there, each is decided for itself. -/
theorem outcome_of_complete {a : Application} {t : Table} {s : Settings}
    {part : Component → Option Argument} {x f e : Argument}
    (ht : a.checkedTable = .ok t) (hs : a.checkedSettings = .ok s)
    (hc : a.identity.complete a.environment = .ok (.executor x f e))
    (hx : part .agent = some x) (hf : part .frameworkId = some f)
    (he : part .executorId = some e) : a.outcome = ExecutorIdentity.of? part := by
  have hids := Identity.toOption_identifiers f e
  simp only [outcome, driver, ExecutorIdentity.of?, hx, hf, he, ht, hc, hs, Identity.remote, bind,
    Except.bind, Option.bind, Component.address?]
  -- both sides fail exactly if the address or one of the identifiers does
  cases hi : Identity.identifiers f e <;> rw [hi] at hids <;>
    cases hf : Component.identifier? f <;> cases he : Component.identifier? e <;>
    cases Address.parse x <;> simp_all [Except.toOption, Except.map, assemble]

variable {a : Application} {given : Component → Argument} {t : Table} {s : Settings}

theorem outcome_of_given (hi : a.identity = .ofGiven given) (ht : a.checkedTable = .ok t)
    (hs : a.checkedSettings = .ok s) (h : ∀ c, (given c).isAbsent = false) :
    a.outcome = ExecutorIdentity.of? (Component.resolve given a.environment) := by
  have hc : a.identity.complete a.environment = .ok (.ofGiven given) :=
    hi ▸ Identity.complete_of_given a.environment h
  exact outcome_of_complete ht hs hc (Component.resolve_of_given _ (h _))
    (Component.resolve_of_given _ (h _)) (Component.resolve_of_given _ (h _))

theorem outcome_of_isComplete (hi : a.identity = .ofGiven given) (ht : a.checkedTable = .ok t)
    (hs : a.checkedSettings = .ok s) {c : Component} (h : (given c).isAbsent = true)
    (henv : LaunchInfo.IsComplete a.environment) :
    a.outcome = ExecutorIdentity.of? (Component.resolve given a.environment) := by
  obtain ⟨agent, hagent, -⟩ := henv .agent
  obtain ⟨framework, hframework, hf⟩ := henv .frameworkId
  obtain ⟨executor, hexecutor, he⟩ := henv .executorId
  have hinfo := LaunchInfo.ofEnvironment_of_complete hagent hframework (hf.resolve_left (by decide))
    hexecutor (he.resolve_left (by decide))
  have hc := Identity.complete_of_absent a.environment h
  rw [hinfo, ← hi] at hc
  exact outcome_of_complete ht hs hc (Component.resolve_of_launched hagent)
    (Component.resolve_of_launched hframework) (Component.resolve_of_launched hexecutor)

/-- If a component is not given, nobody is made who was not launched. -/
theorem driver_of_incomplete (hi : a.identity = .ofGiven given) (ht : a.checkedTable = .ok t)
    {c : Component} (h : (given c).isAbsent = true)
    (henv : ¬ LaunchInfo.IsComplete a.environment) :
    ∃ f, a.driver = .error f ∧ f.isMalformed = true := by
  cases hinfo : LaunchInfo.ofEnvironment a.environment with
  | ok info => exact absurd (LaunchInfo.isComplete_of_ofEnvironment hinfo) henv
  | error f =>
    refine ⟨f, ?_, LaunchInfo.isMalformed_of_ofEnvironment hinfo⟩
    simp only [driver, ht, hi, Identity.complete_of_absent a.environment h, hinfo, bind,
      Except.bind, Except.map]

/-- How the identity of an executor comes from the components that are given and from the
environment. -/
structure Componentwise (a : Application) (given : Component → Argument) : Prop where
  /-- If all components are given, or the environment is that of a launched executor, each
  component is taken from its argument, or else from its own variables, and it is these that
  decide. -/
  resolved : ((∃ c, (given c).isAbsent = true) → LaunchInfo.IsComplete a.environment) →
    a.outcome = ExecutorIdentity.of? (Component.resolve given a.environment)
  /-- Otherwise the environment is refused as a malformed value, whatever is given. -/
  refused : ∀ c, (given c).isAbsent = true → ¬ LaunchInfo.IsComplete a.environment →
    ∃ f, a.driver = .error f ∧ f.isMalformed = true
  /-- So an executor can be made exactly if each component will do, and the environment is that of
  a launched executor or all components are given. -/
  succeeds : a.outcome.isSome = true ↔
    (∀ c, ∃ x, Component.resolve given a.environment c = some x ∧ c.isValid x = true) ∧
      ((∃ c, (given c).isAbsent = true) → LaunchInfo.IsComplete a.environment)
  /-- Of two environments that agree on the variables of the components that are not given, and of
  which both or neither are those of a launched executor if there are such components, the same
  comes. -/
  alike : ∀ env s, ({ a with environment := env } : Application).checkedSettings = .ok s →
    (∀ c, (given c).isAbsent = true → ∀ v ∈ c.reads, a.environment.get? v = env.get? v) →
    ((∃ c, (given c).isAbsent = true) →
      (LaunchInfo.IsComplete a.environment ↔ LaunchInfo.IsComplete env)) →
    ({ a with environment := env } : Application).outcome = a.outcome

theorem outcome_resolved (hi : a.identity = .ofGiven given) (ht : a.checkedTable = .ok t)
    (hs : a.checkedSettings = .ok s)
    (h : (∃ c, (given c).isAbsent = true) → LaunchInfo.IsComplete a.environment) :
    a.outcome = ExecutorIdentity.of? (Component.resolve given a.environment) := by
  by_cases hall : ∃ c, (given c).isAbsent = true
  · obtain ⟨c, hc⟩ := hall
    exact outcome_of_isComplete hi ht hs hc (h ⟨c, hc⟩)
  · have hgiven : ∀ c, (given c).isAbsent = false := fun c =>
      Bool.eq_false_iff.mpr fun hc => hall ⟨c, hc⟩
    exact outcome_of_given hi ht hs hgiven

theorem outcome_of_incomplete (hi : a.identity = .ofGiven given) (ht : a.checkedTable = .ok t)
    (h : ¬ ((∃ c, (given c).isAbsent = true) → LaunchInfo.IsComplete a.environment)) :
    a.outcome = none := by
  obtain ⟨⟨c, hc⟩, henv⟩ := Classical.not_imp.mp h
  obtain ⟨f, hf, -⟩ := driver_of_incomplete hi ht hc henv
  rw [outcome, hf]
  rfl

theorem identity_componentwise (hi : a.identity = .ofGiven given) (ht : a.checkedTable = .ok t)
    (hs : a.checkedSettings = .ok s) : a.Componentwise given := by
  refine ⟨outcome_resolved hi ht hs, fun c hc henv => driver_of_incomplete hi ht hc henv, ?_,
    fun env s' hs' hagree hboth => ?_⟩
  · by_cases h : (∃ c, (given c).isAbsent = true) → LaunchInfo.IsComplete a.environment
    · rw [outcome_resolved hi ht hs h, ExecutorIdentity.isSome_of?]
      exact ⟨fun hv => ⟨hv, h⟩, And.left⟩
    · rw [outcome_of_incomplete hi ht h]
      exact ⟨fun hn => absurd hn Bool.false_ne_true, fun hn => absurd hn.2 h⟩
  · have hres : Component.resolve given env = Component.resolve given a.environment :=
      funext fun c => (Component.resolve_congr (hagree c)).symm
    by_cases h : (∃ c, (given c).isAbsent = true) → LaunchInfo.IsComplete a.environment
    · rw [outcome_resolved hi ht hs h, ← hres]
      exact outcome_resolved hi ht hs' fun hc => (hboth hc).mp (h hc)
    · have h' : ¬ ((∃ c, (given c).isAbsent = true) → LaunchInfo.IsComplete env) :=
        fun himp => h fun hc => (hboth hc).mpr (himp hc)
      rw [outcome_of_incomplete hi ht h]
      exact outcome_of_incomplete hi ht h'

/-! ### A partly given identity -/

/-- An executor of which the identifier is not given, in an environment. -/
def partlyGiven (environment : Environment) : Application where
  table := .table ⟨.executor, []⟩
  payload := .null
  identity := .executor (.text "m@h:1") (.text "f") .none
  settings := some default
  environment
  hostName := "h"
  handle := "k"

/-- What is given of it. -/
def partsGiven : Component → Argument
  | .agent => .text "m@h:1"
  | .frameworkId => .text "f"
  | .executorId => .none

/-- The environment of a launched executor. -/
def launchEnvironment : Environment :=
  [("MESOS_SLAVE_PID", ""), ("MESOS_FRAMEWORK_ID", "g"), ("MESOS_EXECUTOR_ID", "e")]

theorem partly_componentwise :
    (partlyGiven launchEnvironment).identity = .ofGiven partsGiven ∧
    (partlyGiven launchEnvironment).checkedTable = .ok ⟨.executor, []⟩ ∧
    (partlyGiven launchEnvironment).checkedSettings = .ok default ∧
    (partlyGiven launchEnvironment).outcome =
      some ⟨"tcp://h:1", Bytes.ofText "f", Bytes.ofText "e"⟩ ∧
    (partlyGiven launchEnvironment).Componentwise partsGiven :=
  ⟨rfl, rfl, rfl, by decide +kernel, identity_componentwise rfl rfl rfl⟩

/-- The executor identifier is not given and is there, the other components are given, and all of
them will do; yet there is no executor unless the variables of the components that are given are
there as well. -/
theorem partly_launched :
    (∀ c, ∃ x, Component.resolve partsGiven [("MESOS_EXECUTOR_ID", "e")] c = some x ∧
      c.isValid x = true) ∧
    (∀ c, (partsGiven c).isAbsent = true → ∀ v ∈ c.reads,
      Environment.get? [("MESOS_EXECUTOR_ID", "e")] v = launchEnvironment.get? v) ∧
    (partlyGiven [("MESOS_EXECUTOR_ID", "e")]).outcome = none ∧
    (partlyGiven launchEnvironment).outcome =
      some ⟨"tcp://h:1", Bytes.ofText "f", Bytes.ofText "e"⟩ := by
  refine ⟨fun c => ?_, fun c hc => ?_, by decide +kernel, by decide +kernel⟩
  · cases c with
    | agent => exact ⟨_, rfl, by decide +kernel⟩
    | frameworkId => exact ⟨_, rfl, by decide +kernel⟩
    | executorId => exact ⟨_, rfl, by decide +kernel⟩
  · cases c with
    | agent => cases hc
    | frameworkId => cases hc
    | executorId => decide

end Application

end ClusterLink
