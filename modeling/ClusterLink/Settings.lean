/-
# Settings

The settings of a driver, and what an agent tells an executor that it
launches. Both are records of fields that are validated one by one: a field
that is absent takes its default, if it has one, and otherwise the value is
converted, in a lenient way, and checked. All refusals are reported
together, in the order of the fields. Fields that a record does not have are
ignored.

Settings can be given as arguments or by environment variables, one for each
field, in capitals behind a common prefix.

Key definitions: `Settings`, `Settings.ofArguments`,
`Settings.ofEnvironment`, `LaunchInfo`, `LaunchInfo.ofArguments`,
`LaunchInfo.ofEnvironment`, `logLevel`.
-/
import ClusterLink.Datum
import ClusterLink.Failure
import ClusterLink.Settings.Numeral

namespace ClusterLink

/-- Named values that were not checked yet. -/
abbrev Fields := List (String × Datum)

/-- Environment variables. -/
abbrev Environment := List (String × String)

/-- The value of an environment variable, if it is set. -/
def Environment.get? (env : Environment) (name : String) : Option String :=
  (env.find? fun v => v.1 = name).map (·.2)

/-! ### Fields -/

namespace Setting

/-- A value as a double. -/
def toReal : Datum → Except Problem Double
  | .real x => .ok x
  | .integer n =>
    match Double.ofInt n with
    | .infinity _ => .error .notANumber
    | x => .ok x
  | .bool b => .ok (Double.ofInt (if b then 1 else 0))
  | .text s =>
    match Numeral.real? s with
    | some x => .ok x
    | none => .error .unreadableNumber
  | _ => .error .notANumber

/-- A value as an integer; a real number has to be finite and whole, and its size one of
63 bits. -/
def toInteger : Datum → Except Problem Int
  | .integer n => .ok n
  | .bool b => .ok (if b then 1 else 0)
  | .real x =>
    match x.truncate? with
    | none => .error .notFinite
    | some n =>
      if x.isWhole = false then .error .fractional
      else if 0x8000000000000000 ≤ n.natAbs then .error .integerTooLarge
      else .ok n
  | .text s => Numeral.integer s
  | _ => .error .notAnInteger

/-- A value as a text. -/
def toText : Datum → Except Problem String
  | .text s => .ok s
  | _ => .error .notAText

/-- A span of time: a real number above nought. -/
def span (d : Datum) : Except Problem Double := do
  let x ← toReal d
  if x.isPositive then .ok x else .error .notPositive

/-- An integer above nought. -/
def positive (d : Datum) : Except Problem Int := do
  let n ← toInteger d
  if 0 < n then .ok n else .error .notPositive

/-- An integer that is not below nought. -/
def natural (d : Datum) : Except Problem Int := do
  let n ← toInteger d
  if 0 ≤ n then .ok n else .error .negative

/-- A text that is not empty. -/
def nonempty (d : Datum) : Except Problem String := do
  let s ← toText d
  if s.isEmpty then .error .emptyText else .ok s

/-- A field of a record: its value, or its refusal. -/
def field {α : Type} (given : Fields) (name : String) (default : Except Problem α)
    (read : Datum → Except Problem α) : Except Refusal α :=
  let r := match Datum.field? given name with
    | none => default
    | some d => read d
  r.mapError fun p => ⟨name, p⟩

/-- The refusal of a field, if it was refused. -/
def refusal {α : Type} : Except Refusal α → List Refusal
  | .ok _ => []
  | .error r => [r]

end Setting

/-! ### Drivers -/

/-- The settings of a driver. -/
structure Settings where
  /-- How long the dispatch loop waits for messages before it checks its own state, in seconds. -/
  receiveTimeout : Double
  /-- How long closing waits for messages that were not sent yet, in milliseconds. -/
  lingerMs : Int
  /-- How long a send may wait for room in the queue, in milliseconds. -/
  sendTimeoutMs : Int
  /-- The age at which an unacknowledged status update is sent again, in seconds. -/
  resendPeriod : Double
  /-- The host part of the address that the remote side sends to. -/
  listenHost : String
  deriving DecidableEq, Repr, Inhabited

namespace Settings

/-- The names of the fields, in the order of the record. -/
def fieldNames : List String :=
  ["recv_timeout_sec", "linger_ms", "send_timeout_ms", "status_update_resend_sec", "listen_host"]

/-- What stands in front of the name of a field in the name of its environment variable. -/
def variablePrefix : String := "MESOSBRIDGE_"

/-- The environment variable of a field. -/
def variableName (field : String) : String := variablePrefix ++ field.map Char.toUpper

/-- The settings with the given fields; `hostName` is the name of this host. -/
def ofArguments (hostName : String) (given : Fields) : Except Failure Settings :=
  let timeout := Setting.field given "recv_timeout_sec" (.ok (Double.ofInt 1)) Setting.span
  let linger := Setting.field given "linger_ms" (.ok 1000) Setting.natural
  let send := Setting.field given "send_timeout_ms" (.ok 1000) Setting.positive
  let resend := Setting.field given "status_update_resend_sec" (.ok (Double.ofInt 10)) Setting.span
  let host := Setting.field given "listen_host" (.ok hostName) Setting.toText
  match timeout, linger, send, resend, host with
  | .ok receiveTimeout, .ok lingerMs, .ok sendTimeoutMs, .ok resendPeriod, .ok listenHost =>
    .ok { receiveTimeout, lingerMs, sendTimeoutMs, resendPeriod, listenHost }
  | _, _, _, _, _ =>
    .error (.refused (Setting.refusal timeout ++ Setting.refusal linger ++ Setting.refusal send ++
      Setting.refusal resend ++ Setting.refusal host))

/-- The fields that environment variables give. -/
def given (env : Environment) : Fields :=
  fieldNames.filterMap fun f => (env.get? (variableName f)).map fun v => (f, .text v)

/-- The settings that environment variables give. -/
def ofEnvironment (hostName : String) (env : Environment) : Except Failure Settings :=
  ofArguments hostName (given env)

end Settings

/-! ### Executors -/

/-- What an agent tells an executor that it launches. -/
structure LaunchInfo where
  agentEndpoint : String
  frameworkId : String
  executorId : String
  deriving DecidableEq, Repr, Inhabited

namespace LaunchInfo

/-- The information in the given fields. -/
def ofArguments (given : Fields) : Except Failure LaunchInfo :=
  let agent := Setting.field given "agent_endpoint" (.error .missing) Setting.toText
  let framework := Setting.field given "framework_id" (.error .missing) Setting.nonempty
  let executor := Setting.field given "executor_id" (.error .missing) Setting.nonempty
  match agent, framework, executor with
  | .ok agentEndpoint, .ok frameworkId, .ok executorId =>
    .ok { agentEndpoint, frameworkId, executorId }
  | _, _, _ =>
    .error (.refused (Setting.refusal agent ++ Setting.refusal framework ++
      Setting.refusal executor))

/-- The endpoint of the agent; the older variable counts if the newer one is not set or empty. -/
def endpoint? (env : Environment) : Option String :=
  match env.get? "MESOS_AGENT_ENDPOINT" with
  | some e => if e.isEmpty then env.get? "MESOS_SLAVE_PID" else some e
  | none => env.get? "MESOS_SLAVE_PID"

/-- The information in the environment variables that the agent sets. -/
def ofEnvironment (env : Environment) : Except Failure LaunchInfo :=
  match endpoint? env, env.get? "MESOS_FRAMEWORK_ID", env.get? "MESOS_EXECUTOR_ID" with
  | some a, some f, some e =>
    ofArguments [("agent_endpoint", .text a), ("framework_id", .text f), ("executor_id", .text e)]
  | _, _, _ => .error .noAgent

end LaunchInfo

/-! ### Logging -/

/-- The level of the log records that are written. -/
def logLevel (env : Environment) : String :=
  (env.get? (Settings.variablePrefix ++ "LOG_LEVEL")).getD "INFO"

/-- The set-up of logging: one handler that writes to the error stream, the library's own records
from `logLevel` on, and the warnings of everything else. -/
def logging (env : Environment) : Datum :=
  let handlers := Datum.list [.text "default"]
  .record [
    ("version", .integer 1),
    ("disable_existing_loggers", .bool false),
    ("formatters", .record [("default", .record [
      ("format", .text "%(asctime)s %(levelname)s %(threadName)s %(name)s: %(message)s")])]),
    ("handlers", .record [("default", .record [
      ("class", .text "logging.StreamHandler"),
      ("formatter", .text "default"),
      ("stream", .text "ext://sys.stderr")])]),
    ("loggers", .record [("mesosbridge", .record [
      ("level", .text (logLevel env)),
      ("handlers", handlers),
      ("propagate", .bool false)])]),
    ("root", .record [("level", .text "WARNING"), ("handlers", handlers)])]

end ClusterLink
