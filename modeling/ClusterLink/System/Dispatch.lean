/-
# The dispatch thread

The moves of the dispatch thread. It connects the transport, lets the driver
join the cluster, and then goes round: it stops if the driver was shut down,
reports a send that failed, receives, takes up each message that came while
the driver is active, and lets the driver send again what is overdue.

A failure that escapes the loop is reported like one of the remote side: the
driver is aborted, and the error callback told. Misuse is not; it ends the
thread. In any case the driver leaves the cluster before the thread ends.

While a callback runs, the envelopes lent to it are live; however it ends,
they are released. Misuse in a callback aborts the driver; any other failure
of a callback does so as well, unless the driver was already shut down.

Key definitions: `System.invoke`, `System.endCallback`, `System.act`,
`System.take`, `System.dispatch`.
-/
import ClusterLink.System

namespace ClusterLink

/-- The payloads of the envelopes of an argument. -/
def Parameter.payloads : Parameter → List Bytes
  | envelope b => [b]
  | envelopes bs => bs
  | number _ => []

/-- What an errand comes to on the dispatch thread, where nothing is waited for. -/
def Errand.result : Errand → Except Failure Answer
  | finished r => r
  | _ => .ok .nothing

/-- An errand is done on the dispatch thread, which holds the lock. -/
def Endpoint.conduct (e : Endpoint) : Errand → Except Failure Answer × Endpoint
  | .region r =>
    match e.region true r with
    | (.region r, e) => let (last, e) := e.region true r; (last.result, e)
    | (errand, e) => (errand.result, e)
  | errand => (errand.result, e)

namespace System

/-! ### After messages -/

/-- The phase in which further messages are taken up. -/
def phaseFor : List Message → Phase
  | [] => .ticking
  | ms => .handling ms

/-- The dispatch thread goes on after a callback that returned, or that there was none for. -/
def resume (s : System) : After → System
  | .message m rest => { s with endpoint := s.endpoint.conclude m, phase := phaseFor rest }
  | .pending | .escaped => { s with phase := .closing none }

/-- A failure leaves the dispatch loop. -/
def escape (s : System) (f : Failure) : System :=
  let s := s.record (.escaped f)
  if f.isMisuse then { s.note .misused with phase := .closing (some f) }
  else { s.note .loopFailed with phase := .escaped f }

/-! ### Callbacks -/

/-- A callback begins, if its slot is bound. -/
def invoke (s : System) (slot : Slot) (args : List Parameter) (after : After) : System :=
  if s.driver.table.binds slot then
    let (lent, store) := s.store.lend (args.flatMap Parameter.payloads)
    let actions := ((s.scripts.find? fun x => x.1 = slot).map (·.2)).getD []
    let s := s.record (.began slot s.driver.state s.driver.payload args)
    { s with
      store
      scripts := s.scripts.eraseP fun x => x.1 = slot
      phase := .calling ⟨slot, lent, actions, false, after⟩ }
  else s.resume after

/-- The driver is aborted for a failure. -/
def giveUp (s : System) (message : WideText) : System :=
  { s with endpoint := (s.endpoint.note (.failed message)).become .aborted }

/-- The driver failed: it is aborted, and then the error callback told, unless it was already shut
down. There is no telling a text without UTF-8 bytes, and it fails. -/
def fail (s : System) (message : WideText) (after : After) : System :=
  if s.driver.state.isActive then
    match message.utf8? with
    | some b => (s.giveUp message).invoke .error [.envelope b] after
    | none => (s.giveUp message).escape (.unencodable message)
  else (s.note (.failedLate message)).resume after

theorem fail_cases (s : System) (message : WideText) (after : After) :
    (s.driver.state.isActive = true ∧ ∃ b, message.utf8? = some b ∧
      s.fail message after = (s.giveUp message).invoke .error [.envelope b] after) ∨
    (s.driver.state.isActive = true ∧ message.utf8? = none ∧
      s.fail message after = (s.giveUp message).escape (.unencodable message)) ∨
    (s.driver.state.isActive = false ∧
      s.fail message after = (s.note (.failedLate message)).resume after) := by
  unfold fail
  cases ha : s.driver.state.isActive with
  | true =>
    cases hb : message.utf8? with
    | some b => exact Or.inl ⟨rfl, b, rfl, rfl⟩
    | none => exact Or.inr (Or.inl ⟨rfl, rfl, rfl⟩)
  | false => exact Or.inr (Or.inr ⟨rfl, rfl⟩)

/-- A callback ends, by a failure if there is one. -/
def endCallback (s : System) (frame : Frame) (failure : Option Failure) : System :=
  match failure with
  | none =>
    let s := s.record (.ended frame.slot)
    { s with store := s.store.releaseAll frame.lent }.resume frame.after
  | some f =>
    let s := s.record (.broke frame.slot f)
    let s := { s with store := s.store.releaseAll frame.lent }
    if f.isMisuse then
      let s := { s with endpoint := s.endpoint.become .aborted }
      match frame.after with
      | .escaped => { s with phase := .closing (some f) }
      | _ => s.escape f
    else
      let s := s.note (.callbackFailed frame.slot)
      { s with endpoint := s.endpoint.breakOff }.resume frame.after

/-- A call is made from within a callback. -/
def callInside (s : System) : Call → Except Failure Answer × System
  | .ask i q => s.ask i q
  | c =>
    let (r, endpoint) := s.endpoint.conduct (c.errand s.surface s.driver s.find)
    (r, { s with endpoint })

/-- Views of envelopes are kept. -/
def keepViews (s : System) : List Nat → Except Failure System
  | [] => .ok s
  | id :: ids => do
    let (v, store) ← s.store.view id
    keepViews { s with store, kept := s.kept ++ [.view v] } ids

/-- A callback does one thing. -/
def act (s : System) (frame : Frame) : System :=
  match frame.actions with
  | [] => s.endCallback frame none
  | a :: actions =>
    let frame := { frame with actions }
    match a with
    | .call c passOn =>
      let (r, s) := s.callInside c
      let s := s.record (.acted c.op r)
      match r, passOn with
      | .error f, true => s.endCallback frame (some f)
      | _, _ => { s with phase := .calling frame }
    | .raise f => s.endCallback frame (some f)
    | .hold =>
      { s.record (.held frame.slot) with phase := .calling { frame with held := true } }
    | .keep =>
      { s with kept := s.kept ++ frame.lent.map .envelope, phase := .calling frame }
    | .keepViews =>
      match s.keepViews frame.lent with
      | .ok s => { s with phase := .calling frame }
      | .error f => s.endCallback frame (some f)
    | .nameThread =>
      { s.record (.threadNamed s.driver.threadName) with phase := .calling frame }

/-! ### Messages -/

/-- A message is taken up. -/
def take (s : System) (m : Message) (rest : List Message) : System :=
  let s := s.record (.taken m)
  let s := { s with endpoint := s.endpoint.prepare m }
  match s.driver.reaction m with
  | .invoke slot args => s.invoke slot args (.message m rest)
  | .settle uuid => { s with endpoint := s.endpoint.settle uuid, phase := phaseFor rest }
  | .fail message => s.fail message (.message m rest)
  | .ignore => { s.note (.unexpected m) with phase := phaseFor rest }

/-- The next of some messages is taken up, or dropped if the driver was shut down. -/
def handle (s : System) : List Message → System
  | [] => { s with phase := .ticking }
  | m :: rest =>
    if s.driver.state.isActive then s.take m rest
    else { s.note (.dropped m s.driver.state) with phase := phaseFor rest }

/-- What arrived is received. -/
def receive (s : System) (a : Arrival) : System :=
  let timeout := s.driver.settings.receiveTimeout
  let (r, endpoint) := s.endpoint.useTransport (Transport.receive timeout a)
  let s := { s with endpoint := endpoint.record (.received r) }
  match r with
  | .ok ms => { s with phase := phaseFor ms }
  | .error f => s.escape f

/-! ### Moves -/

/-- A step of the endpoint is made, and the thread goes on in a phase, unless the step failed. -/
def proceed (s : System) (r : Except Failure Unit × Endpoint) (phase : Phase) : System :=
  let s := { s with endpoint := r.2 }
  match r.1 with
  | .ok () => { s with phase }
  | .error f => s.escape f

/-- The next move of the dispatch thread, which has what it needs. -/
def dispatch (s : System) : System :=
  match s.phase with
  | .idle | .ended => s
  | .begun =>
    if s.driver.attached then s.proceed s.endpoint.connectStart .linking
    else { s.record (.threadRaised (.noTransport s.driver.handle)) with phase := .ended }
  | .linking => s.proceed s.endpoint.connectEnd .entering
  | .entering => s.proceed s.endpoint.enter .checking
  | .checking =>
    { s with phase := if s.driver.state.isActive then .deciding else .closing none }
  | .deciding =>
    match s.driver.pendingError with
    | some f => { s with phase := .reporting f }
    | none => { s with phase := .receiving }
  | .reporting f => s.fail f.shown .pending
  | .receiving =>
    match s.refusal, s.inbox with
    | some f, _ => { s with endpoint := s.endpoint.record (.received (.error f)) }.escape f
    | none, [] => s
    | none, a :: inbox => { s with inbox }.receive a
  | .handling ms => s.handle ms
  | .ticking =>
    if s.driver.state.isActive then s.proceed s.endpoint.tick .checking
    else { s with phase := .checking }
  | .escaped f => s.fail f.shown .escaped
  | .calling frame => if frame.held then s else s.act frame
  | .closing cause => { s with endpoint := s.endpoint.leave, phase := .signalling cause }
  | .signalling cause =>
    let s := { s with endpoint := s.endpoint.signal, phase := .ended }
    match cause with
    | some f => s.record (.threadRaised f)
    | none => s

end System

end ClusterLink
