/-
# Delivery

What becomes of the messages that arrive at a driver. They are taken up one
after the other, each in its turn, as long as the driver is active; those
whose turn comes later are passed over. A message that is taken up leads to
the callback that the table of its role says (`Driver.calls`), once, and to
no other one; besides, only the error callback begins, for a failure of the
driver itself, and it is the last one.

An error of the remote side whose text has no UTF-8 bytes is the exception:
it aborts the driver, and then the making of the envelope fails, so that the
error callback is not told (`System.stray_silenced`).

An executor that was told to shut down takes up nothing more: its driver is
aborted when the callback for that returns, unless it was shut down before.

Key definitions: `History.arrived`, `History.handled`, `Phase.pending`,
`System.Delivery`.
Key theorems: `System.step_serves`, `System.run_delivery`,
`System.stray_silenced`.
-/
import ClusterLink.Proofs.Lending
import ClusterLink.Proofs.StatePath

namespace ClusterLink

/-! ### What arrives and what is handled -/

namespace Event

/-- The messages that a receive gave. -/
def received? : Event → Option (List Message)
  | received (.ok ms) => some ms
  | _ => none

/-- The message that is taken up. -/
def taken? : Event → Option Message
  | taken m => some m
  | _ => none

end Event

/-- By using the transport nothing is taken up, and no callback begins. -/
theorem Phase.Contacts.unhandled {p : Phase} {v : Event} (h : p.Contacts v) :
    v.taken? = none ∧ v.isCallback = false := by
  cases h <;> exact ⟨rfl, rfl⟩

namespace History

/-- All messages received so far, in order. -/
def arrived (h : List Event) : List Message := (h.filterMap Event.received?).reverse.flatten

/-- All messages taken up so far, in order. -/
def handled (h : List Event) : List Message := (h.filterMap Event.taken?).reverse

theorem arrived_eq (h : List Event) :
    arrived h = ((tidings h).filterMap Event.received?).flatten := by
  unfold arrived
  rw [filterMap_tidings fun v hv => by cases v <;> first | rfl | cases hv]

theorem handled_eq (h : List Event) : handled h = (tidings h).filterMap Event.taken? :=
  filterMap_tidings (fun v hv => by cases v <;> first | rfl | cases hv) h

end History

/-! ### What is still to be handled -/

/-- The messages that follow on the one that a callback was due to. -/
def After.rest : After → List Message
  | message _ rest => rest
  | _ => []

/-- The message that a callback was due to. -/
def After.subject? : After → Option Message
  | message m _ => some m
  | _ => none

namespace Phase

/-- The messages that were received, and whose turn is still to come. -/
def pending : Phase → List Message
  | handling ms => ms
  | calling frame => frame.after.rest
  | _ => []

/-- The message that the callback is due to that runs. -/
def subject? : Phase → Option Message
  | calling frame => frame.after.subject?
  | _ => none

end Phase

namespace System

theorem phaseFor_pending (ms : List Message) : (phaseFor ms).pending = ms := by
  cases ms <;> rfl

theorem resume_pending (s : System) (after : After) :
    (s.resume after).phase.pending = after.rest := by
  cases after with
  | message m rest => exact phaseFor_pending rest
  | _ => rfl

theorem escape_pending (s : System) (f : Failure) : (s.escape f).phase.pending = [] := by
  unfold escape
  dsimp only
  split <;> rfl

theorem escape_driver (s : System) (f : Failure) : (s.escape f).driver = s.driver := by
  unfold escape
  dsimp only
  split <;> rfl

theorem invoke_pending (s : System) (slot : Slot) (args : List Parameter) (after : After) :
    (s.invoke slot args after).phase.pending = after.rest := by
  unfold invoke
  split
  · rfl
  · exact s.resume_pending after

/-- The messages that wait stay so, unless the driver is aborted for a text that cannot be told. -/
theorem fail_pending (s : System) (message : WideText) (after : After) :
    (s.fail message after).phase.pending = after.rest ∨
      (s.fail message after).phase.pending = [] ∧
        (s.fail message after).driver.state = .aborted := by
  rcases s.fail_cases message after with ⟨-, b, -, he⟩ | ⟨-, -, he⟩ | ⟨-, he⟩ <;> rw [he]
  · exact Or.inl (invoke_pending _ _ _ after)
  · refine Or.inr ⟨escape_pending _ _, ?_⟩
    rw [escape_driver]
    rfl
  · exact Or.inl (resume_pending _ after)

theorem take_pending {s : System} (m : Message) (rest : List Message)
    (ha : s.driver.state.isActive = true) :
    (s.take m rest).phase.pending = rest ∨
      (s.take m rest).phase.pending = [] ∧ (s.take m rest).driver.state = .aborted := by
  rw [take_eq m rest ha]
  split
  · exact Or.inl (invoke_pending _ _ _ _)
  · exact Or.inl (phaseFor_pending rest)
  · exact fail_pending _ _ _
  · exact Or.inl (phaseFor_pending rest)

/-- A callback that ends is followed by the messages that wait, unless it misused the driver. -/
theorem endCallback_pending (s : System) (frame : Frame) (failure : Option Failure) :
    (s.endCallback frame failure).phase.pending = frame.after.rest ∨
      (s.endCallback frame failure).phase.pending = [] ∧
        (s.endCallback frame failure).driver.state = .aborted := by
  cases failure with
  | none => exact Or.inl (resume_pending _ _)
  | some f =>
    by_cases hf : f.isMisuse = true
    · refine Or.inr ?_
      simp only [endCallback, hf, if_true]
      split
      · exact ⟨rfl, rfl⟩
      · refine ⟨escape_pending _ f, ?_⟩
        rw [escape_driver]
        rfl
    · have hf : f.isMisuse = false := by simpa using hf
      simp only [endCallback, hf, Bool.false_eq_true, if_false]
      exact Or.inl (resume_pending _ _)

/-- With a move that tells something, messages come in, those whose turn it is are taken up, and
others are passed over, which only happens once the driver was shut down. -/
def Serves (s : System) (told : List Event) (s' : System) : Prop :=
  ∃ passed, s.phase.pending ++ (told.filterMap Event.received?).flatten =
      told.filterMap Event.taken? ++ passed ++ s'.phase.pending ∧
    (passed ≠ [] → s'.driver.state.isShut = true)

/-- Nothing comes in or is taken up. -/
theorem serves_none {s s' : System} {told : List Event} (h : s'.phase.pending = s.phase.pending)
    (hr : told.filterMap Event.received? = []) (ht : told.filterMap Event.taken? = []) :
    s.Serves told s' :=
  ⟨[], by simp [h, hr, ht], fun hn => absurd rfl hn⟩

theorem serves_nil {s s' : System} (h : s'.phase.pending = s.phase.pending) : s.Serves [] s' :=
  serves_none h rfl rfl

theorem links_told (e : Endpoint) :
    e.links.filterMap Event.received? = [] ∧ e.links.filterMap Event.taken? = [] := by
  unfold Endpoint.links
  split <;> exact ⟨rfl, rfl⟩

theorem calls_told (d : Driver) (m : Message) :
    (d.calls m).filterMap Event.received? = [] ∧ (d.calls m).filterMap Event.taken? = [] ∧
      (d.calls m).filter Event.isCallback = d.calls m := by
  rcases d.calls_cases m with hc | ⟨slot, l, args, hc⟩ <;> rw [hc] <;> exact ⟨rfl, rfl, rfl⟩

theorem alarms_told (d : Driver) (text : WideText) :
    (d.alarms text).filterMap Event.received? = [] ∧
      (d.alarms text).filterMap Event.taken? = [] ∧
      (d.alarms text).filter Event.isCallback = d.alarms text := by
  rw [← d.calls_error]
  exact calls_told d _

theorem proceed_pending (s : System) (r : Except Failure Unit × Endpoint) {phase : Phase}
    (hp : phase.pending = []) : (s.proceed r phase).phase.pending = [] := by
  unfold proceed
  dsimp only
  split
  · exact hp
  · exact escape_pending _ _

theorem receive_serves {s : System} (a : Arrival) (hp : s.phase.pending = []) :
    s.Serves [.received (s.endpoint.surroundings.transport.receive
      s.driver.settings.receiveTimeout a).1] (s.receive a) := by
  refine ⟨[], ?_, fun hn => absurd rfl hn⟩
  have hr : (s.endpoint.useTransport (Transport.receive s.driver.settings.receiveTimeout a)).1 =
      (s.endpoint.surroundings.transport.receive s.driver.settings.receiveTimeout a).1 := rfl
  unfold receive
  dsimp only
  rw [hr, hp]
  cases (s.endpoint.surroundings.transport.receive s.driver.settings.receiveTimeout a).1 with
  | ok ms =>
    dsimp only
    rw [phaseFor_pending]
    simp [Event.received?, Event.taken?]
  | error f =>
    dsimp only
    rw [escape_pending]
    rfl

theorem fail_serves {s : System} (message : WideText) {after : After}
    (h : s.phase.pending = after.rest) :
    s.Serves (if s.driver.state.isActive then s.driver.alarms message else [])
      (s.fail message after) := by
  have htold : (if s.driver.state.isActive then s.driver.alarms message else []).filterMap
      Event.received? = [] ∧ (if s.driver.state.isActive then s.driver.alarms message
        else []).filterMap Event.taken? = [] := by
    obtain ⟨hr, ht, -⟩ := alarms_told s.driver message
    split
    · exact ⟨hr, ht⟩
    · exact ⟨rfl, rfl⟩
  rcases s.fail_pending message after with hp | ⟨hp, hs⟩
  · exact serves_none (hp.trans h.symm) htold.1 htold.2
  · refine ⟨after.rest, ?_, fun _ => by rw [hs]; rfl⟩
    simp [h, hp, htold]

/-- The next message is taken up by a driver that is active, and passed over by any other one. -/
theorem handle_serves {s : System} (m : Message) (rest : List Message)
    (hp : s.phase.pending = m :: rest) (hc : s.driver.state ≠ .created) :
    s.Serves (if s.driver.state.isActive then .taken m :: s.driver.calls m else [])
      (s.handle (m :: rest)) := by
  unfold handle
  split
  · rename_i ha
    obtain ⟨hr, ht, -⟩ := calls_told s.driver m
    rcases take_pending m rest ha with hrest | ⟨hrest, hs⟩
    · refine ⟨[], ?_, fun hn => absurd rfl hn⟩
      rw [hp, hrest]
      simp only [List.filterMap_cons, Event.received?, Event.taken?, hr, ht]
      simp
    · refine ⟨rest, ?_, fun _ => by rw [hs]; rfl⟩
      rw [hp, hrest]
      simp only [List.filterMap_cons, Event.received?, Event.taken?, hr, ht]
      simp
  · rename_i ha
    have hs := shut_of_inactive (by simpa using ha) hc
    refine ⟨[m], ?_, fun _ => ?_⟩
    · simp [hp, phaseFor_pending]
    · show s.driver.state.isShut = true
      rcases hs with hs | hs | hs <;> rw [hs] <;> rfl

theorem act_serves {s : System} {frame : Frame} (hp : s.phase = .calling frame) :
    s.Serves [] (s.act frame) := by
  have hpend : s.phase.pending = frame.after.rest := by rw [hp]; rfl
  rcases s.act_cases frame with ⟨actions, held, hp', -⟩ | ⟨t, actions, failure, he, -⟩
  · exact serves_nil (by rw [hp', hpend]; rfl)
  · rw [he]
    rcases t.endCallback_pending { frame with actions } failure with hr | ⟨hr, hs⟩
    · exact serves_nil (hr.trans hpend.symm)
    · exact ⟨frame.after.rest, by simp [hr, hpend], fun _ => by rw [hs]; rfl⟩

theorem dispatch_serves {s : System} (h : s.Sound) : s.Serves s.threadTells s.dispatch := by
  have ha := h.admits
  cases hp : s.phase with
  | calling frame =>
    simp only [threadTells, dispatch, hp]
    split
    · exact serves_nil rfl
    · exact act_serves hp
  | handling ms =>
    rw [hp] at ha
    cases ms with
    | nil =>
      simp only [threadTells, dispatch, hp, handle]
      exact serves_nil (by rw [hp]; rfl)
    | cons m rest =>
      simp only [threadTells, dispatch, hp]
      exact handle_serves m rest (by rw [hp]; rfl) ha.1
  | receiving =>
    simp only [threadTells, dispatch, hp]
    cases s.refusal with
    | some f =>
      refine ⟨[], ?_, fun hn => absurd rfl hn⟩
      rw [hp, escape_pending]
      rfl
    | none =>
      cases hi : s.inbox with
      | nil => exact serves_nil rfl
      | cons a inbox => exact receive_serves (s := { s with inbox }) a (by rw [hp]; rfl)
  | reporting f | escaped f =>
    simp only [threadTells, dispatch, hp]
    exact fail_serves _ (by rw [hp]; rfl)
  | idle | ended =>
    simp only [threadTells, dispatch, hp]
    exact serves_nil rfl
  | begun =>
    simp only [threadTells, dispatch, hp]
    split
    · refine serves_none ?_ rfl rfl
      rw [hp]
      exact proceed_pending _ _ rfl
    · refine serves_nil ?_
      rw [hp]
      rfl
  | linking =>
    obtain ⟨hr, ht⟩ := links_told s.endpoint
    have hpend : (s.proceed s.endpoint.connectEnd .entering).phase.pending = s.phase.pending := by
      rw [hp]
      exact proceed_pending _ _ rfl
    simp only [threadTells, dispatch, hp]
    split
    · exact serves_none hpend hr ht
    · exact serves_nil hpend
  | entering =>
    simp only [threadTells, dispatch, hp]
    refine serves_nil ?_
    rw [hp]
    exact proceed_pending _ _ rfl
  | checking | deciding =>
    simp only [threadTells, dispatch, hp]
    refine serves_nil ?_
    rw [hp]
    split <;> rfl
  | ticking =>
    simp only [threadTells, dispatch, hp]
    refine serves_nil ?_
    rw [hp]
    split
    · exact proceed_pending _ _ rfl
    · rfl
  | closing cause =>
    simp only [threadTells, dispatch, hp]
    exact serves_none (by rw [hp]; rfl) rfl rfl
  | signalling cause =>
    simp only [threadTells, dispatch, hp]
    refine serves_nil ?_
    rw [hp]
    split <;> rfl

theorem step_serves {s : System} (h : s.Sound) (m : Move) :
    s.Serves (s.deliveries m) (s.step m) := by
  by_cases hm : m = .go .dispatch
  · subst hm
    rcases s.step_cases (.go .dispatch) with ⟨t, ht, hp, he⟩ | ⟨-, he⟩ | ⟨n, hn, -⟩ | hno
    · obtain rfl := Move.go.inj ht
      have hd : s.deliveries (.go .dispatch) = [] :=
        (List.append_eq_nil_iff.mp (tells_of_waiting hp)).1
      rw [he, hd]
      exact serves_nil rfl
    · rw [he]
      exact dispatch_serves h
    · cases hn
    · exact absurd rfl (hno .dispatch)
  · rw [s.deliveries_of_ne hm]
    refine serves_nil ?_
    rcases s.others_phase hm with hp | ⟨hi, hp⟩ | ⟨frame, hc, hp⟩
    · rw [hp]
    · rw [hp, hi]; rfl
    · rw [hp, hc]; rfl

/-! ### Shutting down -/

/-- A driver that was shut down stays so. -/
theorem step_isShut {s : System} (h : s.Sound) (m : Move) (hs : s.driver.state.isShut = true) :
    (s.step m).driver.state.isShut = true := by
  by_cases hj : s.joins m = true
  · obtain ⟨hd, -⟩ := step_joins h hj
    refine hd.turns.isShut ?_
    rcases s.endpoint.enter_cases with ⟨-, he⟩ | ⟨hst, -⟩ | ⟨hst, -⟩
    · rw [he]
      exact hs
    · rw [hst] at hs; cases hs
    · rw [hst] at hs; cases hs
  · exact (step_turns h (by simpa using hj)).isShut hs

/-- Nothing follows on a message if the driver was shut down meanwhile. -/
theorem resume_of_inactive (s : System) (after : After) (h : s.driver.state.isActive = false) :
    (s.resume after).driver.state = s.driver.state := by
  cases after with
  | message m rest =>
    show (s.endpoint.conclude m).driver.state = s.endpoint.driver.state
    unfold Endpoint.conclude
    split
    · rw [if_neg fun hc => absurd (h.symm.trans hc.2) Bool.noConfusion]
    · rw [if_neg (by simp [h])]
    · rfl
  | _ => rfl

/-! ### Callbacks -/

/-- A failure of an active driver aborts it. -/
theorem fail_aborts {s : System} (message : WideText) (after : After)
    (ha : s.driver.state.isActive = true) : (s.fail message after).driver.state = .aborted := by
  rcases s.fail_cases message after with ⟨-, b, -, he⟩ | ⟨-, -, he⟩ | ⟨hi, -⟩
  · rw [he, invoke]
    split
    · rfl
    · exact resume_of_inactive _ after rfl
  · rw [he, escape_driver]
    rfl
  · rw [hi] at ha
    cases ha

/-- A failure that the dispatch thread is about to deal with shuts an active driver down. -/
theorem step_failing {s : System} {f : Failure} (hp : s.phase = .reporting f ∨ s.phase = .escaped f)
    (ha : s.driver.state.isActive = true) :
    (s.step (.go .dispatch)).driver.state.isShut = true := by
  rcases hp with hp | hp <;>
  · simp only [step, need, dispatchNeed, hp, provides, isLocked, advance, dispatch]
    simp only [Bool.not_false, if_true]
    rw [fail_aborts _ _ ha]
    rfl

/-! ### An executor that is told to shut down -/

theorem isShut_of_inactive {s : System} (h : s.Sound) (hp : s.phase ≠ .idle)
    (hi : s.driver.state.isActive = false) : s.driver.state.isShut = true := by
  rcases shut_of_inactive hi (h.admits.ne_created hp) with hs | hs | hs <;> rw [hs] <;> rfl

/-- An executor is not active any more once its callback for that returned. -/
theorem resume_shutdown {s : System} (rest : List Message) (hr : s.driver.role = .executor) :
    (s.resume (.message .shutdownExecutor rest)).driver.state.isActive = false := by
  have hr : s.endpoint.driver.role = .executor := hr
  show (s.endpoint.conclude .shutdownExecutor).driver.state.isActive = false
  unfold Endpoint.conclude
  rw [hr]
  dsimp only
  split
  · rename_i ha
    have hd : s.endpoint.driver.state ≠ .destroyed := fun hd => by rw [hd] at ha; cases ha
    unfold Endpoint.abort
    rw [if_neg hd, if_neg (by simp [ha])]
    rfl
  · rename_i ha
    simpa using ha

theorem endCallback_shutdown {s : System} {frame : Frame} (failure : Option Failure)
    (hr : s.driver.role = .executor) (hf : frame.after.subject? = some .shutdownExecutor) :
    (s.endCallback frame failure).driver.state.isActive = false := by
  have hafter : ∃ rest, frame.after = .message .shutdownExecutor rest := by
    cases ha : frame.after with
    | message m rest =>
      rw [ha] at hf
      obtain rfl := Option.some.inj hf
      exact ⟨rest, rfl⟩
    | _ => rw [ha] at hf; cases hf
  obtain ⟨rest, hafter⟩ := hafter
  cases failure with
  | none =>
    simp only [endCallback, hafter]
    refine resume_shutdown rest ?_
    exact hr
  | some f =>
    by_cases hm : f.isMisuse = true
    · simp only [endCallback, hm, if_true, hafter]
      unfold escape
      dsimp only
      split <;> rfl
    · have hm : f.isMisuse = false := by simpa using hm
      simp only [endCallback, hm, Bool.false_eq_true, if_false, hafter]
      refine resume_shutdown rest ?_
      exact (Endpoint.breakOff_works _).continues.role.trans hr

/-- The callback that the message is due to runs, or the driver was shut down. -/
def ShutsDown (s : System) : Prop :=
  s.phase.subject? = some .shutdownExecutor ∨ s.driver.state.isShut = true

theorem take_shutsDown {s : System} (h : s.Sound) (rest : List Message)
    (hr : s.driver.role = .executor) (hp : s.phase = .handling (.shutdownExecutor :: rest))
    (ha : s.driver.state.isActive = true) : (s.step (.go .dispatch)).ShutsDown := by
  have hstep : s.step (.go .dispatch) = s.take .shutdownExecutor rest := by
    rw [step_handling hp, handle, if_pos ha]
  have hre : s.driver.reaction .shutdownExecutor = .invoke .shutdown [] := by
    unfold Driver.reaction
    rw [hr]
    rfl
  have hsound := step_sound h (.go .dispatch)
  rw [hstep, take_eq _ rest ha, hre] at hsound ⊢
  dsimp only [invoke] at hsound ⊢
  split
  · exact Or.inl rfl
  · rename_i hb
    rw [if_neg hb] at hsound
    refine Or.inr (isShut_of_inactive hsound ?_ ?_)
    · cases rest <;> exact Phase.noConfusion
    · exact resume_shutdown rest ((facing_driver _ ha).1.1.trans hr)

theorem step_shutsDown {s : System} (h : s.Sound) (m : Move) (hr : s.driver.role = .executor)
    (hs : s.ShutsDown) : (s.step m).ShutsDown := by
  rcases hs with hs | hs
  · have hrun : ∃ frame, s.phase = .calling frame ∧
        frame.after.subject? = some .shutdownExecutor := by
      cases hp : s.phase with
      | calling frame => rw [hp] at hs; exact ⟨frame, rfl, hs⟩
      | _ => rw [hp] at hs; cases hs
    obtain ⟨frame, hp, hsub⟩ := hrun
    by_cases hm : m = .go .dispatch
    · subst hm
      rcases s.step_dispatch with he | he
      · rw [he]; exact Or.inl hs
      · have hsound := step_sound h (.go .dispatch)
        have hrole := (step_same h (.go .dispatch)).1.trans hr
        have hlate : (s.step (.go .dispatch)).phase.isLate = true :=
          step_isLate h (by rw [hp]; rfl) _
        have hact : s.step (.go .dispatch) = s ∨ s.step (.go .dispatch) = s.act frame := by
          rw [he]
          simp only [dispatch, hp]
          split
          · exact Or.inl rfl
          · exact Or.inr rfl
        rcases hact with hact | hact
        · rw [hact]; exact Or.inl hs
        · rcases s.act_cases frame with ⟨actions, held, hp', -⟩ | ⟨t, actions, failure, hend, -⟩
          · rw [hact]
            exact Or.inl (by rw [hp']; exact hsub)
          · refine Or.inr (isShut_of_inactive hsound (Phase.ne_idle_of_isLate hlate) ?_)
            rw [hact, hend] at hrole ⊢
            have ht : t.driver.role = .executor :=
              (t.endCallback_passes _ failure).same.1.symm.trans hrole
            exact endCallback_shutdown failure ht hsub
    · refine Or.inl ?_
      rcases s.others_phase hm with hp' | ⟨hi, -⟩ | ⟨frame', hc, hp'⟩
      · rw [hp']; exact hs
      · rw [hp] at hi; cases hi
      · obtain rfl := Phase.calling.inj (hp.symm.trans hc)
        rw [hp']; exact hsub
  · exact Or.inr (step_isShut h m hs)

/-! ### Runs -/

/-- What was delivered to a driver that was the given one when it was made. -/
structure Delivered (d : Driver) (s : System) : Prop where
  same : s.driver.role = d.role ∧ s.driver.table = d.table ∧ s.driver.payload = d.payload
  /-- What was taken up is where everything that arrived begins. Then there may be what was passed
  over, as the driver was shut down, and what is still to come. -/
  arrivals : ∃ passed, History.arrived s.endpoint.history =
      History.handled s.endpoint.history ++ passed ++ s.phase.pending ∧
    (passed ≠ [] → s.driver.state.isShut = true)
  /-- The callbacks are those for the messages that were taken up, with at most an alarm at the
  end. -/
  callbacks : ∃ alarm, History.callbacks s.endpoint.history =
      (History.handled s.endpoint.history).flatMap d.calls ++ alarm ∧
    (alarm = [] ∨ s.driver.state.isShut = true ∧ ∃ text : String, alarm = d.alarms text)
  /-- An error of the remote side whose text has no UTF-8 bytes shuts the driver down as well, but
  nobody is told: no callback begins for it or after it. -/
  untold : ∀ text, .error text ∈ History.handled s.endpoint.history → text.utf8? = none →
    s.driver.state.isShut = true ∧ History.callbacks s.endpoint.history =
      (History.handled s.endpoint.history).flatMap d.calls
  /-- An executor that was told to shut down takes up nothing more. -/
  last : d.role = .executor →
    .shutdownExecutor ∉ (History.handled s.endpoint.history).dropLast
  /-- It is shut down as soon as its callback for that ended. -/
  shutsDown : d.role = .executor →
    .shutdownExecutor ∈ History.handled s.endpoint.history → s.ShutsDown

theorem issues_told (e : Endpoint) (r : Option Bytes) :
    (e.issues r).filterMap Event.received? = [] ∧ (e.issues r).filterMap Event.taken? = [] := by
  unfold Endpoint.issues
  split
  · split <;> exact ⟨rfl, rfl⟩
  · exact ⟨rfl, rfl⟩

theorem step_arrived {s : System} (h : s.Sound) (m : Move) :
    History.arrived (s.step m).endpoint.history = History.arrived s.endpoint.history ++
      ((s.deliveries m).filterMap Event.received?).flatten := by
  rw [History.arrived_eq, History.arrived_eq, step_tidings h m, tells,
    List.filterMap_append, List.filterMap_append, (issues_told _ _).1, List.append_nil,
    List.flatten_append]

theorem step_handled {s : System} (h : s.Sound) (m : Move) :
    History.handled (s.step m).endpoint.history = History.handled s.endpoint.history ++
      (s.deliveries m).filterMap Event.taken? := by
  rw [History.handled_eq, History.handled_eq, step_tidings h m, tells,
    List.filterMap_append, List.filterMap_append, (issues_told _ _).2, List.append_nil]

theorem calls_congr {d d' : Driver} (hr : d'.role = d.role) (ht : d'.table = d.table)
    (hp : d'.payload = d.payload) : d'.calls = d.calls ∧ d'.alarms = d.alarms := by
  constructor
  · funext m
    unfold Driver.calls
    rw [hr, ht, hp]
  · funext text
    unfold Driver.alarms
    rw [ht, hp]

theorem not_isShut_of_active {s : Lifecycle} (h : s.isActive = true) : ¬ s.isShut = true :=
  fun hs => absurd ((Lifecycle.not_active_of_isShut hs).symm.trans h) Bool.noConfusion

/-- Messages are taken up one at a time, by an active driver. -/
theorem deliveries_taken (s : System) (m : Move) :
    (s.deliveries m).filterMap Event.taken? = [] ∨
    ∃ x rest, m = .go .dispatch ∧ s.phase = .handling (x :: rest) ∧
      s.driver.state.isActive = true ∧ (s.deliveries m).filterMap Event.taken? = [x] := by
  rcases s.deliveries_cases m with ht | ⟨x, rest, hm, hp, ha, ht⟩ | ⟨f, -, -, -, ht⟩ |
    ⟨v, -, hv, ht⟩
  · exact Or.inl (by rw [ht]; rfl)
  · refine Or.inr ⟨x, rest, hm, hp, ha, ?_⟩
    have hc := (calls_told s.driver x).2.1
    simp only [ht, List.filterMap_cons, Event.taken?, hc]
  · exact Or.inl (by rw [ht]; exact (alarms_told s.driver f.shown).2.1)
  · exact Or.inl (by rw [ht, List.filterMap_cons_none hv.unhandled.1]; rfl)

/-- An error of the remote side that is taken up shuts the driver down. -/
theorem error_shuts {s : System} {text : WideText} {rest : List Message}
    (hp : s.phase = .handling (.error text :: rest)) (ha : s.driver.state.isActive = true) :
    (s.step (.go .dispatch)).driver.state.isShut = true := by
  have hre : s.driver.reaction (.error text) = .fail text := by
    unfold Driver.reaction
    cases s.driver.role <;> rfl
  have hst : (s.facing (.error text)).driver.state.isActive = true := by
    rw [(facing_driver _ ha).2, ha]
  rw [step_handling hp, handle, if_pos ha, take_eq _ rest ha, hre]
  show ((s.facing (.error text)).fail text _).driver.state.isShut = true
  rw [fail_aborts _ _ hst]
  rfl

namespace Delivered

variable {d : Driver} {s : System}

theorem step_arrivals (h : s.Sound) (hd : s.Delivered d) (m : Move) :
    ∃ passed, History.arrived (s.step m).endpoint.history =
        History.handled (s.step m).endpoint.history ++ passed ++ (s.step m).phase.pending ∧
      (passed ≠ [] → (s.step m).driver.state.isShut = true) := by
  obtain ⟨passed, harr, hpass⟩ := hd.arrivals
  obtain ⟨skipped, hturn, hskip⟩ := step_serves h m
  refine ⟨passed ++ skipped, ?_, fun hne => ?_⟩
  · rw [step_arrived h m, step_handled h m, harr, List.append_assoc _ s.phase.pending, hturn]
    rcases s.deliveries_taken m with ht | ⟨x, rest, -, -, ha, -⟩
    · simp [ht]
    · -- nothing was passed over so far, as the driver is active
      have hnil : passed = [] := by
        by_contra hne
        exact not_isShut_of_active ha (hpass hne)
      simp [hnil]
  · by_cases hs : skipped = []
    · rw [hs, List.append_nil] at hne
      exact step_isShut h m (hpass hne)
    · exact hskip hs

theorem step_callbacks (h : s.Sound) (hd : s.Delivered d) (m : Move) :
    ∃ alarm, History.callbacks (s.step m).endpoint.history =
        (History.handled (s.step m).endpoint.history).flatMap d.calls ++ alarm ∧
      (alarm = [] ∨ (s.step m).driver.state.isShut = true ∧
        ∃ text : String, alarm = d.alarms text) := by
  obtain ⟨alarm, hcall, halarm⟩ := hd.callbacks
  obtain ⟨hcalls, halarms⟩ := calls_congr hd.same.1 hd.same.2.1 hd.same.2.2
  have hkeep : alarm = [] ∨ (s.step m).driver.state.isShut = true ∧
      ∃ text : String, alarm = d.alarms text :=
    halarm.imp_right fun ⟨hs, ht⟩ => ⟨step_isShut h m hs, ht⟩
  have hactive : s.driver.state.isActive = true → alarm = [] := fun ha =>
    halarm.resolve_right fun ⟨hs, _⟩ => not_isShut_of_active ha hs
  rw [System.step_callbacks h m, step_handled h m, hcall]
  rcases s.deliveries_cases m with ht | ⟨x, rest, -, -, ha, ht⟩ | ⟨f, rfl, hp, ha, ht⟩ |
    ⟨v, -, hv, ht⟩
  · exact ⟨alarm, by simp [ht], hkeep⟩
  · obtain ⟨-, hc, hf⟩ := calls_told s.driver x
    refine ⟨[], ?_, Or.inl rfl⟩
    rw [ht, hactive ha, List.filter_cons_of_neg (by simp [Event.isCallback]), hf, hcalls]
    simp [Event.taken?, ← hcalls, hc]
  · obtain ⟨-, hc, hf⟩ := alarms_told s.driver f.shown
    refine ⟨d.alarms f.shown, ?_, Or.inr ⟨step_failing hp ha, f.shown, rfl⟩⟩
    rw [ht, hactive ha, hc, hf, halarms]
    simp
  · exact ⟨alarm, by simp [ht, hv.unhandled.1, hv.unhandled.2], hkeep⟩

theorem step_untold (h : s.Sound) (hd : s.Delivered d) (m : Move) {text : WideText}
    (hmem : .error text ∈ History.handled (s.step m).endpoint.history)
    (ht : text.utf8? = none) : (s.step m).driver.state.isShut = true ∧
      History.callbacks (s.step m).endpoint.history =
        (History.handled (s.step m).endpoint.history).flatMap d.calls := by
  obtain ⟨hcalls, -⟩ := calls_congr hd.same.1 hd.same.2.1 hd.same.2.2
  have hearly (hmem : .error text ∈ History.handled s.endpoint.history) :
      s.driver.state.isActive = false :=
    Lifecycle.not_active_of_isShut (hd.untold text hmem ht).1
  rw [step_handled h m] at hmem ⊢
  rw [System.step_callbacks h m]
  rcases s.deliveries_cases m with he | ⟨x, rest, rfl, hp, ha, he⟩ | ⟨f, -, -, ha, he⟩ |
    ⟨v, -, hv, he⟩
  · rw [he] at hmem ⊢
    obtain ⟨hs, hc⟩ := hd.untold text (by simpa using hmem) ht
    exact ⟨step_isShut h m hs, by simpa using hc⟩
  · -- the driver was active, so it is taken up just now, and there was no alarm before
    obtain ⟨-, hc, hf⟩ := calls_told s.driver x
    have hx : x = .error text := by
      rw [he, List.filterMap_cons_some (show Event.taken? (.taken x) = some x from rfl), hc,
        List.mem_append, List.mem_singleton] at hmem
      rcases hmem with hmem | hmem
      · exact absurd ((hearly hmem).symm.trans ha) Bool.noConfusion
      · exact hmem.symm
    obtain ⟨alarm, hcall, halarm⟩ := hd.callbacks
    have hnil : alarm = [] :=
      halarm.resolve_right fun ⟨hs, _⟩ => not_isShut_of_active ha hs
    refine ⟨error_shuts (hx ▸ hp) ha, ?_⟩
    rw [he, hcall, hnil, List.filter_cons_of_neg (by simp [Event.isCallback]), hf, hcalls]
    simp [Event.taken?, ← hcalls, hc]
  · obtain ⟨-, hc, -⟩ := alarms_told s.driver f.shown
    rw [he, hc, List.append_nil] at hmem
    exact absurd ((hearly hmem).symm.trans ha) Bool.noConfusion
  · obtain ⟨htaken, hcall⟩ := hv.unhandled
    rw [he, List.filterMap_cons_none htaken] at hmem ⊢
    rw [List.filter_cons_of_neg (by simp [hcall])]
    obtain ⟨hs, hc⟩ := hd.untold text (by simpa using hmem) ht
    exact ⟨step_isShut h m hs, by simpa using hc⟩

/-- Once an executor took up that it is to shut down, it takes up nothing more. -/
theorem not_mem_of_taken (hd : s.Delivered d) (hr : d.role = .executor) {x : Message}
    {rest : List Message} (hp : s.phase = .handling (x :: rest))
    (ha : s.driver.state.isActive = true) :
    .shutdownExecutor ∉ History.handled s.endpoint.history := by
  intro hmem
  rcases hd.shutsDown hr hmem with hs | hs
  · rw [hp] at hs
    cases hs
  · exact not_isShut_of_active ha hs

theorem step_last (h : s.Sound) (hd : s.Delivered d) (m : Move) (hr : d.role = .executor) :
    .shutdownExecutor ∉ (History.handled (s.step m).endpoint.history).dropLast := by
  rw [step_handled h m]
  rcases s.deliveries_taken m with ht | ⟨x, rest, -, hp, ha, ht⟩
  · rw [ht, List.append_nil]
    exact hd.last hr
  · rw [ht, List.dropLast_concat]
    exact hd.not_mem_of_taken hr hp ha

theorem step_shuts (h : s.Sound) (hd : s.Delivered d) (m : Move) (hr : d.role = .executor)
    (hmem : .shutdownExecutor ∈ History.handled (s.step m).endpoint.history) :
    (s.step m).ShutsDown := by
  have hrole := hd.same.1.trans hr
  rw [step_handled h m, List.mem_append] at hmem
  rcases hmem with hmem | hmem
  · exact step_shutsDown h m hrole (hd.shutsDown hr hmem)
  · rcases s.deliveries_taken m with ht | ⟨x, rest, rfl, hp, ha, ht⟩
    · rw [ht] at hmem; cases hmem
    · rw [ht, List.mem_singleton] at hmem
      obtain rfl := hmem
      exact take_shutsDown h rest hrole hp ha

theorem step (h : s.Sound) (hd : s.Delivered d) (m : Move) : (s.step m).Delivered d := by
  obtain ⟨hr, ht, hp⟩ := step_same h m
  exact ⟨⟨hr.trans hd.same.1, ht.trans hd.same.2.1, hp.trans hd.same.2.2⟩, hd.step_arrivals h m,
    hd.step_callbacks h m, fun _ => hd.step_untold h m, hd.step_last h m, hd.step_shuts h m⟩

end Delivered

theorem Begins.delivered {s : System} (h : s.Begins) : s.Delivered s.driver := by
  have hp : s.phase.pending = [] := by rw [h.phase]; rfl
  have hh : s.endpoint.history = [] := h.history
  refine ⟨⟨rfl, rfl, rfl⟩, ⟨[], ?_, fun hn => absurd rfl hn⟩, ⟨[], ?_, Or.inl rfl⟩, ?_, ?_, ?_⟩
  · rw [hh, hp]; rfl
  · rw [hh]; rfl
  · intro _ hmem
    rw [hh] at hmem
    simp [History.handled] at hmem
  · intro _
    rw [hh]
    simp [History.handled]
  · intro _ hmem
    rw [hh] at hmem
    simp [History.handled] at hmem

/-- The delivery of messages, from the time when the driver was made. -/
structure Delivery (s₀ s : System) : Prop extends
    Delivered s₀.driver s, Lent s₀.store.envelopes.length s where
  /-- A message is taken up in its turn if the driver is active then. -/
  turns : ∀ m rest, s.phase = .handling (m :: rest) →
    History.handled (s.step (.go .dispatch)).endpoint.history =
      History.handled s.endpoint.history ++ if s.driver.state.isActive then [m] else []
  /-- A message that the role has no use for changes nothing, and is noted. -/
  ignored : ∀ m rest, s.phase = .handling (m :: rest) → s.driver.state.isActive = true →
    s₀.driver.role.event? m = none →
    (s₀.driver.role = .executor → ∀ f uuid, m ≠ .statusUpdateAcknowledgement f uuid) →
    s.step (.go .dispatch) =
      { (s.record (.taken m)).note (.unexpected m) with phase := phaseFor rest }

theorem run_delivery {s : System} (h : s.Begins) (moves : List Move) :
    s.Delivery (s.run moves) := by
  have hd : (s.run moves).Delivered s.driver :=
    run_invariant (P := Delivered s.driver) (fun _ m ht hd => hd.step ht m) h.sound h.delivered
      moves
  have hsound := run_sound h.sound moves
  have hfirst : Lent s.store.envelopes.length s := by
    refine lent_of_all (by rw [h.phase]; rfl) fun k hk => ?_
    unfold Store.envelope
    rw [List.getD_eq_getElem?_getD, List.getElem?_eq_none hk]
    rfl
  have hl : Lent s.store.envelopes.length (s.run moves) :=
    run_invariant (P := Lent s.store.envelopes.length) (fun _ m ht hl => step_lent ht hl m) h.sound
      hfirst moves
  refine ⟨hd, hl, fun m rest hp => ?_, fun m rest hp ha hn hack => ?_⟩
  · rw [step_handled hsound]
    simp only [deliveries, threadTells, hp]
    split
    · have hc := (calls_told (s.run moves).driver m).2.1
      simp only [List.filterMap_cons, Event.taken?, hc]
    · rfl
  · rw [← hd.same.1] at hn hack
    have hre : (s.run moves).driver.reaction m = .ignore := by
      rcases Driver.reaction_of_none hn with ⟨hr, f, uuid, rfl, -⟩ | ⟨-, hre⟩
      · exact absurd rfl (hack hr f uuid)
      · exact hre
    rw [step_handling hp, handle, if_pos ha]
    exact take_ignored rest hn hre ha

/-- A scheduler gets two offers in one message, a status update and a message that is not for
schedulers. -/
def deliveringMoves : List Move :=
  [.call .start, .go (.caller 0), .go .dispatch, .go .dispatch, .go .dispatch, .go .dispatch,
    .go .dispatch,
    .arrive (.messages [.resourceOffers [[1], [2]], .statusUpdate [3] [], .shutdownExecutor]),
    .go .dispatch, .go .dispatch, .go .dispatch, .go .dispatch, .go .dispatch, .go .dispatch]

theorem sample_delivery : (sample [.resourceOffers] [] []).Begins ∧
    History.handled ((sample [.resourceOffers] [] []).run deliveringMoves).endpoint.history =
      [.resourceOffers [[1], [2]], .statusUpdate [3] [], .shutdownExecutor] ∧
    (sample [.resourceOffers] [] []).Delivery
      ((sample [.resourceOffers] [] []).run deliveringMoves) :=
  ⟨sample_begins _ _ _, rfl, run_delivery (sample_begins _ _ _) deliveringMoves⟩

/-- A text that is half of a pair. -/
def strayText : WideText := ⟨[⟨0xd800, by decide⟩]⟩

/-- The remote side tells such an error, and the dispatch thread goes on to its end. -/
def strayMoves : List Move :=
  [.call .start, .go (.caller 0), .go .dispatch, .go .dispatch, .go .dispatch, .go .dispatch,
    .go .dispatch, .arrive (.messages [.error strayText]), .go .dispatch, .go .dispatch,
    .go .dispatch, .go .dispatch, .go .dispatch]

/-- The error is taken up and the driver aborted for it, with an error callback to tell, which never
begins. -/
theorem stray_silenced : (sample [.error] [] []).Begins ∧
    ((sample [.error] [] []).run strayMoves).phase = .ended ∧
    ((sample [.error] [] []).run strayMoves).driver.state = .aborted ∧
    ((sample [.error] [] []).run strayMoves).driver.table.binds .error = true ∧
    History.handled ((sample [.error] [] []).run strayMoves).endpoint.history =
      [.error strayText] ∧
    History.callbacks ((sample [.error] [] []).run strayMoves).endpoint.history = [] :=
  ⟨sample_begins _ _ _, rfl, rfl, rfl, rfl, rfl⟩

end System

end ClusterLink
