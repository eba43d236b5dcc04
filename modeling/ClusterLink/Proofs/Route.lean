/-
# The route of the dispatch thread

From which phase the dispatch thread goes to which, and why
(`System.Next`). Most of its moves take it one stage further
(`Phase.Leads`). Where a callback may run, it is settled beforehand what
follows on it (`Phase.after?`, `After.phase`): either the callback begins, or
the thread goes on at once, and a callback that ends goes on there as well.
The other ways are out: a failure leaves the dispatch loop and is on record,
or the driver is not active any more.

What is to hold of every phase is shown by cases of `System.Next`, once for
each way that the thread can go.

Key definitions: `Phase.Leads`, `Phase.after?`, `After.phase`, `System.Next`.
Key theorem: `System.dispatch_next`.
-/
import ClusterLink.Proofs.Delivery

namespace ClusterLink

/-- The phase that follows without a condition that is worth telling. -/
inductive Phase.Leads : Phase → Phase → Prop
  | connect : Leads begun linking
  /-- The transport is gone. -/
  | strand : Leads begun ended
  | link : Leads linking entering
  | join : Leads entering checking
  | check : Leads checking deciding
  | listen : Leads deciding receiving
  | gather (ms : List Message) : Leads receiving (System.phaseFor ms)
  | drop (m : Message) (rest : List Message) : Leads (handling (m :: rest)) (System.phaseFor rest)
  | finish : Leads (handling []) ticking
  | tick : Leads ticking checking
  | leave (cause : Option Failure) : Leads (closing cause) (signalling cause)
  | signal (cause : Option Failure) : Leads (signalling cause) ended

/-- What the dispatch thread goes on with after the callback that it may make. -/
def Phase.after? : Phase → Option After
  | handling (m :: rest) => some (.message m rest)
  | reporting _ => some .pending
  | escaped _ => some .escaped
  | calling frame => some frame.after
  | _ => none

/-- Whether a failure can leave the dispatch loop. -/
def Phase.isExposed : Phase → Bool
  | begun | linking | entering | receiving | handling _ | ticking | calling _ => true
  | _ => false

/-- The phase in which the dispatch thread goes on. -/
def After.phase : After → Phase
  | message _ rest => System.phaseFor rest
  | pending | escaped => .closing none

/-- Whether the callback reports a failure of the driver itself. -/
def After.isAlarm : After → Bool
  | message .. => false
  | pending | escaped => true

namespace System

/-- The way that the dispatch thread goes with a move. -/
inductive Next (s s' : System) : Prop
  | stay (hp : s'.phase = s.phase)
  | lead (hp : s.phase.Leads s'.phase)
  /-- The dispatch loop ends, as the driver was shut down. -/
  | quit (hp : s.phase = .checking) (hp' : s'.phase = .closing none)
    (hs : s'.driver.state.isActive = false)
  | fault {f : Failure} (hp : s.phase = .deciding) (hp' : s'.phase = .reporting f)
    (hf : s.driver.pendingError = some f)
  /-- A callback begins. -/
  | begin {frame : Frame} (hc : ∀ g, s.phase ≠ .calling g) (ha : s.phase.after? = some frame.after)
    (hp' : s'.phase = .calling frame)
    (hs : frame.after.isAlarm = true → s'.driver.state.isActive = false)
    (hb : frame.slot ∈ History.begun s'.endpoint.history)
  /-- A callback goes on. -/
  | act {frame frame' : Frame} (hp : s.phase = .calling frame) (hp' : s'.phase = .calling frame')
    (ha : frame'.after = frame.after) (hslot : frame'.slot = frame.slot)
  /-- A callback ends, or there is none. -/
  | resume {after : After} (ha : s.phase.after? = some after) (hp' : s'.phase = after.phase)
    (hs : (∀ g, s.phase ≠ .calling g) → after.isAlarm = true → s'.driver.state.isActive = false)
  /-- A failure leaves the dispatch loop; misuse is not reported. -/
  | escape {f : Failure} (hp : s.phase.isExposed = true)
    (hp' : s'.phase = if f.isMisuse then .closing (some f) else .escaped f)
    (hf : .escaped f ∈ s'.endpoint.history)
  /-- Misuse in the callback that reports a failure which left the loop. -/
  | misuse {frame : Frame} {f : Failure} (hp : s.phase = .calling frame)
    (hp' : s'.phase = .closing (some f)) (hm : f.isMisuse = true)
    (hf : .broke frame.slot f ∈ s'.endpoint.history)

/-! ### Operations of the dispatch thread -/

variable {s t : System}

theorem resume_phase (s : System) (after : After) : (s.resume after).phase = after.phase := by
  cases after <;> rfl

theorem escape_phase (s : System) (f : Failure) :
    (s.escape f).phase = if f.isMisuse then .closing (some f) else .escaped f := by
  unfold escape
  dsimp only
  split <;> rfl

theorem escape_ne_calling (s : System) (f : Failure) (frame : Frame) :
    (s.escape f).phase ≠ .calling frame := by
  rw [escape_phase]
  split <;> exact Phase.noConfusion

theorem escape_history (s : System) (f : Failure) : (s.escape f).endpoint.history =
    .noted (if f.isMisuse then .misused else .loopFailed) :: .escaped f :: s.endpoint.history := by
  unfold escape
  dsimp only
  split <;> rfl

theorem escape_next (f : Failure) (hp : s.phase.isExposed = true) : s.Next (t.escape f) :=
  .escape hp (t.escape_phase f) (by simp [escape_history])

theorem proceed_next {r : Except Failure Unit × Endpoint} {phase : Phase}
    (hl : s.phase.Leads phase) (hp : s.phase.isExposed = true) : s.Next (t.proceed r phase) := by
  unfold proceed
  dsimp only
  split
  · exact .lead hl
  · exact escape_next _ hp

/-- Where a callback may run, either one begins, or the thread goes on at once. -/
theorem invoke_next {after : After} (slot : Slot) (args : List Parameter)
    (hc : ∀ g, s.phase ≠ .calling g) (ha : s.phase.after? = some after)
    (hs : after.isAlarm = true → t.driver.state.isActive = false) :
    s.Next (t.invoke slot args after) := by
  unfold invoke
  split
  · exact .begin hc ha rfl hs (by simp [record, Endpoint.record, Event.begun?])
  · refine .resume ha (t.resume_phase after) fun _ halarm => ?_
    rw [resume_of_inactive t after (hs halarm)]
    exact hs halarm

theorem fail_next {after : After} {message : WideText} (hc : ∀ g, s.phase ≠ .calling g)
    (ha : s.phase.after? = some after) (hx : message.utf8? = none → s.phase.isExposed = true) :
    s.Next (t.fail message after) := by
  rcases t.fail_cases message after with ⟨-, b, -, he⟩ | ⟨-, hb, he⟩ | ⟨hi, he⟩ <;> rw [he]
  · exact invoke_next .error _ hc ha fun _ => rfl
  · exact escape_next _ (hx hb)
  · refine .resume ha (resume_phase _ after) fun _ _ => ?_
    rw [resume_of_inactive (t.note (.failedLate message)) after hi]
    exact hi

theorem endCallback_next {frame frame' : Frame} (failure : Option Failure)
    (hp : s.phase = .calling frame) (hslot : frame'.slot = frame.slot)
    (hafter : frame'.after = frame.after) : s.Next (t.endCallback frame' failure) := by
  have ha : s.phase.after? = some frame'.after := by rw [hp, hafter]; rfl
  have hgo : ∀ t' : System, s.Next (t'.resume frame'.after) := fun t' =>
    .resume ha (t'.resume_phase _) fun hc => absurd hp (hc frame)
  cases failure with
  | none => exact hgo _
  | some f =>
    by_cases hf : f.isMisuse = true
    · simp only [endCallback, hf, if_true]
      split
      · refine .misuse hp rfl hf ?_
        rw [hslot]
        exact List.mem_cons_of_mem _ List.mem_cons_self
      · exact escape_next f (by rw [hp]; rfl)
    · have hf : f.isMisuse = false := by simpa using hf
      simp only [endCallback, hf, Bool.false_eq_true, if_false]
      exact hgo _

theorem act_next {frame : Frame} (hp : s.phase = .calling frame) : s.Next (s.act frame) := by
  rcases s.act_cases frame with ⟨actions, held, hp', -⟩ | ⟨t, actions, failure, he, -⟩
  · exact .act hp hp' rfl rfl
  · rw [he]
    exact endCallback_next failure hp rfl rfl

theorem take_next {m : Message} {rest : List Message} (hp : s.phase = .handling (m :: rest)) :
    s.Next (s.take m rest) := by
  have hc : ∀ g, s.phase ≠ .calling g := fun g => by rw [hp]; exact Phase.noConfusion
  have ha : s.phase.after? = some (.message m rest) := by rw [hp]; rfl
  have hdrop : s.phase.Leads (phaseFor rest) := by rw [hp]; exact .drop m rest
  unfold take
  dsimp only
  split
  · exact invoke_next _ _ hc ha Bool.noConfusion
  · exact .lead hdrop
  · exact fail_next hc ha fun _ => by rw [hp]; rfl
  · exact .lead hdrop

theorem handle_next {ms : List Message} (hp : s.phase = .handling ms) : s.Next (s.handle ms) := by
  cases ms with
  | nil => exact .lead (by rw [hp]; exact .finish)
  | cons m rest =>
    simp only [handle]
    split
    · exact take_next hp
    · exact .lead (by rw [hp]; exact .drop m rest)

theorem receive_next (a : Arrival) (hp : s.phase = .receiving) : s.Next (t.receive a) := by
  unfold receive
  dsimp only
  split
  · exact .lead (by rw [hp]; exact .gather _)
  · exact escape_next _ (by rw [hp]; rfl)

/-- What a failure is shown as can be told. -/
theorem fail_shown_next {after : After} {f : Failure} (hc : ∀ g, s.phase ≠ .calling g)
    (ha : s.phase.after? = some after) : s.Next (s.fail f.shown after) :=
  fail_next hc ha fun hx => by rw [WideText.utf8?_ofString] at hx; cases hx

/-- The way that the dispatch thread goes with its next move. -/
theorem dispatch_next (s : System) : s.Next s.dispatch := by
  unfold dispatch
  split
  all_goals rename_i hp
  · exact .stay rfl
  · exact .stay rfl
  · split
    · exact proceed_next (by rw [hp]; exact .connect) (by rw [hp]; rfl)
    · exact .lead (by rw [hp]; exact .strand)
  · exact proceed_next (by rw [hp]; exact .link) (by rw [hp]; rfl)
  · exact proceed_next (by rw [hp]; exact .join) (by rw [hp]; rfl)
  · by_cases ha : s.driver.state.isActive = true
    · rw [if_pos ha]
      exact .lead (by rw [hp]; exact .check)
    · rw [if_neg ha]
      exact .quit hp rfl (by simpa using ha)
  · split
    · rename_i f hf
      exact .fault hp rfl hf
    · exact .lead (by rw [hp]; exact .listen)
  · exact fail_shown_next (fun g => by rw [hp]; exact Phase.noConfusion) (by rw [hp]; rfl)
  · split
    · exact escape_next _ (by rw [hp]; rfl)
    · exact .stay rfl
    · exact receive_next _ hp
  · exact handle_next hp
  · split
    · exact proceed_next (by rw [hp]; exact .tick) (by rw [hp]; rfl)
    · exact .lead (by rw [hp]; exact .tick)
  · exact fail_shown_next (fun g => by rw [hp]; exact Phase.noConfusion) (by rw [hp]; rfl)
  · split
    · exact .stay rfl
    · exact act_next hp
  · rename_i cause
    exact .lead (by rw [hp]; exact .leave cause)
  · rename_i cause
    have hl : s.phase.Leads .ended := by rw [hp]; exact .signal cause
    dsimp only
    split <;> exact .lead hl

end System

end ClusterLink
