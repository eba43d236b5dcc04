/-
# What the dispatch thread raises

What the dispatch thread calls may fail: the callback that runs, and the
transport as it connects, tells its address or receives. The failure is told
from the system before the move that makes the call (`System.raised?`).

If it is misuse, with that move the thread leaves its loop for good, and what
was lent to the callback is released (`System.Breaks`). And there is no other
move after which the thread is about to end with a failure
(`System.dispatch_cause`): a driver's own failures are not misuse
(`Endpoint.tick_ordinary`), and a callback that returns, or fails otherwise,
is followed by what it was to be followed by.

Key definitions: `System.raised?`, `System.Breaks`, `Phase.cause?`.
Key theorems: `System.dispatch_breaks`, `System.dispatch_cause`.
-/
import ClusterLink.Proofs.Ending
import ClusterLink.Proofs.Ruling

namespace ClusterLink

open History

/-- The failure of something that failed. -/
def Failure.of? {α : Type} : Except Failure α → Option Failure
  | .error f => some f
  | .ok _ => none

theorem Failure.of?_eq_some_iff {α : Type} {r : Except Failure α} {f : Failure} :
    Failure.of? r = some f ↔ r = .error f := by
  cases r with
  | error g =>
    exact ⟨fun h => congrArg _ (Option.some.inj h), fun h => congrArg _ (Except.error.inj h)⟩
  | ok a => exact ⟨fun h => (by cases h), fun h => (by cases h)⟩

/-- A call that is granted does not fail, unless it is a start. -/
theorem Region.grant_result {r : Region} {e : Endpoint} (hr : ∀ thenJoin, r ≠ .start thenJoin) :
    ∃ a, (r.grant e).result = .ok a := by
  cases r with
  | start thenJoin => exact absurd rfl (hr thenJoin)
  | condemn =>
    unfold grant
    dsimp only
    split <;> exact ⟨_, rfl⟩
  | _ => exact ⟨_, rfl⟩

/-- A call that fails on the dispatch thread spares the driver. -/
theorem Endpoint.conduct_spared {e : Endpoint} {errand : Errand} {f : Failure}
    (hc : e.driver.state ≠ .created) (h : (e.conduct errand).1 = .error f) :
    e.Spared (e.conduct errand).2 := by
  cases errand with
  | region r =>
    have ho : (e.region true r).1 = r.outcome true e := e.region_outcome true r
    have hlast : ∀ r', (e.region true r).1 ≠ .region r' := fun r' he =>
      Region.outcome_inside hc r' (ho.symm.trans he)
    have hconduct : e.conduct (.region r) = ((e.region true r).1.result, (e.region true r).2) := by
      unfold conduct
      dsimp only
      split
      · rename_i r' e' hr
        exact absurd (congrArg Prod.fst hr) (hlast r')
      · rename_i hr
        rw [hr]
    rw [hconduct] at h ⊢
    refine (region_turnedDown fun hg => ?_).1
    have hstart : ∀ thenJoin, r ≠ .start thenJoin := by
      rintro thenJoin rfl
      exact hc (Region.start_granted_iff.mp hg)
    obtain ⟨a, ha⟩ := Region.grant_result (e := e) hstart
    rw [ho, Region.outcome, hg] at h
    exact absurd (ha.symm.trans h) (fun hx => by cases hx)
  | _ => exact .refl e

namespace Endpoint

variable {e : Endpoint} {f : Failure}

theorem announce_ordinary {u : Update} (h : e.announce u = .error f) : f.isMisuse = false := by
  unfold announce at h
  dsimp only at h
  split at h
  · obtain rfl := Except.error.inj h
    decide
  · cases h

theorem resendFrom_ordinary {due : Update → Bool} {announced : Bool} {us : Ledger}
    (h : (e.resendFrom due announced us).1 = .error f) : f.isMisuse = false := by
  induction us generalizing e with
  | nil => cases h
  | cons u us ih =>
    by_cases hu : due u = true
    · rcases e.resendFrom_due announced us hu with ⟨-, g, hg, he⟩ | ⟨x, -, he⟩ <;> rw [he] at h
      · obtain rfl := Except.error.inj h
        exact announce_ordinary hg
      · exact ih h
    · rw [e.resendFrom_not_due announced us hu] at h
      exact ih h

/-- What a driver fails with by itself is not misuse. -/
theorem tick_ordinary (h : e.tick.1 = .error f) : f.isMisuse = false := by
  unfold tick at h
  split at h
  · cases h
  · split at h
    · rename_i g hg
      obtain rfl := Except.error.inj h
      unfold resendAge at hg
      split at hg
      · obtain rfl := Except.error.inj hg
        decide
      · obtain rfl := Except.error.inj hg
        decide
      · cases hg
    · exact resendFrom_ordinary h

end Endpoint

/-- The failure that the dispatch thread is about to end with. -/
def Phase.cause? : Phase → Option Failure
  | closing cause | signalling cause => cause
  | _ => none

theorem phaseFor_cause (ms : List Message) : (System.phaseFor ms).cause? = none := by
  cases ms <;> rfl

theorem After.phase_cause (after : After) : after.phase.cause? = none := by
  cases after with
  | message m rest => exact phaseFor_cause rest
  | pending | escaped => rfl

theorem Phase.Leads.cause {p p' : Phase} (h : p.Leads p') {f : Failure}
    (hc : p'.cause? = some f) : p.cause? = some f := by
  cases h with
  | gather ms => cases (phaseFor_cause ms).symm.trans hc
  | drop m rest => cases (phaseFor_cause rest).symm.trans hc
  | leave cause => exact hc
  | _ => cases hc

namespace System

variable {s t : System} {f : Failure} {frame frame' : Frame}

/-! ### What is raised -/

/-- The failure that a callback raises with the next thing that it does. -/
def broken? (s : System) (frame : Frame) : Option Failure :=
  match frame.actions with
  | .call c true :: _ => Failure.of? (s.callInside c).1
  | .raise f :: _ => some f
  | .keepViews :: _ => Failure.of? (s.keepViews frame.lent)
  | _ => none

/-- The failure that is raised by what the dispatch thread calls with its next move, unless it has
to wait: by the callback that runs, or by the transport as it connects, tells its address or
receives. -/
def raised? (s : System) : Option Failure :=
  let transport := s.endpoint.surroundings.transport
  if s.provides s.dispatchNeed then
    match s.phase with
    | .begun => if s.driver.attached then Failure.of? transport.connectStart.1 else none
    | .linking => Failure.of? transport.connectEnd.1
    | .entering => if s.driver.state = .started then Failure.of? transport.address else none
    | .receiving =>
      match s.refusal, s.inbox with
      | some f, _ => some f
      | none, [] => none
      | none, a :: _ =>
        Failure.of? (transport.receive s.driver.settings.receiveTimeout a).1
    | .calling frame => s.broken? frame
    | _ => none
  else none

/-- A failure leaves the dispatch loop for good, and what was lent to the callback that it
interrupts is released. -/
structure Breaks (f : Failure) (s s' : System) : Prop where
  phase : s'.phase = .closing (some f)
  pending : s'.driver.pendingError = s.driver.pendingError
  released : ∀ slot ids, s.phase.loan = some (slot, ids) →
    ∀ k ∈ ids, (s'.store.envelope k).released = true

theorem escape_breaks (hf : f.isMisuse = true) (hl : s.phase.loan = none)
    (hp : t.driver.pendingError = s.driver.pendingError) : Breaks f s (t.escape f) := by
  refine ⟨?_, ?_, fun slot ids hs => ?_⟩
  · rw [escape_phase, if_pos hf]
  · rw [escape_driver, hp]
  · rw [hl] at hs
    cases hs

theorem proceed_breaks {r : Except Failure Unit × Endpoint} {phase : Phase}
    (hr : r.1 = .error f) (hf : f.isMisuse = true) (hl : s.phase.loan = none)
    (hp : r.2.driver.pendingError = s.driver.pendingError) :
    Breaks f s (s.proceed r phase) := by
  unfold proceed
  rw [hr]
  exact escape_breaks hf hl hp

/-- Whatever the callback was to be followed by, misuse in it ends the dispatch loop. -/
theorem endCallback_breaks (hf : f.isMisuse = true) (hp : s.phase = .calling frame)
    (hl : frame'.lent = frame.lent) (ht : t.driver.pendingError = s.driver.pendingError) :
    Breaks f s (t.endCallback frame' (some f)) := by
  have hreleased : ∀ slot ids, s.phase.loan = some (slot, ids) → ∀ k ∈ ids,
      ((t.store.releaseAll frame'.lent).envelope k).released = true := by
    intro slot ids hs k hk
    rw [hp] at hs
    obtain ⟨-, rfl⟩ := Prod.mk.inj (Option.some.inj hs)
    rw [Store.envelope_releaseAll, hl, if_pos hk]
    rfl
  simp only [endCallback, hf, if_true]
  split
  · exact ⟨rfl, ht, hreleased⟩
  · refine ⟨by rw [escape_phase, if_pos hf], ?_, ?_⟩
    · rw [escape_driver]
      exact ht
    · rw [(escape_quiet _ f).1]
      exact hreleased

/-- A call from within a callback that fails leaves what is pending alone. -/
theorem callInside_pending {c : Call} (hc : s.driver.state ≠ .created)
    (h : (s.callInside c).1 = .error f) :
    (s.callInside c).2.driver.pendingError = s.driver.pendingError := by
  by_cases hask : ∃ i q, c = .ask i q
  · obtain ⟨i, q, rfl⟩ := hask
    show (s.ask i q).2.endpoint.driver.pendingError = _
    rw [(s.ask_eq i q).1]
  · rw [callInside_eq fun i q hi => hask ⟨i, q, hi⟩] at h ⊢
    exact congrArg Driver.pendingError (Endpoint.conduct_spared hc h).driver

/-- A callback that raises something ends by it. -/
theorem act_broken (h : s.broken? frame = some f) :
    ∃ (t : System) (actions : List Action),
      s.act frame = t.endCallback { frame with actions } (some f) ∧
        (s.driver.state ≠ .created → t.driver.pendingError = s.driver.pendingError) := by
  obtain ⟨slot, lent, actions, held, after⟩ := frame
  unfold broken? at h
  split at h
  · rename_i c actions' hactions
    obtain rfl : actions = .call c true :: actions' := hactions
    have hr : (s.callInside c).1 = .error f := Failure.of?_eq_some_iff.mp h
    refine ⟨(s.callInside c).2.record (.acted c.op (.error f)), actions', ?_, ?_⟩
    · simp only [act, hr]
    · exact fun hc => callInside_pending hc hr
  · rename_i g actions' hactions
    obtain rfl : actions = .raise g :: actions' := hactions
    obtain rfl := Option.some.inj h
    exact ⟨s, actions', rfl, fun _ => rfl⟩
  · rename_i actions' hactions
    obtain rfl : actions = .keepViews :: actions' := hactions
    have hr : s.keepViews lent = .error f := Failure.of?_eq_some_iff.mp h
    exact ⟨s, actions', by simp only [act, hr], fun _ => rfl⟩
  · cases h

/-- One that raises nothing goes on, or is followed by what it was to be. -/
theorem act_unbroken (h : s.broken? frame = none) : (s.act frame).phase.cause? = none := by
  obtain ⟨slot, lent, actions, held, after⟩ := frame
  cases actions with
  | nil =>
    show (resume _ after).phase.cause? = none
    rw [resume_phase]
    exact after.phase_cause
  | cons a actions =>
    cases a with
    | call c passOn =>
      simp only [act]
      split
      · rename_i g hr
        have hg : Failure.of? (s.callInside c).1 = none := h
        rw [hr] at hg
        cases hg
      · rfl
    | raise g => cases h
    | keepViews =>
      simp only [act]
      split
      · rfl
      · rename_i g hr
        have hg : Failure.of? (s.keepViews lent) = none := h
        rw [hr] at hg
        cases hg
    | _ => rfl

/-! ### The move that raises it -/

/-- The driver fails to connect just if its transport does. -/
theorem connectEnd_error_iff (e : Endpoint) (f : Failure) :
    e.connectEnd.1 = .error f ↔ e.surroundings.transport.connectEnd.1 = .error f := by
  have hu : (e.useTransport Transport.connectEnd).1 = e.surroundings.transport.connectEnd.1 := rfl
  unfold Endpoint.connectEnd
  rw [← hu]
  cases e.useTransport Transport.connectEnd with
  | mk r e' =>
    cases r with
    | error g => exact Iff.rfl
    | ok _ =>
      dsimp only
      split <;> exact ⟨fun h => (by cases h), fun h => (by cases h)⟩

/-- Misuse that is raised leaves the dispatch loop for good. -/
theorem dispatch_breaks (hs : s.Sound) (hr : s.raised? = some f) (hf : f.isMisuse = true) :
    s.step (.go .dispatch) = s.dispatch ∧ Breaks f s s.dispatch := by
  unfold raised? at hr
  dsimp only at hr
  split at hr
  swap
  · cases hr
  rename_i hprovided
  refine ⟨by simp only [step, need, hprovided, if_true, advance], ?_⟩
  cases hp : s.phase with
  | begun =>
    rw [hp] at hr
    dsimp only at hr
    split at hr
    swap
    · cases hr
    rename_i ha
    simp only [dispatch, hp, ha, if_true]
    exact proceed_breaks (Failure.of?_eq_some_iff.mp hr) hf (by rw [hp]; rfl) rfl
  | linking =>
    rw [hp] at hr
    simp only [dispatch, hp]
    refine proceed_breaks ?_ hf (by rw [hp]; rfl) ?_
    · exact (connectEnd_error_iff _ f).mpr (Failure.of?_eq_some_iff.mp hr)
    · rw [Endpoint.connectEnd_driver]
  | entering =>
    rw [hp] at hr
    dsimp only at hr
    split at hr
    swap
    · cases hr
    rename_i hst
    have haddress := Failure.of?_eq_some_iff.mp hr
    simp only [dispatch, hp]
    rcases s.endpoint.enter_cases with ⟨hn, -⟩ | ⟨-, g, hg, he⟩ | ⟨-, replyTo, hok, -⟩
    · exact absurd hst hn
    · obtain rfl := Except.error.inj (hg.symm.trans haddress)
      rw [he]
      exact proceed_breaks rfl hf (by rw [hp]; rfl) rfl
    · cases hok.symm.trans haddress
  | receiving =>
    rw [hp] at hr
    simp only [dispatch, hp]
    cases hn : s.refusal with
    | some g =>
      rw [hn] at hr
      obtain rfl := Option.some.inj hr
      exact escape_breaks hf (by rw [hp]; rfl) rfl
    | none =>
      rw [hn] at hr
      cases hi : s.inbox with
      | nil =>
        rw [hi] at hr
        cases hr
      | cons a inbox =>
        rw [hi] at hr
        have hreceive := Failure.of?_eq_some_iff.mp hr
        dsimp only
        unfold receive
        dsimp only
        split
        · rename_i hok
          cases hok.symm.trans hreceive
        · rename_i g hg
          obtain rfl := Except.error.inj (hg.symm.trans hreceive)
          exact escape_breaks hf (by rw [hp]; rfl) rfl
  | calling frame =>
    rw [hp] at hr
    have hheld : frame.held = false := by
      cases hheld : frame.held with
      | false => rfl
      | true => simp [dispatchNeed, hp, hheld, provides] at hprovided
    have hc : s.driver.state ≠ .created :=
      hs.admits.ne_created (by rw [hp]; exact Phase.noConfusion)
    obtain ⟨t, actions, hact, hpending⟩ := act_broken hr
    simp only [dispatch, hp, hheld]
    rw [hact]
    exact endCallback_breaks hf hp rfl (hpending hc)
  | _ =>
    rw [hp] at hr
    cases hr

/-! ### Only that move begins the way out -/

theorem escape_cause {g : Failure} (h : (t.escape g).phase.cause? = some f) :
    g = f ∧ f.isMisuse = true := by
  rw [escape_phase] at h
  split at h
  · rename_i hg
    obtain rfl := Option.some.inj h
    exact ⟨rfl, hg⟩
  · cases h

theorem proceed_cause {r : Except Failure Unit × Endpoint} {phase : Phase}
    (hn : phase.cause? = none) (h : (t.proceed r phase).phase.cause? = some f) :
    r.1 = .error f ∧ f.isMisuse = true := by
  unfold proceed at h
  dsimp only at h
  split at h
  · cases hn.symm.trans h
  · rename_i g hg
    obtain ⟨rfl, hf⟩ := escape_cause h
    exact ⟨hg, hf⟩

theorem receive_cause {a : Arrival} (h : (t.receive a).phase.cause? = some f) :
    (t.endpoint.surroundings.transport.receive t.driver.settings.receiveTimeout a).1 = .error f ∧
      f.isMisuse = true := by
  unfold receive at h
  dsimp only at h
  split at h
  · cases (phaseFor_cause _).symm.trans h
  · rename_i g hg
    obtain ⟨rfl, hf⟩ := escape_cause h
    exact ⟨hg, hf⟩

theorem endCallback_cause {g : Failure}
    (h : (t.endCallback frame (some g)).phase.cause? = some f) : g = f ∧ f.isMisuse = true := by
  by_cases hg : g.isMisuse = true
  · simp only [endCallback, hg, if_true] at h
    split at h
    · obtain rfl := Option.some.inj h
      exact ⟨rfl, hg⟩
    · exact escape_cause h
  · have hg : g.isMisuse = false := by simpa using hg
    simp only [endCallback, hg, Bool.false_eq_true, if_false] at h
    rw [resume_phase] at h
    cases frame.after.phase_cause.symm.trans h

theorem invoke_uncaused (t : System) (slot : Slot) (args : List Parameter) (after : After) :
    (t.invoke slot args after).phase.cause? = none := by
  unfold invoke
  split
  · rfl
  · rw [resume_phase]
    exact after.phase_cause

/-- What a driver fails with as it is told of an error is not misuse. -/
theorem fail_uncaused (t : System) (message : WideText) (after : After) :
    (t.fail message after).phase.cause? = none := by
  rcases t.fail_cases message after with ⟨-, b, -, he⟩ | ⟨-, -, he⟩ | ⟨-, he⟩ <;> rw [he]
  · exact invoke_uncaused _ _ _ _
  · rw [escape_phase]
    rfl
  · rw [resume_phase]
    exact after.phase_cause

theorem handle_uncaused (t : System) (ms : List Message) : (t.handle ms).phase.cause? = none := by
  cases ms with
  | nil => rfl
  | cons m rest =>
    simp only [handle]
    split
    · unfold take
      dsimp only
      split
      · exact invoke_uncaused _ _ _ _
      · exact phaseFor_cause rest
      · exact fail_uncaused _ _ _
      · exact phaseFor_cause rest
    · exact phaseFor_cause rest

/-- Only where a failure can leave the dispatch loop the way out with one begins. -/
theorem Next.exposed (h : s.Next t) (hc : t.phase.cause? = some f)
    (hn : s.phase.cause? ≠ some f) : s.phase.isExposed = true := by
  cases h with
  | stay hp => exact absurd (hp ▸ hc) hn
  | lead hl => exact absurd (hl.cause hc) hn
  | quit _ hp _ | fault _ hp _ | begin _ _ hp _ _ | act _ hp _ _ =>
    rw [hp] at hc
    cases hc
  | resume _ hp _ =>
    rw [hp] at hc
    cases (After.phase_cause _).symm.trans hc
  | escape he _ _ => exact he
  | misuse hp _ _ _ =>
    rw [hp]
    rfl

/-- The way out with a failure begins only if it is raised, and misuse. -/
theorem dispatch_cause (hp : s.provides s.dispatchNeed = true) (hn : s.phase.cause? ≠ some f)
    (h : s.dispatch.phase.cause? = some f) : s.raised? = some f ∧ f.isMisuse = true := by
  have hexposed := s.dispatch_next.exposed h hn
  unfold raised?
  rw [if_pos hp]
  cases hph : s.phase with
  | begun =>
    simp only [dispatch, hph] at h
    dsimp only
    split at h
    · rename_i ha
      rw [if_pos ha]
      obtain ⟨hr, hf⟩ := proceed_cause rfl h
      exact ⟨Failure.of?_eq_some_iff.mpr hr, hf⟩
    · cases h
  | linking =>
    simp only [dispatch, hph] at h
    obtain ⟨hr, hf⟩ := proceed_cause rfl h
    exact ⟨Failure.of?_eq_some_iff.mpr ((connectEnd_error_iff _ f).mp hr), hf⟩
  | entering =>
    simp only [dispatch, hph] at h
    dsimp only
    obtain ⟨hr, hf⟩ := proceed_cause rfl h
    rcases s.endpoint.enter_cases with ⟨-, he⟩ | ⟨hs, g, hg, he⟩ | ⟨-, replyTo, -, he⟩ <;>
      rw [he] at hr
    · cases hr
    · obtain rfl := Except.error.inj hr
      rw [if_pos hs]
      exact ⟨Failure.of?_eq_some_iff.mpr hg, hf⟩
    · cases hr
  | receiving =>
    simp only [dispatch, hph] at h
    cases hg : s.refusal with
    | some g =>
      rw [hg] at h
      obtain ⟨rfl, hf⟩ := escape_cause h
      exact ⟨rfl, hf⟩
    | none =>
      rw [hg] at h
      cases hi : s.inbox with
      | nil =>
        rw [hi] at h
        rw [hph] at h
        cases h
      | cons a inbox =>
        rw [hi] at h
        obtain ⟨hr, hf⟩ := receive_cause h
        exact ⟨Failure.of?_eq_some_iff.mpr hr, hf⟩
  | handling ms =>
    simp only [dispatch, hph] at h
    cases (s.handle_uncaused ms).symm.trans h
  | ticking =>
    simp only [dispatch, hph] at h
    split at h
    · obtain ⟨hr, hf⟩ := proceed_cause rfl h
      exact absurd ((Endpoint.tick_ordinary hr).symm.trans hf) Bool.noConfusion
    · cases h
  | calling frame =>
    simp only [dispatch, hph] at h
    dsimp only
    split at h
    · rw [hph] at h
      cases h
    · cases hb : s.broken? frame with
      | none => cases (act_unbroken hb).symm.trans h
      | some g =>
        obtain ⟨t, actions, hact, -⟩ := act_broken hb
        rw [hact] at h
        obtain ⟨rfl, hf⟩ := endCallback_cause h
        exact ⟨rfl, hf⟩
  | _ =>
    rw [hph] at hexposed
    cases hexposed

end System

end ClusterLink
