/-
# Idle drivers

A driver is left idle if nothing is ordered and nothing arrives
(`Move.isIdle`): a receive may wait and find nothing, and anybody may start,
stop, abort, destroy, join and inspect. Over a transport that never fails it
then rests (`System.Rests`): it has nothing to send, nothing waits for it,
and its dispatch thread stands where only an overflow can lead it out of the
loop. Every move keeps that but one, by which the loop aborts the driver.

Two conversions can overflow (`System.Overflows`): of the receive timeout,
which only sockets need, and of the resend period, which only an executor
needs. If neither does, then no failure leaves the loop. If one does, the
dispatch thread comes nearer to it by each of its moves (`System.Paces`,
where `Phase.rank` counts down), so that an active driver is aborted within
a round. Validation bounds the spans from below only, so there are accepted
settings with which a driver cannot stay idle.

Key definitions: `Move.isIdle`, `Phase.rank`, `System.Overflows`,
`System.Rests`, `System.Paces`, `System.Undisturbed`, `System.BeginsWell`,
`System.Usable`.
Key theorems: `System.dispatch_paces`, `System.others_rests`,
`System.run_rests`, `System.Rests.falls`, `System.run_usable`.
-/
import ClusterLink.Proofs.Calm

namespace ClusterLink

open History (Called)

open Endpoint (Blank Silent)

/-- Whether the driver is left idle: nothing is ordered, and nothing arrives. -/
def Move.isIdle : Move → Bool
  | arrive a => a.isEmpty
  | call (.order _) => false
  | _ => true

/-- How many moves the dispatch thread makes before it is back in its loop, or out of it. -/
def Phase.rank : Phase → Nat
  | begun => 8
  | linking => 7
  | entering => 6
  | checking => 5
  | deciding => 4
  | receiving => 3
  | ticking => 2
  | escaped _ => 1
  | _ => 0

theorem Phase.rank_le (p : Phase) : p.rank ≤ 8 := by
  cases p <;> simp [rank]

namespace System

variable {s s' : System} {excess : Prop}

/-- A conversion overflows that the dispatch loop makes: of the receive timeout, which only sockets
need, or of the resend period of an executor. -/
def Overflows (s : System) : Prop :=
  (s.transport.overSockets = true ∧ s.driver.settings.receiveTimeout.Overflows 1000) ∨
    (s.driver.role = .executor ∧ s.driver.settings.resendPeriod.Overflows 1000000000)

/-- Where the dispatch thread of a driver that rests may be. -/
def stands (s : System) : Phase → Prop
  | .idle | .begun => s.transport.Healthy
  | .linking | .entering | .checking | .deciding | .receiving => s.transport.Open
  | .ticking => s.transport.Open ∧ s.refusal = none
  | .escaped f => f = .infiniteSpan ∧ .escaped f ∈ s.endpoint.history ∧ s.Overflows
  | .closing cause => cause = none ∧ s.driver.state.isShut = true
  | .signalling cause => cause = none
  | .ended => True
  | .reporting _ | .handling _ | .calling _ => False

/-- A driver rests: there is nothing to send and nothing to take up, and no failure left its loop
but by an overflow. -/
structure Rests (excess : Prop) (s : System) : Prop where
  spans : s.driver.settings.receiveTimeout ≠ .nan ∧ s.driver.settings.resendPeriod ≠ .nan
  overflows : s.Overflows ↔ excess
  blank : s.endpoint.Blank
  inbox : ∀ a ∈ s.inbox, a.isEmpty = true
  calls : ∀ x ∈ s.callers, ∀ o, x.call ≠ .order o
  escaped : ∀ f, .escaped f ∈ s.endpoint.history → f = .infiniteSpan ∧ excess
  called : s.driver.state = .aborted → Called s.endpoint.history
  stands : s.stands s.phase

theorem overflows_iff (hs : s'.driver.settings = s.driver.settings)
    (hr : s'.driver.role = s.driver.role)
    (hk : s'.transport.overSockets = s.transport.overSockets) : s'.Overflows ↔ s.Overflows := by
  unfold Overflows
  rw [hs, hr, hk]

/-- A driver that goes on silently rests still. -/
theorem Rests.silent (hx : s.Rests excess) (hs : Silent s.endpoint s'.endpoint)
    (hk : s'.transport.overSockets = s.transport.overSockets)
    (hi : ∀ a ∈ s'.inbox, a.isEmpty = true)
    (hc : ∀ x ∈ s'.callers, ∀ o, x.call ≠ .order o)
    (ha : s'.driver.state = .aborted → s.driver.state = .aborted ∨ Called s'.endpoint.history)
    (hp : s'.stands s'.phase) : s'.Rests excess := by
  refine ⟨by rw [hs.settings]; exact hx.spans,
    (overflows_iff hs.settings hs.role hk).trans hx.overflows, hs.blank hx.blank, hi, hc,
    fun f hf => hx.escaped f (hs.escaped hf), fun hst => ?_, hp⟩
  rcases ha hst with hst | hcalled
  · exact (hx.called hst).mono hs.suffix
  · exact hcalled

/-- Wherever the dispatch thread may be, it may be there after silence, the transport being the
same. -/
theorem stands_silent (hs : Silent s.endpoint s'.endpoint) (ht : s'.transport = s.transport)
    (hshut : s.driver.state.isShut = true → s'.driver.state.isShut = true) {p : Phase}
    (hp : s.stands p) : s'.stands p := by
  cases p with
  | escaped f =>
    obtain ⟨hf, hm, ho⟩ := hp
    exact ⟨hf, hs.suffix.mem hm,
      (overflows_iff hs.settings hs.role (congrArg Transport.overSockets ht)).mpr ho⟩
  | closing cause => exact ⟨hp.1, hshut hp.2⟩
  | ticking =>
    obtain ⟨ho, hr⟩ := hp
    refine ⟨ht.symm ▸ ho, ?_⟩
    rw [← hr]
    unfold refusal
    rw [hs.settings]
    exact congrArg (Transport.refusal _) ht
  | idle | begun =>
    show s'.transport.Healthy
    rw [ht]
    exact hp
  | linking | entering | checking | deciding | receiving =>
    show s'.transport.Open
    rw [ht]
    exact hp
  | signalling cause => exact hp
  | ended => trivial
  | reporting f => exact hp.elim
  | handling ms => exact hp.elim
  | calling frame => exact hp.elim

/-! ### The dispatch thread -/

/-- A move of the dispatch thread of a driver that rests. As long as the driver is active, the
thread gets nearer to the conversion that overflows, if there is one. -/
structure Paces (excess : Prop) (s s' : System) : Prop where
  rests : s'.Rests excess
  onward : excess → s.driver.state.isActive = true →
    s'.driver.state.isActive = true ∧ s'.phase.rank < s.phase.rank

/-- A piece of work that succeeds brings the dispatch thread to the next phase. -/
theorem proceed_paces (hx : s.Rests excess) {r : Except Failure Unit × Endpoint} {phase : Phase}
    (hr : s.endpoint.Succeeds r ())
    (hp : ({ s with endpoint := r.2, phase } : System).stands phase)
    (hrank : excess → phase.rank < s.phase.rank) : s.Paces excess (s.proceed r phase) := by
  have he : s.proceed r phase = { s with endpoint := r.2, phase } := by
    unfold proceed
    rw [hr.result]
  rw [he]
  exact ⟨hx.silent hr.silent hr.kind hx.inbox hx.calls (fun ha => Or.inl (hr.aborted ha)) hp,
    fun ho ha => ⟨hr.active ha, hrank ho⟩⟩

/-- An overflow leaves the loop. -/
theorem escape_paces (hx : s.Rests excess) (ho : s.Overflows) (hrank : 1 < s.phase.rank) :
    s.Paces excess (s.escape .infiniteSpan) := by
  have he : s.escape .infiniteSpan =
      { (s.record (.escaped .infiniteSpan)).note .loopFailed with
        phase := .escaped .infiniteSpan } := rfl
  rw [he]
  refine ⟨⟨hx.spans, hx.overflows, ?_, hx.inbox, hx.calls, fun f hf => ?_, fun ha => ?_, rfl, ?_,
    ho⟩, fun _ ha => ⟨ha, hrank⟩⟩
  · exact ⟨hx.blank.backlog, hx.blank.pendingError, hx.blank.inflight, hx.blank.farewell⟩
  · rcases List.mem_cons.mp hf with hf | hf
    · cases hf
    rcases List.mem_cons.mp hf with hf | hf
    · exact ⟨Event.escaped.inj hf, hx.overflows.mp ho⟩
    · exact hx.escaped f hf
  · exact (hx.called ha).mono ((List.suffix_cons _ _).trans (List.suffix_cons _ _))
  · exact List.mem_cons_of_mem _ List.mem_cons_self

/-- A move that changes nothing but the phase. -/
theorem phase_paces (hx : s.Rests excess) {p : Phase} (hp : s.stands p)
    (hrank : excess → s.driver.state.isActive = true → p.rank < s.phase.rank) :
    s.Paces excess { s with phase := p } := by
  refine ⟨hx.silent (.refl _) rfl hx.inbox hx.calls Or.inl ?_, fun ho ha => ⟨ha, hrank ho ha⟩⟩
  exact stands_silent (s := s) (.refl _) rfl id hp

/-- A receive that overflows leaves the loop. -/
theorem receiving_escapes (hx : s.Rests excess) (hp : s.phase = .receiving)
    (ho : s.Overflows) (hr : s.refusal = some .infiniteSpan) : s.Paces excess s.dispatch := by
  let t : System := { s with endpoint := s.endpoint.record (.received (.error .infiniteSpan)) }
  have ht : t.Rests excess := by
    refine hx.silent (.record fun _ => Event.noConfusion) rfl hx.inbox hx.calls Or.inl ?_
    have hst := hx.stands
    show t.stands s.phase
    rw [hp] at hst ⊢
    exact hst
  have hd : s.dispatch = t.escape .infiniteSpan := by
    simp only [dispatch, hp, hr]
    rfl
  have hpaces := escape_paces ht ho (show 1 < s.phase.rank by rw [hp]; decide)
  rw [hd]
  exact ⟨hpaces.rests, hpaces.onward⟩

/-- A receive that does not overflow finds nothing, and the periodic work comes next. -/
theorem receiving_idles (hx : s.Rests excess) (hp : s.phase = .receiving)
    (hn : s.provides (s.need .dispatch) = true) (hr : s.refusal = none)
    (hnot : ¬ (s.transport.overSockets = true ∧
      s.driver.settings.receiveTimeout.Overflows 1000)) : s.Paces excess s.dispatch := by
  have ho : s.transport.Open := by
    have hst := hx.stands
    rwa [hp] at hst
  obtain ⟨a, inbox, hin⟩ : ∃ a inbox, s.inbox = a :: inbox := by
    refine List.exists_cons_of_ne_nil fun hnil => ?_
    simp [need, dispatchNeed, hp, hr, provides, hnil] at hn
  have ha : a.isEmpty = true := hx.inbox a (by rw [hin]; exact List.mem_cons_self)
  have hrec := Endpoint.useTransport_succeeds (e := s.endpoint)
    (f := Transport.receive s.driver.settings.receiveTimeout a) (ho.receive hr ha)
  obtain ⟨r, e, hru⟩ : ∃ r e, s.endpoint.useTransport
      (Transport.receive s.driver.settings.receiveTimeout a) = (r, e) := ⟨_, _, rfl⟩
  rw [hru] at hrec
  obtain rfl : r = .ok [] := hrec.result
  let t : System := { s with inbox, endpoint := e.record (.received (.ok [])), phase := .ticking }
  have hd : s.dispatch = t := by
    simp only [dispatch, hp, hr, hin, receive, hru]
    rfl
  have hopen : t.transport.Open := hrec.opened
  have hsilent : Silent s.endpoint t.endpoint :=
    hrec.silent.trans (.record fun _ => Event.noConfusion)
  have hagain : t.refusal = none := by
    rw [← hsilent.settings] at hnot
    rcases hopen.refusal (hsilent.settings ▸ hx.spans.1) with ⟨hk, hover, -⟩ | ⟨-, hr⟩
    · exact absurd ⟨hrec.kind ▸ hk, hover⟩ hnot
    · exact hr
  have hrest : ∀ b ∈ t.inbox, b.isEmpty = true := fun b hb =>
    hx.inbox b (by rw [hin]; exact List.mem_cons_of_mem _ hb)
  rw [hd]
  refine ⟨hx.silent hsilent hrec.kind hrest hx.calls (fun hst => Or.inl (hrec.aborted hst))
    ⟨hopen, hagain⟩, fun _ hact => ⟨hrec.active hact, ?_⟩⟩
  rw [hp]
  exact Nat.lt_succ_self 2

theorem receiving_paces (hx : s.Rests excess) (hp : s.phase = .receiving)
    (hn : s.provides (s.need .dispatch) = true) : s.Paces excess s.dispatch := by
  have ho : s.transport.Open := by
    have hst := hx.stands
    rwa [hp] at hst
  rcases ho.refusal hx.spans.1 with ⟨hk, hover, hr⟩ | ⟨hnot, hr⟩
  · exact receiving_escapes hx hp (Or.inl ⟨hk, hover⟩) hr
  · exact receiving_idles hx hp hn hr hnot

/-- The periodic work of an active executor overflows with the resend period. -/
theorem ticking_escapes (hx : s.Rests excess) (hp : s.phase = .ticking)
    (ha : s.driver.state.isActive = true) (hrole : s.driver.role = .executor)
    (hover : s.driver.settings.resendPeriod.Overflows 1000000000) :
    s.Paces excess s.dispatch := by
  have hage : s.endpoint.resendAge = .error .infiniteSpan := by
    rcases Endpoint.resendAge_cases (e := s.endpoint) hx.spans.2 with ⟨-, hage⟩ | ⟨hnot, -⟩
    · exact hage
    · exact absurd hover hnot
  have ht : s.endpoint.tick = (.error .infiniteSpan, s.endpoint) := by
    have hrole : s.endpoint.driver.role = .executor := hrole
    simp only [Endpoint.tick, hrole, hage]
  have hd : s.dispatch = s.escape .infiniteSpan := by
    simp only [dispatch, hp, ha, if_true]
    unfold proceed
    rw [ht]
  rw [hd]
  exact escape_paces hx (Or.inr ⟨hrole, hover⟩) (by rw [hp]; decide)

/-- Otherwise it does nothing, and then nothing overflows: the receive before it did not. -/
theorem ticking_idles (hx : s.Rests excess) (hp : s.phase = .ticking)
    (ha : s.driver.state.isActive = true)
    (hnot : ¬ (s.driver.role = .executor ∧
      s.driver.settings.resendPeriod.Overflows 1000000000)) : s.Paces excess s.dispatch := by
  obtain ⟨ho, hr⟩ : s.transport.Open ∧ s.refusal = none := by
    have hst := hx.stands
    rwa [hp] at hst
  have hd : s.dispatch = s.proceed s.endpoint.tick .checking := by
    simp only [dispatch, hp, ha, if_true]
  have ht : s.endpoint.Succeeds s.endpoint.tick () := by
    refine Endpoint.tick_succeeds hx.blank ho fun hrole => ?_
    rcases Endpoint.resendAge_cases (e := s.endpoint) hx.spans.2 with ⟨hover, -⟩ | ⟨-, hage⟩
    · exact absurd ⟨hrole, hover⟩ hnot
    · exact hage
  rw [hd]
  refine proceed_paces hx ht ht.opened fun hover => ?_
  rcases hx.overflows.mpr hover with hsock | hexec
  · rcases ho.refusal hx.spans.1 with ⟨-, -, hr'⟩ | ⟨hfits, -⟩
    · cases hr.symm.trans hr'
    · exact absurd hsock hfits
  · exact absurd hexec hnot

theorem ticking_paces (hx : s.Rests excess) (hp : s.phase = .ticking) :
    s.Paces excess s.dispatch := by
  by_cases ha : s.driver.state.isActive = true
  · by_cases hex : s.driver.role = .executor ∧ s.driver.settings.resendPeriod.Overflows 1000000000
    · exact ticking_escapes hx hp ha hex.1 hex.2
    · exact ticking_idles hx hp ha hex
  · have hst := hx.stands
    rw [hp] at hst
    have hd : s.dispatch = { s with phase := .checking } := by
      simp only [dispatch, hp, ha, Bool.false_eq_true, if_false]
    rw [hd]
    exact phase_paces hx (p := .checking) hst.1 fun _ hact => absurd hact ha

/-- The dispatch thread connects, unless the driver was destroyed before. -/
theorem begun_paces (h : s.Sound) (hx : s.Rests excess) (hp : s.phase = .begun) :
    s.Paces excess s.dispatch := by
  have hh : s.transport.Healthy := by
    have hst := hx.stands
    rwa [hp] at hst
  by_cases ha : s.driver.attached = true
  · have hd : s.dispatch = s.proceed s.endpoint.connectStart .linking := by
      simp only [dispatch, hp, ha, if_true]
    have hc := Endpoint.connectStart_succeeds hh
    rw [hd]
    exact proceed_paces hx hc hc.opened fun _ => by rw [hp]; decide
  · have hd : s.dispatch = { s.record (.threadRaised (.noTransport s.driver.handle)) with
        phase := .ended } := by
      simp only [dispatch, hp, ha, Bool.false_eq_true, if_false]
    have hgone : s.driver.state = .destroyed :=
      ((h.endpoint.launched (h.launched.mpr (by rw [hp]; exact Phase.noConfusion))).2).resolve_left
        ha
    rw [hd]
    refine ⟨hx.silent (.record fun _ => Event.noConfusion) rfl hx.inbox hx.calls Or.inl trivial,
      fun _ hact => ?_⟩
    rw [hgone] at hact
    cases hact

/-- The dispatch thread of a driver that rests goes on, unless a failure has to be reported. -/
theorem dispatch_paces (h : s.Sound) (hx : s.Rests excess)
    (hn : s.provides (s.need .dispatch) = true)
    (hf : ∀ f, s.phase ≠ .escaped f) : s.Paces excess s.dispatch := by
  have hst := hx.stands
  cases hp : s.phase with
  | idle | ended => simp [need, dispatchNeed, hp, provides] at hn
  | escaped f => exact absurd hp (hf f)
  | begun => exact begun_paces h hx hp
  | receiving => exact receiving_paces hx hp hn
  | ticking => exact ticking_paces hx hp
  | linking =>
    rw [hp] at hst
    have hd : s.dispatch = s.proceed s.endpoint.connectEnd .entering := by
      simp only [dispatch, hp]
    have hc := Endpoint.connectEnd_succeeds (e := s.endpoint) hst
    rw [hd]
    exact proceed_paces hx hc hc.opened fun _ => by rw [hp]; decide
  | entering =>
    rw [hp] at hst
    have hd : s.dispatch = s.proceed s.endpoint.enter .checking := by
      simp only [dispatch, hp]
    have hc := Endpoint.enter_succeeds (e := s.endpoint) hx.blank hst
    rw [hd]
    exact proceed_paces hx hc hc.opened fun _ => by rw [hp]; decide
  | checking =>
    rw [hp] at hst
    by_cases ha : s.driver.state.isActive = true
    · have hd : s.dispatch = { s with phase := .deciding } := by
        simp only [dispatch, hp, ha, if_true]
      rw [hd]
      exact phase_paces hx (p := .deciding) hst fun _ _ => by rw [hp]; decide
    · have hd : s.dispatch = { s with phase := .closing none } := by
        simp only [dispatch, hp, ha, Bool.false_eq_true, if_false]
      have hshut := isShut_of_inactive h (by rw [hp]; exact Phase.noConfusion) (by simpa using ha)
      rw [hd]
      exact phase_paces hx (p := .closing none) ⟨rfl, hshut⟩ fun _ hact => absurd hact ha
  | deciding =>
    rw [hp] at hst
    have hd : s.dispatch = { s with phase := .receiving } := by
      simp only [dispatch, hp, hx.blank.pendingError]
    rw [hd]
    exact phase_paces hx (p := .receiving) hst fun _ _ => by rw [hp]; decide
  | closing cause =>
    rw [hp] at hst
    obtain ⟨rfl, hshut⟩ := hst
    have hi := Lifecycle.not_active_of_isShut hshut
    have hd : s.dispatch = { s with endpoint := s.endpoint.leave, phase := .signalling none } := by
      simp only [dispatch, hp]
    obtain ⟨hs, hstate, hk⟩ := Endpoint.leave_silent (e := s.endpoint) hi
    rw [hd]
    exact ⟨hx.silent hs hk hx.inbox hx.calls (fun ha => Or.inl (hstate ▸ ha)) rfl,
      fun _ hact => absurd (hi.symm.trans hact) Bool.noConfusion⟩
  | signalling cause =>
    rw [hp] at hst
    obtain rfl : cause = none := hst
    have hd : s.dispatch = { s with endpoint := s.endpoint.signal, phase := .ended } := by
      simp only [dispatch, hp]
    have ha := h.admits
    rw [hp] at ha
    rw [hd]
    refine ⟨hx.silent s.endpoint.signal_silent rfl hx.inbox hx.calls Or.inl trivial,
      fun _ hact => ?_⟩
    rcases ha with ha | ha | ha <;> rw [ha] at hact <;> cases hact
  | reporting f => rw [hp] at hst; exact hst.elim
  | handling ms => rw [hp] at hst; exact hst.elim
  | calling frame => rw [hp] at hst; exact hst.elim

/-- A failure that left the loop aborts a driver that is active. -/
theorem escaped_aborts {f : Failure} (hp : s.phase = .escaped f)
    (ha : s.driver.state.isActive = true) : s.dispatch.driver.state = .aborted := by
  have hd : s.dispatch = s.fail f.shown .escaped := by
    simp only [dispatch, hp]
  rw [hd]
  exact fail_aborts _ _ ha

/-- If the driver was shut down meanwhile, the failure is only noted. -/
theorem escaped_rests (h : s.Sound) (hx : s.Rests excess) {f : Failure} (hp : s.phase = .escaped f)
    (ha : ¬ s.driver.state.isActive = true) : s.dispatch.Rests excess := by
  have hd : s.dispatch = { s.note (.failedLate f.shown) with phase := .closing none } := by
    simp only [dispatch, hp, fail, ha, Bool.false_eq_true, if_false]
    rfl
  have hshut := isShut_of_inactive h (by rw [hp]; exact Phase.noConfusion) (by simpa using ha)
  rw [hd]
  exact hx.silent (.note _ _) rfl hx.inbox hx.calls Or.inl ⟨rfl, hshut⟩

theorem step_of_provided (hn : s.provides (s.need .dispatch) = true) :
    s.step (.go .dispatch) = s.dispatch := by
  simp only [step, hn, if_true, advance]

/-- The dispatch thread lets a driver rest, unless it aborts it for an overflow. -/
theorem dispatching_rests (h : s.Sound) (hx : s.Rests excess) :
    (s.step (.go .dispatch)).Rests excess ∨
      excess ∧ (s.step (.go .dispatch)).driver.state.isShut = true := by
  by_cases hn : s.provides (s.need .dispatch) = true
  · rw [step_of_provided hn]
    by_cases hf : ∃ f, s.phase = .escaped f
    · obtain ⟨f, hp⟩ := hf
      by_cases ha : s.driver.state.isActive = true
      · have hst := hx.stands
        rw [hp] at hst
        exact Or.inr ⟨hx.overflows.mp hst.2.2, by rw [escaped_aborts hp ha]; rfl⟩
      · exact Or.inl (escaped_rests h hx hp ha)
    · exact Or.inl (dispatch_paces h hx hn fun f hp => hf ⟨f, hp⟩).rests
  · have hstep : s.step (.go .dispatch) = s := by
      simp only [step, hn, Bool.false_eq_true, if_false]
    rw [hstep]
    exact Or.inl hx

/-! ### Other moves -/

/-- A move that lets a driver with nothing to send be, and its transport too. The driver is aborted
only if that was called for. -/
structure Undisturbed (s s' : System) : Prop where
  silent : Silent s.endpoint s'.endpoint
  transport : s'.transport = s.transport
  called : s'.driver.state = .aborted → s.driver.state = .aborted ∨ Called s'.endpoint.history

theorem Undisturbed.refl (s : System) : s.Undisturbed s := ⟨.refl _, rfl, Or.inl⟩

theorem assign_undisturbed (s : System) (n : Nat) (errand : Errand) :
    s.Undisturbed (s.assign n errand) := by
  unfold assign
  dsimp only
  split
  · exact ⟨.record fun _ => Event.noConfusion, rfl, Or.inl⟩
  · exact ⟨.refl _, rfl, Or.inl⟩

theorem region_undisturbed (hb : s.endpoint.Blank) (n : Nat) {r : Region} (hr : ∀ c, r ≠ .give c) :
    s.Undisturbed ((({ s with endpoint := (s.endpoint.region false r).2 } :
      System).assign n (s.endpoint.region false r).1).launch) := by
  let t : System := { s with endpoint := (s.endpoint.region false r).2 }
  let u : System := t.assign n (s.endpoint.region false r).1
  obtain ⟨hs, ht⟩ := Endpoint.region_silent hb false hr
  have hu : t.Undisturbed u := t.assign_undisturbed n _
  have hstate : u.driver.state = t.driver.state := congrArg Driver.state (assign_driver t n _)
  have hl : u.launch.endpoint = u.endpoint := u.launch_endpoint
  show s.Undisturbed u.launch
  refine ⟨by rw [hl]; exact hs.trans hu.silent, ?_, fun ha => ?_⟩
  · exact (congrArg (·.surroundings.transport) hl).trans (hu.transport.trans ht)
  · have ha : t.driver.state = .aborted := by
      rw [← hstate]
      exact (congrArg (·.driver.state) hl).symm.trans ha
    rw [hl]
    exact (s.endpoint.region_called false r ha).imp_right fun hc => hc.mono hu.silent.suffix

/-- A caller that gave no order lets a driver with nothing to send be. -/
theorem caller_undisturbed (hx : s.Rests excess) (hat : s.Attended) (n : Nat) :
    s.Undisturbed (s.caller n) := by
  unfold caller
  split
  · exact .refl s
  · exact .refl s
  · rename_i r he
    obtain ⟨x, hxn, hr⟩ := errandOf_eq_some he
    have hsuits := hat.suits hxn
    have hcall := hx.calls x (List.mem_of_getElem? hxn)
    rw [hr] at hsuits
    refine region_undisturbed hx.blank n fun c hc => ?_
    subst hc
    generalize x.call = call at hsuits hcall
    cases call with
    | order o => exact hcall o rfl
    | _ => exact hsuits
  · exact s.assign_undisturbed n _

/-- So does what is no order and brings nothing. -/
theorem others_undisturbed (hx : s.Rests excess) (hat : s.Attended) {m : Move}
    (hm : m ≠ .go .dispatch) : s.Undisturbed (s.step m) := by
  rcases s.step_cases m with ⟨-, -, -, he⟩ | ⟨hd, -⟩ | ⟨n, -, -, he⟩ | ho
  · rw [he]; exact .refl s
  · exact absurd hd hm
  · rw [he]; exact caller_undisturbed hx hat n
  · cases m with
    | go t => exact absurd rfl (ho t)
    | call c =>
      have hgo : ∀ (t : System) (n : Nat) (errand : Errand), t.endpoint = s.endpoint →
          s.Undisturbed (t.assign n errand) := fun t n errand he => by
        obtain ⟨hs, ht, hc⟩ := t.assign_undisturbed n errand
        exact ⟨he ▸ hs, ht.trans (congrArg (·.surroundings.transport) he),
          fun ha => (hc ha).imp_left fun hst => (congrArg (·.driver.state) he).symm.trans hst⟩
      unfold step addCaller
      dsimp only
      split
      · exact hgo _ _ _ (s.ask_eq _ _).1
      · exact hgo _ _ _ rfl
    | wake =>
      unfold step wake
      dsimp only
      split <;> exact ⟨.refl _, rfl, Or.inl⟩
    | elapse nanos => exact ⟨.happen [] rfl rfl (by simp), rfl, Or.inl⟩
    | _ => exact ⟨.refl _, rfl, Or.inl⟩

/-- An idle driver rests still after a move of anybody else. -/
theorem others_rests (h : s.Sound) (hx : s.Rests excess) (hat : s.Attended) {m : Move}
    (hm : m ≠ .go .dispatch) (hi : m.isIdle = true) : (s.step m).Rests excess := by
  obtain ⟨hs, ht, hc⟩ := others_undisturbed hx hat hm
  refine hx.silent hs (congrArg Transport.overSockets ht) (fun a ha => ?_) (fun x hmem o ho => ?_)
    hc ?_
  · rw [show (s.step m).inbox = s.inbox ++ m.arrival?.toList from
      congrArg Prod.snd (s.others_inlet hm)] at ha
    rcases List.mem_append.mp ha with ha | ha
    · exact hx.inbox a ha
    · cases m with
      | arrive b =>
        rw [List.mem_singleton.mp ha]
        exact hi
      | _ => cases ha
  · obtain ⟨n, hn⟩ := List.getElem?_of_mem hmem
    cases step_served h hn with
    | left hleft => exact hx.calls x (List.mem_of_getElem? hleft) o ho
    | came hcall =>
      rw [hcall, ho] at hi
      cases hi
    | region _ hx' _ _ hsame => exact hx.calls _ (List.mem_of_getElem? hx') o (hsame ▸ ho)
    | waited _ hx' _ _ hsame => exact hx.calls _ (List.mem_of_getElem? hx') o (hsame ▸ ho)
  · have hst := hx.stands
    rcases s.others_phase hm with hp | ⟨hidle, hp⟩ | ⟨frame, hcall, -⟩
    · rw [hp]
      exact stands_silent hs ht (step_isShut h m) hst
    · rw [hidle] at hst
      rw [hp]
      exact stands_silent hs ht (step_isShut h m) (p := .begun) hst
    · rw [hcall] at hst
      exact hst.elim

/-! ### Runs -/

/-- A driver begins well: its settings were accepted, its transport is healthy, and nothing came in
yet. -/
structure BeginsWell (s : System) : Prop extends Begins s where
  accepted : s.driver.settings.Accepted
  healthy : s.transport.Healthy
  inbox : s.inbox = []

/-- A driver that was just made has nothing to send. -/
theorem Begins.blank (h : s.Begins) : s.endpoint.Blank := by
  obtain ⟨a, remote, ha⟩ := h.made
  have hd := Application.driver_new ha
  refine ⟨hd.backlog, hd.pendingError, hd.inflight, fun failover => ?_⟩
  unfold Driver.farewell
  cases hr : s.endpoint.driver.role with
  | scheduler => exact if_pos (Or.inr (Application.frameworkId_of_driver ha hr))
  | executor => rfl

theorem BeginsWell.rests (h : s.BeginsWell) : s.Rests s.Overflows := by
  obtain ⟨a, remote, ha⟩ := h.made
  have hd := Application.driver_new ha
  refine ⟨h.accepted.ne_nan, Iff.rfl, h.toBegins.blank, fun b hb => ?_, fun x hx => ?_,
    fun f hf => ?_, fun hs => ?_, ?_⟩
  · rw [h.inbox] at hb
    cases hb
  · rw [h.callers] at hx
    cases hx
  · rw [h.history] at hf
    cases hf
  · rw [hd.state] at hs
    cases hs
  · rw [h.phase]
    exact h.healthy

/-- An idle driver rests, unless an overflow shut it down. -/
theorem run_rests (h : s.BeginsWell) (moves : List Move) (hi : ∀ m ∈ moves, m.isIdle = true) :
    (s.run moves).Rests s.Overflows ∨
      s.Overflows ∧ (s.run moves).driver.state.isShut = true := by
  induction moves using List.reverseRecOn with
  | nil => exact Or.inl h.rests
  | append_singleton moves m ih =>
    have hsound := run_sound h.toBegins.sound moves
    rw [run_concat]
    rcases ih fun m' hm => hi m' (List.mem_append_left _ hm) with hx | ⟨ho, hs⟩
    · by_cases hm : m = .go .dispatch
      · subst hm
        exact dispatching_rests hsound hx
      · exact Or.inl (others_rests hsound hx (run_attended h.toBegins moves) hm
          (hi m (List.mem_append_right _ (List.mem_singleton.mpr rfl))))
    · exact Or.inr ⟨ho, step_isShut hsound m hs⟩

/-- Nothing arrives, and the dispatch thread makes its moves. -/
def waiting : Nat → List Move
  | 0 => []
  | n + 1 => .openGate :: .arrive (.messages []) :: .go .dispatch :: waiting n

theorem waiting_isIdle (n : Nat) : ∀ m ∈ waiting n, m.isIdle = true := by
  induction n with
  | zero => exact fun m hm => by cases hm
  | succ n ih =>
    intro m hm
    simp only [waiting, List.mem_cons] at hm
    rcases hm with rfl | rfl | rfl | hm
    · rfl
    · rfl
    · rfl
    · exact ih m hm

/-- The dispatch thread of an active driver that rests lacks nothing when something arrives. -/
theorem Rests.provided (h : s.Sound) (hx : s.Rests excess) (ha : s.driver.state.isActive = true)
    (hg : s.gateOpen = true) (hin : s.inbox ≠ []) : s.provides (s.need .dispatch) = true := by
  have hst := hx.stands
  have hadm := h.admits
  cases hp : s.phase with
  | idle =>
    rw [hp] at hadm
    rcases hadm with hadm | hadm <;> rw [hadm] at ha <;> cases ha
  | ended =>
    rw [hp] at hadm
    rcases hadm with hadm | hadm | hadm <;> rw [hadm] at ha <;> cases ha
  | reporting f | handling ms | calling frame => rw [hp] at hst; exact hst.elim
  | receiving =>
    simp only [need, dispatchNeed, hp]
    split
    · rfl
    · simpa [provides] using hin
  | linking => simpa [need, dispatchNeed, hp, provides] using hg
  | _ => simp [need, dispatchNeed, hp, provides, isLocked]

/-- If a conversion overflows, the loop comes to it, and the driver is aborted. -/
theorem Rests.falls (h : s.Sound) (hx : s.Rests excess) (ho : excess)
    (ha : s.driver.state.isActive = true) :
    ∃ n ≤ s.phase.rank, (s.run (waiting n)).driver.state = .aborted ∧
      .escaped .infiniteSpan ∈ (s.run (waiting n)).endpoint.history := by
  induction hk : s.phase.rank using Nat.strong_induction_on generalizing s with
  | _ k ih =>
    let t : System := { s with gateOpen := true, inbox := s.inbox ++ [.messages []] }
    have ht : t.Sound := run_sound h [.openGate, .arrive (.messages [])]
    have htx : t.Rests excess := by
      refine hx.silent (.refl _) rfl (fun a hmem => ?_) hx.calls Or.inl
        (stands_silent (s := s) (.refl _) rfl id hx.stands)
      rcases List.mem_append.mp hmem with hmem | hmem
      · exact hx.inbox a hmem
      · rw [List.mem_singleton.mp hmem]
        rfl
    have hn : t.provides (t.need .dispatch) = true := htx.provided ht ha rfl (by simp [t])
    have hstep : t.step (.go .dispatch) = t.dispatch := step_of_provided hn
    have hrun : ∀ n, s.run (waiting (n + 1)) = t.dispatch.run (waiting n) := fun n => by
      rw [← hstep]
      rfl
    by_cases hf : ∃ f, s.phase = .escaped f
    · obtain ⟨f, hp⟩ := hf
      have hst := hx.stands
      rw [hp] at hst
      obtain ⟨rfl, hesc, -⟩ := hst
      have hgrow : t.endpoint.history <:+ t.dispatch.endpoint.history :=
        hstep ▸ step_history ht (.go .dispatch)
      refine ⟨1, by rw [← hk, hp]; exact Nat.le_refl 1, ?_, ?_⟩
      · rw [hrun]
        exact escaped_aborts (s := t) hp ha
      · rw [hrun]
        exact hgrow.mem hesc
    · obtain ⟨hr, hon⟩ := dispatch_paces ht htx hn fun f hp => hf ⟨f, hp⟩
      obtain ⟨hact, hlt⟩ := hon ho ha
      have hlt : t.dispatch.phase.rank < k := hk ▸ hlt
      obtain ⟨n, hle, hab, hesc⟩ := ih _ hlt (dispatch_sound ht) hr hact rfl
      exact ⟨n + 1, by omega, by rw [hrun]; exact hab, by rw [hrun]; exact hesc⟩

/-- What accepted settings are good for. -/
structure Usable (s : System) : Prop where
  /-- The receive timeout is had in milliseconds if and only if that does not overflow. -/
  timeout : (∃ n, (Seconds.real s.driver.settings.receiveTimeout).millis = .ok n) ↔
    ¬ s.driver.settings.receiveTimeout.Overflows 1000
  /-- So is the resend period in nanoseconds. -/
  period : (∃ age, s.endpoint.resendAge = .ok age) ↔
    ¬ s.driver.settings.resendPeriod.Overflows 1000000000
  /-- If no conversion overflows that the loop makes, then no failure leaves the loop of an idle
  driver, and nothing but a call aborts it. -/
  lasts : ¬ s.Overflows → ∀ moves, (∀ m ∈ moves, m.isIdle = true) →
    (∀ f, .escaped f ∉ (s.run moves).endpoint.history) ∧
      ((s.run moves).driver.state = .aborted → Called (s.run moves).endpoint.history)
  /-- If one does, then whenever the idle driver is active, its loop aborts it for that within a
  round, though nothing arrives and nobody calls. -/
  falls : s.Overflows → ∀ moves, (∀ m ∈ moves, m.isIdle = true) →
    (s.run moves).driver.state.isActive = true →
      ∃ n ≤ 8, ((s.run moves).run (waiting n)).driver.state = .aborted ∧
        .escaped .infiniteSpan ∈ ((s.run moves).run (waiting n)).endpoint.history

/-- Accepted settings are usable unless a span is too long, and only then is an idle driver aborted
by its own loop. -/
theorem run_usable (h : s.BeginsWell) : s.Usable := by
  obtain ⟨htimeout, hperiod⟩ := h.accepted.ne_nan
  refine ⟨?_, ?_, fun ho moves hi => ?_, fun ho moves hi ha => ?_⟩
  · rcases Seconds.millis_cases htimeout with ⟨ho, he⟩ | ⟨ho, n, he⟩
    · exact ⟨fun ⟨n, hn⟩ => (by cases he.symm.trans hn), fun hn => absurd ho hn⟩
    · exact ⟨fun _ => ho, fun _ => ⟨n, he⟩⟩
  · rcases Endpoint.resendAge_cases (e := s.endpoint) hperiod with ⟨ho, he⟩ | ⟨ho, age, he⟩
    · exact ⟨fun ⟨age, hage⟩ => (by cases he.symm.trans hage), fun hn => absurd ho hn⟩
    · exact ⟨fun _ => ho, fun _ => ⟨age, he⟩⟩
  · have hx := (run_rests h moves hi).resolve_right fun hr => ho hr.1
    exact ⟨fun f hf => ho (hx.escaped f hf).2, hx.called⟩
  · rcases run_rests h moves hi with hx | ⟨-, hs⟩
    · obtain ⟨n, hle, hn⟩ := hx.falls (run_sound h.toBegins.sound moves) ho ha
      exact ⟨n, hle.trans (Phase.rank_le _), hn⟩
    · exact absurd hs (not_isShut_of_active ha)

/-! ### Runs of an executor -/

/-- An environment in which updates are never to be sent again. -/
def endlessEnvironment : Environment := [("MESOSBRIDGE_STATUS_UPDATE_RESEND_SEC", "inf")]

/-- The settings that it gives. -/
def endlessSettings : Settings :=
  { listenerSettings with resendPeriod := .infinity false }

/-- The application of an executor in that environment. -/
def endlessApplication : Application :=
  { reporterApplication with settings := none, environment := endlessEnvironment }

/-- Its system to begin with, over a transport that never fails. -/
def endless : System :=
  fresh
    { driver := endlessApplication.assemble ⟨.executor, []⟩ endlessSettings ⟨['h'], 1⟩ []
        (Bytes.ofText "f") (Bytes.ofText "e")
      surroundings := reporter.endpoint.surroundings
      history := [] }
    .direct [] true

theorem endless_accepted : Settings.ofEnvironment "h" endlessEnvironment = .ok endlessSettings := by
  decide +kernel

theorem endless_made :
    endlessApplication.driver = .ok (endless.driver, .text "m@h:1") := by
  have hsettings : endlessApplication.checkedSettings = .ok endlessSettings := endless_accepted
  unfold Application.driver
  rw [hsettings]
  rfl

theorem endless_beginsWell : endless.BeginsWell where
  made := ⟨endlessApplication, .text "m@h:1", endless_made⟩
  phase := rfl
  callers := rfl
  history := rfl
  accepted := ⟨"h", Or.inr ⟨endlessEnvironment, endless_accepted⟩⟩
  healthy := ⟨rfl, ⟨"a", rfl⟩, fun o ho => by cases ho⟩
  inbox := rfl

theorem endless_usable : endless.BeginsWell ∧ endless.Overflows ∧
    (∀ m ∈ joiningMoves, m.isIdle = true) ∧
    (endless.run joiningMoves).driver.state.isActive = true ∧ endless.Usable :=
  ⟨endless_beginsWell, Or.inr ⟨rfl, trivial⟩, by decide, by decide +kernel,
    run_usable endless_beginsWell⟩

/-- The executor starts and joins the cluster. The first receive finds nothing, and the driver is
aborted, though nobody called for that. -/
theorem endless_aborts : endless.BeginsWell ∧
    (∀ m ∈ joiningMoves ++ waiting 3, m.isIdle = true) ∧
    (endless.run (joiningMoves ++ waiting 3)).driver.state = .aborted ∧
    .escaped .infiniteSpan ∈ (endless.run (joiningMoves ++ waiting 3)).endpoint.history ∧
    ¬ Called (endless.run (joiningMoves ++ waiting 3)).endpoint.history := by
  have hh : (endless.run (joiningMoves ++ waiting 3)).endpoint.history =
      [.became .aborted, .noted (.failed Failure.infiniteSpan.shown), .noted .loopFailed,
        .escaped .infiniteSpan, .received (.ok []), .noted (.connected "tcp://h:1"),
        .became .running, .sent (.registerExecutor (Bytes.ofText "f") (Bytes.ofText "e") "a") 0 0,
        .noted (.sending (.registerExecutor (Bytes.ofText "f") (Bytes.ofText "e") "a")),
        .connected, .connecting, .returned 0 (.ok (.status .running)),
        .noted (.started "tcp://h:1"), .became .started, .transportMade "tcp://h:1"] := rfl
  refine ⟨endless_beginsWell, ?_, rfl, ?_, ?_⟩
  · exact List.forall_mem_append.mpr ⟨by decide, waiting_isIdle 3⟩
  · rw [hh]
    simp
  · rw [hh]
    simp [Called]

end System

end ClusterLink
