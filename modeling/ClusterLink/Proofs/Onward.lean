/-
# The dispatch thread past the join

Where the dispatch thread is says which states the driver can be in
(`Phase.admits`): before the join it is neither new nor running, in the
dispatch loop it has been started and connected, while a callback runs
nobody can destroy it, and once the thread left the cluster it is shut down.

Every operation of the dispatch thread is followed once
(`System.Onward`): what it does to the driver, and where it leaves the
thread.

Key definitions: `Phase.admits`, `Phase.isLate`, `System.Onward`.
Key theorem: `System.dispatch_onward`.
-/
import ClusterLink.Proofs.Deed
import ClusterLink.System.Move

namespace ClusterLink

/-! ### Phases -/

namespace Phase

/-- The states that the driver can be in while the dispatch thread is in a phase. -/
def admits : Phase → Lifecycle → Prop
  | idle, s => s = .created ∨ s = .destroyed
  | begun, s | linking, s | entering, s => s ≠ .created ∧ s ≠ .running
  | checking, s | deciding, s | reporting _, s | receiving, s | handling _, s | ticking, s =>
    s ≠ .created ∧ s ≠ .started
  | calling _, s => s = .running ∨ s = .stopped ∨ s = .aborted
  | escaped _, s | closing _, s => s ≠ .created
  | signalling _, s | ended, s => s = .stopped ∨ s = .aborted ∨ s = .destroyed

/-- Whether the thread is past the join. -/
def isLate : Phase → Bool
  | idle | begun | linking | entering => false
  | _ => true

/-- The thread is past the join, at it, on its way there, or not launched. -/
theorem stages (p : Phase) :
    p.isLate = true ∨ p = .entering ∨ (p = .begun ∨ p = .linking) ∨ p = .idle := by
  cases p <;> simp [isLate]

theorem ne_idle_of_isLate {p : Phase} (h : p.isLate = true) : p ≠ .idle := by
  rintro rfl
  cases h

/-- A driver may be shut down in every phase after the launch. -/
theorem admits_halted {p : Phase} {s : Lifecycle} (hp : p ≠ .idle)
    (hs : s = .stopped ∨ s = .aborted) : p.admits s := by
  cases p with
  | idle => exact absurd rfl hp
  | _ => rcases hs with rfl | rfl <;> simp [admits]

theorem admits.deeds {p : Phase} {e e' : Endpoint} (h : p.admits e.driver.state)
    (hd : Endpoint.Deeds e e') : p.admits e'.driver.state := by
  rcases hd.state_cases with hs | ⟨hs, hs'⟩
  · rwa [hs]
  · refine admits_halted ?_ hs'
    rintro rfl
    rcases h with h | h
    · exact hs.1 h
    · exact hs.2 h

/-- While no callback runs, a driver may be destroyed. -/
theorem admits_destroyed {p : Phase} (hp : ∀ frame, p ≠ .calling frame) : p.admits .destroyed := by
  cases p with
  | calling frame => exact absurd rfl (hp frame)
  | _ => simp [admits]

/-- A new driver has no dispatch thread. -/
theorem admits.ne_created {p : Phase} {s : Lifecycle} (h : p.admits s) (hp : p ≠ .idle) :
    s ≠ .created := by
  rintro rfl
  cases p with
  | idle => exact hp rfl
  | _ => simp [admits] at h

end Phase

/-- The states that the driver can be in when the thread goes on after a callback. -/
def After.admits : After → Lifecycle → Prop
  | message .., s => s ≠ .created ∧ s ≠ .started
  | pending, s | escaped, s => s ≠ .created

theorem After.admits_of_calling {after : After} {s : Lifecycle}
    (h : s = .running ∨ s = .stopped ∨ s = .aborted) : after.admits s := by
  cases after <;> rcases h with rfl | rfl | rfl <;> simp [admits]

theorem After.admits_of_running {after : After} : after.admits .running :=
  admits_of_calling (Or.inl rfl)

namespace System

theorem phaseFor_admits {s : Lifecycle} (ms : List Message) (h : s ≠ .created ∧ s ≠ .started) :
    (phaseFor ms).admits s := by
  cases ms <;> exact h

theorem phaseFor_isLate (ms : List Message) : (phaseFor ms).isLate = true := by
  cases ms <;> rfl

/-! ### Operations of the dispatch thread -/

/-- The dispatch thread goes on past the join: it does some deeds, and is where it may be. -/
structure Onward (s s' : System) : Prop where
  deeds : Endpoint.Deeds s.endpoint s'.endpoint
  admits : s'.phase.admits s'.driver.state
  late : s'.phase.isLate = true
  callers : s'.callers = s.callers

theorem Onward.after {s t s' : System} (h : Onward t s')
    (hd : Endpoint.Deeds s.endpoint t.endpoint) (hc : t.callers = s.callers) : Onward s s' :=
  ⟨hd.trans h.deeds, h.admits, h.late, h.callers.trans hc⟩

theorem record_deeds (s : System) {v : Event} (hv : v.isAside = true) :
    Endpoint.Deeds s.endpoint (s.record v).endpoint :=
  (Endpoint.Deed.aside hv).one

theorem resume_onward {s : System} {after : After} (h : after.admits s.driver.state) :
    Onward s (s.resume after) := by
  cases after with
  | message m rest =>
    have hd := s.endpoint.conclude_deeds m
    have ha : Phase.checking.admits (s.endpoint.conclude m).driver.state :=
      Phase.admits.deeds (p := .checking) h hd
    exact ⟨hd, phaseFor_admits rest ha, phaseFor_isLate rest, rfl⟩
  | pending => exact ⟨.refl, h, rfl, rfl⟩
  | escaped => exact ⟨.refl, h, rfl, rfl⟩

theorem escape_isLate (s : System) (f : Failure) : (s.escape f).phase.isLate = true := by
  unfold escape
  dsimp only
  split <;> rfl

theorem escape_onward {s : System} (f : Failure) (h : s.driver.state ≠ .created) :
    Onward s (s.escape f) := by
  unfold escape
  dsimp only
  have hd : Endpoint.Deeds s.endpoint (s.record (.escaped f)).endpoint := s.record_deeds rfl
  split
  · exact ⟨hd.tail (.aside rfl), h, rfl, rfl⟩
  · exact ⟨hd.tail (.aside rfl), h, rfl, rfl⟩

theorem invoke_onward {s : System} {slot : Slot} (args : List Parameter) (after : After)
    (h : s.driver.state = .running) (hs : slot ≠ .error) : Onward s (s.invoke slot args after) := by
  unfold invoke
  split
  · dsimp only
    rw [h]
    exact ⟨(Endpoint.Deed.begin args h hs).one, Or.inl h, rfl, rfl⟩
  · exact resume_onward (by rw [h]; exact After.admits_of_running)

theorem fail_onward {s : System} (message : WideText) (after : After)
    (h : after.admits s.driver.state) : Onward s (s.fail message after) := by
  have hd (ha : s.driver.state.isActive = true) :
      Endpoint.Deeds s.endpoint (s.giveUp message).endpoint :=
    (s.record_deeds (v := .noted (.failed message)) rfl).tail (.halt ha (Or.inr rfl))
  rcases s.fail_cases message after with ⟨ha, b, hb, he⟩ | ⟨ha, hb, he⟩ | ⟨ha, he⟩ <;> rw [he]
  · unfold invoke
    split
    · exact ⟨(Endpoint.Deed.report ha hb).one, Or.inr (Or.inr rfl), rfl, rfl⟩
    · exact (resume_onward (After.admits_of_calling (Or.inr (Or.inr rfl)))).after (hd ha) rfl
  · refine (escape_onward _ ?_).after (hd ha) rfl
    exact Lifecycle.noConfusion
  · refine (resume_onward ?_).after (s.record_deeds (v := .noted (.failedLate message)) rfl) rfl
    exact h

theorem endCallback_onward {s : System} (frame : Frame) (failure : Option Failure)
    (h : s.driver.state = .running ∨ s.driver.state = .stopped ∨ s.driver.state = .aborted) :
    Onward s (s.endCallback frame failure) := by
  cases failure with
  | none =>
    refine (resume_onward ?_).after (s.record_deeds (v := .ended frame.slot) rfl) rfl
    exact After.admits_of_calling h
  | some f =>
    by_cases hf : f.isMisuse = true
    · have hd : Endpoint.Deed s.endpoint
          ((s.endpoint.record (.broke frame.slot f)).become .aborted) := .misuse hf h
      simp only [endCallback, hf, if_true]
      split
      · exact ⟨hd.one, Lifecycle.noConfusion, rfl, rfl⟩
      · exact (escape_onward f Lifecycle.noConfusion).after hd.one rfl
    · have hf : f.isMisuse = false := by simpa using hf
      have hd : Endpoint.Deeds s.endpoint
          ((s.endpoint.record (.broke frame.slot f)).note (.callbackFailed frame.slot)) :=
        (Endpoint.Deed.fall hf).one.tail (.aside rfl)
      have hd' := hd.trans (Endpoint.breakOff_deeds _)
      simp only [endCallback, hf, Bool.false_eq_true, if_false]
      refine (resume_onward (After.admits_of_calling ?_)).after hd' rfl
      exact Phase.admits.deeds (p := .calling frame) h hd'

theorem ask_eq (s : System) (i : Int) (q : Query) :
    (s.ask i q).2.endpoint = s.endpoint ∧ (s.ask i q).2.phase = s.phase ∧
      (s.ask i q).2.callers = s.callers := by
  unfold ask
  split <;> exact ⟨rfl, rfl, rfl⟩

/-- A callback's call only asks, or its errand is done. -/
theorem callInside_cases (s : System) (c : Call) :
    (∃ i q, c = .ask i q) ∧ (s.callInside c).2.endpoint = s.endpoint ∨
      (s.callInside c).2.endpoint =
        (s.endpoint.conduct (c.errand s.surface s.driver s.find)).2 := by
  cases c with
  | ask i q => exact Or.inl ⟨⟨i, q, rfl⟩, (s.ask_eq i q).1⟩
  | _ => exact Or.inr rfl

/-- What a callback's call does, up to its being traced. -/
theorem callInside_deeds {s : System} (c : Call) (h : s.driver.state ≠ .created) :
    Endpoint.Deeds s.endpoint
        ((s.callInside c).2.record (.acted c.op (s.callInside c).1)).endpoint ∧
      (s.callInside c).2.callers = s.callers := by
  unfold callInside
  split
  · obtain ⟨he, -, hc⟩ := s.ask_eq _ _
    refine ⟨?_, hc⟩
    show Endpoint.Deeds s.endpoint ((s.ask _ _).2.endpoint.record _)
    rw [he]
    exact (Endpoint.Deed.act (tells_other (by simp [CallOf.op]))).one
  · have hd := Endpoint.conduct_deeds h (CallOf.errand_ne_destroy s.surface s.driver s.find c)
    exact ⟨hd.tail (.act (Endpoint.conduct_tells s.surface s.driver s.find c)), rfl⟩

theorem keepViews_eq {s s' : System} {ids : List Nat} (h : s.keepViews ids = .ok s') :
    s'.endpoint = s.endpoint ∧ s'.callers = s.callers := by
  induction ids generalizing s with
  | nil =>
    obtain rfl := Except.ok.inj h
    exact ⟨rfl, rfl⟩
  | cons id ids ih =>
    cases hv : s.store.view id with
    | error f => simp [keepViews, hv, bind, Except.bind] at h
    | ok x =>
      obtain ⟨v, store⟩ := x
      simp only [keepViews, hv, bind, Except.bind] at h
      obtain ⟨he, hc⟩ := ih h
      exact ⟨he, hc⟩

theorem act_onward {s : System} (frame : Frame)
    (h : s.driver.state = .running ∨ s.driver.state = .stopped ∨ s.driver.state = .aborted) :
    Onward s (s.act frame) := by
  unfold act
  split
  · exact endCallback_onward frame none h
  dsimp only
  split
  · -- a call, whose answer is traced
    rename_i c passOn _
    have hc : s.driver.state ≠ .created := by rcases h with h | h | h <;> simp [h]
    obtain ⟨hd, hcallers⟩ := callInside_deeds c hc
    have ha := Phase.admits.deeds (p := .calling frame) h hd
    split
    · exact (endCallback_onward _ _ ha).after hd hcallers
    · exact ⟨hd, ha, rfl, hcallers⟩
  · exact endCallback_onward _ _ h
  · exact ⟨s.record_deeds (v := .held frame.slot) rfl, h, rfl, rfl⟩
  · exact ⟨.refl, h, rfl, rfl⟩
  · split
    · rename_i s' hk
      obtain ⟨he, hcallers⟩ := keepViews_eq hk
      refine ⟨?_, ?_, rfl, hcallers⟩
      · show Endpoint.Deeds s.endpoint s'.endpoint
        rw [he]
      · show s'.endpoint.driver.state = .running ∨ _
        rw [he]
        exact h
    · exact endCallback_onward _ _ h
  · exact ⟨s.record_deeds (v := .threadNamed s.driver.threadName) rfl, h, rfl, rfl⟩

/-- Nothing that a message asks for is the error callback. -/
theorem reaction_ne_error {d : Driver} {m : Message} {slot : Slot} {args : List Parameter}
    (h : d.reaction m = .invoke slot args) : slot ≠ .error := by
  unfold Driver.reaction at h
  split at h
  · cases m <;> simp only [Reaction.ofScheduler] at h <;> cases h <;> exact Slot.noConfusion
  · cases m <;> simp only [Reaction.ofExecutor] at h <;> cases h <;> exact Slot.noConfusion

theorem running_of_active {s : Lifecycle} (h : s.isActive = true) (hs : s ≠ .started) :
    s = .running := by
  cases s <;> simp_all [Lifecycle.isActive]

theorem shut_of_inactive {s : Lifecycle} (h : s.isActive = false) (hs : s ≠ .created) :
    s = .stopped ∨ s = .aborted ∨ s = .destroyed := by
  cases s <;> simp_all [Lifecycle.isActive]

theorem take_onward {s : System} (m : Message) (rest : List Message)
    (ha : s.driver.state.isActive = true) (hs : s.driver.state ≠ .started) :
    Onward s (s.take m rest) := by
  have hr := running_of_active ha hs
  obtain ⟨hp, hps⟩ := Endpoint.prepare_deeds (e := s.endpoint.record (.taken m)) m ha
  have hd := (s.record_deeds (v := .taken m) rfl).trans hp
  have hst : ((s.endpoint.record (.taken m)).prepare m).driver.state = .running := hps.trans hr
  unfold take
  dsimp only
  split
  · rename_i slot args hre
    exact (invoke_onward args _ hst (reaction_ne_error hre)).after hd rfl
  · rename_i uuid _
    have hd' := hd.trans (Endpoint.settle_deeds _ uuid)
    have hc := Phase.admits.deeds (p := .checking)
      (show Phase.admits .checking _ by rw [hst]; simp [Phase.admits])
      (Endpoint.settle_deeds _ uuid)
    exact ⟨hd', phaseFor_admits rest hc, phaseFor_isLate rest, rfl⟩
  · refine (fail_onward _ _ ?_).after hd rfl
    show After.admits _ ((s.endpoint.record (.taken m)).prepare m).driver.state
    rw [hst]
    exact After.admits_of_running
  · refine ⟨hd.tail (.aside rfl), phaseFor_admits rest ?_, phaseFor_isLate rest, rfl⟩
    show ((s.endpoint.record (.taken m)).prepare m).driver.state ≠ _ ∧
      ((s.endpoint.record (.taken m)).prepare m).driver.state ≠ _
    rw [hst]
    exact ⟨Lifecycle.noConfusion, Lifecycle.noConfusion⟩

theorem handle_onward {s : System} (ms : List Message)
    (h : s.driver.state ≠ .created ∧ s.driver.state ≠ .started) : Onward s (s.handle ms) := by
  cases ms with
  | nil => exact ⟨.refl, h, rfl, rfl⟩
  | cons m rest =>
    by_cases ha : s.driver.state.isActive = true
    · rw [handle, if_pos ha]
      exact take_onward m rest ha h.2
    · rw [handle, if_neg ha]
      exact ⟨s.record_deeds (v := .noted (.dropped m s.driver.state)) rfl,
        phaseFor_admits rest h, phaseFor_isLate rest, rfl⟩

theorem receive_onward {s : System} (a : Arrival)
    (h : s.driver.state ≠ .created ∧ s.driver.state ≠ .started) : Onward s (s.receive a) := by
  have hu := Endpoint.useTransport_deeds s.endpoint
    (Transport.receive s.driver.settings.receiveTimeout a)
    (Transport.keeps_receive _ a _)
  have hr : Endpoint.Deed (s.endpoint.useTransport
      (Transport.receive s.driver.settings.receiveTimeout a)).2 _ :=
    .aside (v := .received (s.endpoint.useTransport
      (Transport.receive s.driver.settings.receiveTimeout a)).1) rfl
  unfold receive
  dsimp only
  split
  · exact ⟨hu.tail hr, phaseFor_admits _ h, phaseFor_isLate _, rfl⟩
  · refine (escape_onward _ ?_).after (hu.tail hr) rfl
    exact h.1

theorem proceed_onward {s : System} {r : Except Failure Unit × Endpoint} (phase : Phase)
    (hd : Endpoint.Deeds s.endpoint r.2) (h : phase.admits s.driver.state)
    (hl : phase.isLate = true) (hc : s.driver.state ≠ .created) : Onward s (s.proceed r phase) := by
  have ha := h.deeds hd
  unfold proceed
  dsimp only
  split
  · exact ⟨hd, ha, hl, rfl⟩
  · refine (escape_onward _ ?_).after hd rfl
    exact Phase.admits.deeds (p := .closing none) hc hd

/-- What the dispatch thread does past the join. -/
theorem dispatch_onward {s : System} (h : s.phase.admits s.driver.state)
    (hl : s.phase.isLate = true) : Onward s s.dispatch := by
  have hrefl : Onward s s := ⟨.refl, h, hl, rfl⟩
  unfold dispatch
  split
  all_goals rename_i hp
  all_goals rw [hp] at h hl
  · exact absurd hl (by decide)
  · exact hrefl
  · exact absurd hl (by decide)
  · exact absurd hl (by decide)
  · exact absurd hl (by decide)
  · -- a round begins
    refine ⟨.refl, ?_, ?_, rfl⟩
    · dsimp only
      split
      · exact h
      · exact h.1
    · dsimp only
      split <;> rfl
  · split
    · exact ⟨.refl, h, rfl, rfl⟩
    · exact ⟨.refl, h, rfl, rfl⟩
  · exact fail_onward _ _ h.1
  · split
    · rename_i f _
      refine (escape_onward f ?_).after (s.record_deeds (v := .received (.error f)) rfl) rfl
      exact h.1
    · exact hrefl
    · refine (receive_onward _ ?_).after .refl rfl
      exact h
  · exact handle_onward _ h
  · split
    · rename_i ha
      exact proceed_onward .checking (Endpoint.tick_deeds ha) h rfl h.1
    · exact ⟨.refl, h, rfl, rfl⟩
  · exact fail_onward _ _ h
  · split
    · exact hrefl
    · exact act_onward _ h
  · refine ⟨Endpoint.leave_deeds h, ?_, rfl, rfl⟩
    obtain ⟨hi, hc⟩ := Endpoint.breakOff_state h
    exact shut_of_inactive ((congrArg _ (Endpoint.leave_state _)).trans hi)
      (by rw [Endpoint.leave_state]; exact hc)
  · rename_i cause
    have hd := s.endpoint.signal_deeds
    have ha := Phase.admits.deeds (p := .ended) h hd
    dsimp only
    split
    · exact ⟨hd.tail (.aside (v := .threadRaised _) rfl), ha, rfl, rfl⟩
    · exact ⟨hd, ha, rfl, rfl⟩

end System

end ClusterLink
