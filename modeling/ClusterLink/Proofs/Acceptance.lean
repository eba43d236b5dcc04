/-
# Acceptance

Which messages the operations of a driver accept for sending. A command that
is answered with running accepts one message, and no other command accepts
any; a stop accepts the farewell, if there is one; the dispatch thread
accepts the acknowledgement of a status update whose callback returned, and
the updates that it sends again. Nothing else that is done in a region
accepts a message.

Key definitions: `Update.Renewed`, `Endpoint.messageOf`, `Endpoint.submits`,
`Endpoint.acknowledges`, `Endpoint.retries`, `Endpoint.overdue`.
Key theorems: `Endpoint.region_accepts`, `Endpoint.conclude_accepts`,
`Endpoint.prepare_accepts`, `Endpoint.tick_accepts`.
-/
import ClusterLink.Proofs.Deed
import Mathlib.Data.List.Forall2

namespace ClusterLink

open History

/-- The update is as it was, but if it is due it has a stamp from `c` on. -/
structure Update.Renewed (due : Update → Bool) (c : Int) (u v : Update) : Prop where
  uuid : v.uuid = u.uuid
  status : v.status = u.status
  kept : due u = false → v = u
  stamped : due u = true → c ≤ v.stamp

namespace Endpoint

variable (e : Endpoint)

/-! ### What is accepted -/

/-- The message of a command, if it is given now. -/
def messageOf (c : Command) : Message :=
  e.driver.order (e.surroundings.ids (e.surroundings.drawn + 1)) c

/-- The messages that a region accepts. -/
def submits : Region → List Message
  | .give c => if e.driver.state.isActive then [e.messageOf c] else []
  | .stop failover =>
    if e.driver.state.isActive then (e.driver.farewell failover).toList else []
  | _ => []

theorem submits_give (c : Command) : e.submits (.give c) =
    if e.driver.state.isActive then [e.messageOf c] else [] := rfl

theorem submits_stop (failover : Bool) : e.submits (.stop failover) =
    if e.driver.state.isActive then (e.driver.farewell failover).toList else [] := rfl

/-- The messages that an errand accepts. -/
def carries : Errand → List Message
  | .region r => e.submits r
  | _ => []

/-- The updates in flight, for a message that has them sent again. -/
def retries (m : Message) : List Message :=
  match e.driver.role, m with
  | .executor, .executorReregistered _ => e.driver.inflight.map Update.message
  | _, _ => []

/-- The updates in flight that were not acknowledged in time. -/
def overdue : List Message :=
  match e.driver.role, e.resendAge with
  | .executor, .ok age =>
    (e.driver.inflight.filter fun u => decide (u.stamp < e.surroundings.clock - age)).map
      Update.message
  | _, _ => []

/-- The acknowledgement that is due once the callback of a message returned. -/
def acknowledges : Message → List Message
  | .statusUpdate _ uuid =>
    if e.driver.role = .scheduler ∧ uuid ≠ [] ∧ e.driver.state.isActive = true then
      [.statusUpdateAcknowledgement e.driver.frameworkId uuid]
    else []
  | _ => []

/-! ### Operations that accept nothing -/

theorem accepted_append {new h : List Event} (hn : ∀ v ∈ new, v.accepted? = none) :
    accepted (new ++ h) = accepted h := by
  induction new with
  | nil => rfl
  | cons v new ih =>
    rw [List.cons_append, accepted_cons, hn v List.mem_cons_self,
      ih fun w hw => hn w (List.mem_cons_of_mem _ hw)]
    simp

@[simp] theorem push_accepted (m : Message) :
    accepted (e.push m).history = accepted e.history := by
  obtain ⟨new, hh, hn⟩ := push_history e m
  rw [hh]
  refine accepted_append fun v hv => ?_
  rcases hn v hv with hv | hv
  · exact Event.isAside.accepted? hv
  · cases v <;> first | rfl | cases hv

@[simp] theorem submit_accepted (why : Cause) (m : Message) :
    accepted (e.submit why m).history = accepted e.history ++ [m] := by
  simp [submit, record, Event.accepted?]

@[simp] theorem note_accepted (n : Note) : accepted (e.note n).history = accepted e.history := by
  simp [note, record, Event.accepted?]

@[simp] theorem become_accepted (s : Lifecycle) :
    accepted (e.become s).history = accepted e.history := by
  simp [become, record, Event.accepted?]

theorem start_accepted : accepted e.start.2.history = accepted e.history := by
  unfold start
  split
  · rfl
  split
  · exact note_accepted _ _
  dsimp only
  split
  · rfl
  · rw [note_accepted, become_accepted]
    simp [record, Event.accepted?]

theorem abort_accepted : accepted e.abort.2.history = accepted e.history := by
  unfold abort
  split
  · rfl
  split
  · exact note_accepted _ _
  · rw [note_accepted, become_accepted]

theorem condemn_accepted : accepted e.condemn.history = accepted e.history := by
  unfold condemn
  split
  · rw [become_accepted, note_accepted]
  · rfl

theorem destroy_accepted : accepted e.destroy.2.history = accepted e.history := by
  unfold destroy
  split
  · rfl
  · rw [note_accepted, become_accepted]

/-! ### Regions -/

/-- A command is answered with running exactly by an active driver, which accepts its message. -/
theorem order_accepts (c : Command) :
    ((e.order c).1 = .ok .running ↔ e.driver.state.isActive = true) ∧
      accepted (e.order c).2.history = accepted e.history ++ e.submits (.give c) := by
  rw [submits_give]
  unfold order
  by_cases hd : e.driver.state = .destroyed
  · simp [hd, Lifecycle.isActive]
  by_cases ha : e.driver.state.isActive = true
  · rw [if_neg hd, if_neg (by simp [ha]), if_pos ha]
    refine ⟨by simp [ha], ?_⟩
    cases c <;> exact submit_accepted _ _ _
  · rw [if_neg hd, if_pos (by simpa using ha), if_neg ha]
    simp [ha]

theorem stop_accepts (failover : Bool) :
    ((e.stop failover).1 = .ok .stopped ↔ e.driver.state.isActive = true) ∧
      accepted (e.stop failover).2.history = accepted e.history ++ e.submits (.stop failover) := by
  rw [submits_stop]
  unfold stop
  by_cases hd : e.driver.state = .destroyed
  · simp [hd, Lifecycle.isActive]
  by_cases ha : e.driver.state.isActive = true
  · rw [if_neg hd, if_neg (by simp [ha]), if_pos ha]
    refine ⟨by simp [ha], ?_⟩
    dsimp only
    cases e.driver.farewell failover <;> simp
  · rw [if_neg hd, if_pos (by simpa using ha), if_neg ha]
    simp [ha, refuse]

/-- What the regions of callers and callbacks accept. -/
theorem region_accepts (inside : Bool) (r : Region) :
    accepted (e.region inside r).2.history = accepted e.history ++ e.submits r := by
  cases r with
  | start thenJoin => rw [region_start, start_accepted]; simp [submits]
  | stop failover => exact (e.stop_accepts failover).2
  | abort => exact e.abort_accepted.trans (by simp [submits])
  | join => rw [region_join]; simp [submits]
  | condemn =>
    simp only [region, submits, List.append_nil]
    split
    · rfl
    split
    · rfl
    · exact e.condemn_accepted
  | destroy => exact e.destroy_accepted.trans (by simp [submits])
  | give c => exact (e.order_accepts c).2
  | turnDown op =>
    simp only [region, submits, List.append_nil]
    split
    · rfl
    · exact note_accepted _ _
  | state => simp [region, submits]
  | status => simp [region, submits]

/-! ### The dispatch thread -/

theorem conclude_accepts (m : Message) :
    accepted (e.conclude m).history = accepted e.history ++ e.acknowledges m := by
  cases hr : e.driver.role with
  | scheduler =>
    cases m with
    | statusUpdate s uuid =>
      simp only [conclude, acknowledges, hr, true_and]
      split
      · exact submit_accepted _ _ _
      · simp
    | _ => simp [conclude, acknowledges, hr]
  | executor =>
    cases m with
    | shutdownExecutor =>
      simp only [conclude, acknowledges, hr, List.append_nil]
      split
      · exact e.abort_accepted
      · rfl
    | _ => simp [conclude, acknowledges, hr]

/-- Sending again goes through the ledger in order, up to its end or to an update that is due and
cannot be announced: what is due in front of that is accepted and stamped, and nothing else becomes
of the ledger. -/
theorem resendFrom_accepts (due : Update → Bool) (announced : Bool) (us : Ledger) :
    ∃ front front' rest, us = front ++ rest ∧
      (e.resendFrom due announced us).2.2 = front' ++ rest ∧
      List.Forall₂ (Update.Renewed due e.surroundings.clock) front front' ∧
      accepted (e.resendFrom due announced us).2.1.history =
        accepted e.history ++ (front.filter due).map Update.message ∧
      (((e.resendFrom due announced us).1 = .ok () ∧ rest = []) ∨
        (announced = true ∧ ∃ f u vs, (e.resendFrom due announced us).1 = .error f ∧
          rest = u :: vs ∧ due u = true ∧
          (e.resendFrom due announced us).2.1.announce u = .error f)) := by
  induction us generalizing e with
  | nil => exact ⟨[], [], [], rfl, rfl, .nil, by simp [resendFrom], Or.inl ⟨rfl, rfl⟩⟩
  | cons u us ih =>
    by_cases hu : due u = true
    · rcases e.resendFrom_due announced us hu with ⟨ha, f, hf, h⟩ | ⟨x, hx, h⟩
      · rw [h]
        exact ⟨[], [], u :: us, rfl, rfl, .nil, by simp,
          Or.inr ⟨ha, f, u, us, rfl, rfl, hu, hf⟩⟩
      · obtain ⟨front, front', rest, rfl, hl, hr, hacc, hend⟩ :=
          ih (x.submit .resend u.message)
        have hsame : x.surroundings = e.surroundings ∧ accepted x.history = accepted e.history := by
          rcases hx with rfl | ⟨n, rfl⟩
          · exact ⟨rfl, rfl⟩
          · exact ⟨rfl, note_accepted e n⟩
        have hc : e.surroundings.clock ≤ (x.submit .resend u.message).surroundings.clock :=
          hsame.1 ▸ x.submit_clock .resend u.message
        rw [h]
        refine ⟨u :: front, _ :: front', rest, rfl, by rw [hl]; rfl, .cons ?_ ?_, ?_, hend⟩
        · exact ⟨rfl, rfl, fun hn => absurd hu (by simp [hn]), fun _ => hc⟩
        · -- what is handed over later is stamped later
          exact hr.imp fun _ _ hv =>
            ⟨hv.uuid, hv.status, hv.kept, fun hd => Int.le_trans hc (hv.stamped hd)⟩
        · rw [hacc, submit_accepted, hsame.2, List.filter_cons_of_pos hu, List.map_cons,
            List.append_assoc, List.singleton_append]
    · obtain ⟨front, front', rest, rfl, hl, hr, hacc, hend⟩ := ih e
      rw [e.resendFrom_not_due announced _ hu]
      refine ⟨u :: front, u :: front', rest, rfl, by rw [hl]; rfl, .cons ?_ hr, ?_, hend⟩
      · exact ⟨rfl, rfl, fun _ => rfl, fun hd => absurd hd hu⟩
      · rw [hacc, List.filter_cons_of_neg hu]

theorem resend_accepts (due : Update → Bool) (announced : Bool) :
    ∃ sent, sent <+: (e.driver.inflight.filter due).map Update.message ∧
      accepted (e.resend due announced).2.history = accepted e.history ++ sent ∧
      ((e.resend due announced).1 = .ok () →
        sent = (e.driver.inflight.filter due).map Update.message) := by
  obtain ⟨front, _, rest, hl, -, -, hacc, hend⟩ :=
    e.resendFrom_accepts due announced e.driver.inflight
  refine ⟨_, ?_, hacc, fun hok => ?_⟩
  · rw [hl, List.filter_append, List.map_append]
    exact List.prefix_append _ _
  · obtain ⟨-, rfl⟩ := hend.resolve_right fun ⟨_, _, _, _, hf, _⟩ => by
      have hf := hok.symm.trans hf
      cases hf
    rw [hl, List.append_nil]

/-- Updates that need not be announced are all sent again. -/
theorem resendFrom_ok (due : Update → Bool) (us : Ledger) :
    (e.resendFrom due false us).1 = .ok () := by
  obtain ⟨_, _, _, -, -, -, -, hend⟩ := e.resendFrom_accepts due false us
  exact (hend.resolve_right fun h => Bool.noConfusion h.1).1

/-- Once per round, the updates are sent again that were not acknowledged in time. -/
theorem tick_accepts : ∃ sent, sent <+: e.overdue ∧
    accepted e.tick.2.history = accepted e.history ++ sent ∧
    (e.tick.1 = .ok () → sent = e.overdue) := by
  unfold tick overdue
  cases hr : e.driver.role with
  | scheduler => exact ⟨[], List.nil_prefix, by simp, fun _ => rfl⟩
  | executor =>
    cases ha : e.resendAge with
    | error f => exact ⟨[], List.nil_prefix, by simp, fun _ => rfl⟩
    | ok age => exact e.resend_accepts _ true

/-- Before its callback, a message may have all updates sent again. -/
theorem prepare_accepts (m : Message) :
    accepted (e.prepare m).history = accepted e.history ++ e.retries m := by
  obtain ⟨sent, -, ha, hall⟩ := e.resend_accepts (fun _ => true) false
  have hsent : sent = e.driver.inflight.map Update.message := by
    have hok : (e.resend (fun _ => true) false).1 = .ok () := e.resendFrom_ok _ _
    rw [hall hok, List.filter_true]
  rw [hsent] at ha
  unfold prepare retries
  cases hr : e.driver.role with
  | scheduler => cases m <;> simp
  | executor => cases m <;> simp [ha]

/-- What an errand accepts that is done on the dispatch thread. -/
theorem conduct_accepts {errand : Errand} (h : e.driver.state ≠ .created) :
    accepted (e.conduct errand).2.history = accepted e.history ++ e.carries errand := by
  cases errand with
  | region r =>
    have hr := e.region_accepts true r
    unfold conduct carries
    dsimp only
    split
    · rename_i r' e' he
      exact absurd (region_region he) h
    · rename_i he
      rwa [he] at hr
  | _ => simp [conduct, carries]

theorem useTransport_accepted {α : Type} (f : Transport → Except Failure α × Transport) :
    accepted (e.useTransport f).2.history = accepted e.history := by
  obtain ⟨cs, hh⟩ := useTransport_history e f
  rw [hh]
  exact accepted_append fun v hv => Event.isAside.accepted? (isAside_of_mem_called hv)

theorem record_accepted {v : Event} (hv : v.isAside = true) :
    accepted (e.record v).history = accepted e.history := by
  simp [record, Event.isAside.accepted? hv]

theorem connectStart_accepted : accepted e.connectStart.2.history = accepted e.history :=
  (useTransport_accepted _ _).trans (e.record_accepted rfl)

theorem connectEnd_accepted : accepted e.connectEnd.2.history = accepted e.history := by
  have h := e.useTransport_accepted Transport.connectEnd
  unfold connectEnd
  dsimp only
  split
  · exact h
  · split
    · exact (record_accepted _ rfl).trans h
    · exact ((note_accepted _ _).trans (record_accepted _ rfl)).trans h

theorem settle_accepted (uuid : Bytes) : accepted (e.settle uuid).history = accepted e.history := by
  unfold settle
  split
  · rfl
  · exact note_accepted _ _

theorem breakOff_accepted : accepted e.breakOff.history = accepted e.history := by
  unfold breakOff
  split
  · exact become_accepted _ _
  · rfl

theorem leave_accepted : accepted e.leave.history = accepted e.history := by
  have hc : ∀ e : Endpoint, accepted e.closeTransport.history = accepted e.history := by
    intro e
    have h := e.useTransport_accepted Transport.close
    unfold closeTransport
    dsimp only
    split
    · exact (record_accepted _ rfl).trans h
    · exact ((note_accepted _ _).trans (record_accepted _ rfl)).trans h
  exact (hc _).trans e.breakOff_accepted

theorem pushAll_accepted (ms : List Message) :
    accepted (e.pushAll ms).history = accepted e.history := by
  induction ms generalizing e with
  | nil => rfl
  | cons m ms ih => exact (ih (e.push m)).trans (e.push_accepted m)

/-- Joining the cluster accepts nothing: the registration was not given by anybody, and what waited
was accepted before. -/
theorem enter_accepted : accepted e.enter.2.history = accepted e.history := by
  unfold enter
  split
  · exact note_accepted _ _
  dsimp only
  split
  · rfl
  · rw [note_accepted, become_accepted, pushAll_accepted]
    exact push_accepted _ _

/-- Who gives a command or stops the driver is told whether that is accepted. -/
structure Answers (e : Endpoint) : Prop where
  command : ∀ inside c, (e.region inside (.give c)).1 = .finished (.ok (.status .running)) ↔
    e.driver.state.isActive = true
  stop : ∀ inside failover,
    (e.region inside (.stop failover)).1 = .finished (.ok (.status .stopped)) ↔
      e.driver.state.isActive = true

theorem reported_iff {r : Except Failure Status × Endpoint} {status : Status} :
    (reported r).1 = .finished (.ok (.status status)) ↔ r.1 = .ok status := by
  obtain ⟨r, e⟩ := r
  cases r <;> simp [reported, Except.map]

theorem answers : e.Answers where
  command _ c := reported_iff.trans (e.order_accepts c).1
  stop _ failover := reported_iff.trans (e.stop_accepts failover).1

end Endpoint

end ClusterLink
