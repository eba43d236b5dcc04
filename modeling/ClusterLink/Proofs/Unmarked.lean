/-
# What does not bear on acknowledgements

A scheduler acknowledges status updates and is registered with an identifier
in two moves only: when the dispatch thread takes a message up, and when the
callback for a status update returns. Whatever else its driver does, it
accepts no acknowledgement, takes nothing up and keeps its identifier
(`Endpoint.Unmarked`). That holds of every operation but `Endpoint.prepare`
and `Endpoint.conclude`, and from these of every other move
(`System.step_unmarked`).

Key definitions: `Endpoint.Unmarked`, `System.Marking`.
Key theorems: `Endpoint.region_unmarked`, `System.act_unmarked`,
`System.step_unmarked`.
-/
import ClusterLink.Proofs.Episode
import ClusterLink.Proofs.Provenance

namespace ClusterLink

open History

namespace Endpoint

/-- Nothing happens that bears on acknowledgements. -/
structure Unmarked (e e' : Endpoint) : Prop where
  role : e'.driver.role = e.driver.role
  frameworkId : e'.driver.frameworkId = e.driver.frameworkId
  history : ∃ new : List Event, e'.history = new ++ e.history ∧ ∀ v ∈ new, v.isMark = false

variable {e e' e'' : Endpoint}

namespace Unmarked

theorem refl (e : Endpoint) : Unmarked e e := ⟨rfl, rfl, [], rfl, by simp⟩

theorem trans (h : Unmarked e e') (h' : Unmarked e' e'') : Unmarked e e'' := by
  obtain ⟨new, hh, hn⟩ := h.history
  obtain ⟨new', hh', hn'⟩ := h'.history
  refine ⟨h'.role.trans h.role, h'.frameworkId.trans h.frameworkId, new' ++ new, ?_,
    fun v hv => ?_⟩
  · rw [hh', hh, List.append_assoc]
  · rcases List.mem_append.mp hv with hv | hv
    · exact hn' v hv
    · exact hn v hv

theorem of_eq (hr : e'.driver.role = e.driver.role)
    (hf : e'.driver.frameworkId = e.driver.frameworkId) (hh : e'.history = e.history) :
    Unmarked e e' := ⟨hr, hf, [], hh, by simp⟩

theorem record (e : Endpoint) {v : Event} (hv : v.isMark = false) : Unmarked e (e.record v) :=
  ⟨rfl, rfl, [v], rfl, by simpa using hv⟩

end Unmarked

theorem note_unmarked (e : Endpoint) (n : Note) : Unmarked e (e.note n) := .record e rfl

theorem become_unmarked (e : Endpoint) (s : Lifecycle) : Unmarked e (e.become s) :=
  ⟨rfl, rfl, [.became s], rfl, by simp [Event.isMark, Event.isReturn]⟩

/-! ### Handing messages over -/

theorem isMark_of_chore {v : Event} (h : v.isChore = true) : v.isMark = false := by
  cases v <;> first | rfl | cases h

theorem isMark_of_passed {v : Event} {x : Message × Bool} (h : v.passed? = some x) :
    v.isMark = false := by
  cases v <;> first | rfl | cases h

theorem push_unmarked (e : Endpoint) (m : Message) : Unmarked e (e.push m) := by
  obtain ⟨b, p, hd⟩ := push_driver e m
  rcases push_cases e m with ⟨-, h⟩ | ⟨-, -, new, hh, hn⟩
  · rw [h]
    exact .of_eq rfl rfl rfl
  · refine ⟨by rw [hd], by rw [hd], new, hh, fun v hv => ?_⟩
    rcases hn v hv with hv | ⟨ok, hv⟩
    · exact isMark_of_chore hv
    · exact isMark_of_passed hv

theorem submit_unmarked (e : Endpoint) (why : Cause) {m : Message}
    (hm : m.isAcknowledgement = false) : Unmarked e (e.submit why m) := by
  have h1 : Unmarked e (e.record (.accepted why m)) := .record e hm
  exact h1.trans (push_unmarked _ m)

theorem pushAll_unmarked (e : Endpoint) (ms : List Message) : Unmarked e (e.pushAll ms) := by
  induction ms generalizing e with
  | nil => exact .refl e
  | cons m ms ih => exact (push_unmarked e m).trans (ih (e.push m))

theorem enter_unmarked (e : Endpoint) : Unmarked e e.enter.2 := by
  rcases e.enter_cases with ⟨-, h⟩ | ⟨-, f, -, h⟩ | ⟨-, replyTo, -, h⟩
  · rw [h]
    exact (note_unmarked e (.leftEarly e.driver.backlog.length)).trans (.of_eq rfl rfl rfl)
  · rw [h]
    exact .of_eq rfl rfl rfl
  · have h1 : Unmarked e { e with driver.connected := true } := .of_eq rfl rfl rfl
    have h2 := h1.trans (push_unmarked _ (e.driver.registration replyTo))
    have hdrop : ∀ x : Endpoint, Unmarked x { x with driver.backlog := [] } := fun _ =>
      .of_eq rfl rfl rfl
    have h3 : Unmarked e (e.flush replyTo) := (h2.trans (hdrop _)).trans (pushAll_unmarked _ _)
    rw [h]
    exact (h3.trans (become_unmarked _ .running)).trans (note_unmarked _ _)

/-! ### The transport -/

theorem useTransport_unmarked {α : Type} (e : Endpoint)
    (f : Transport → Except Failure α × Transport) : Unmarked e (e.useTransport f).2 := by
  obtain ⟨cs, hh⟩ := useTransport_history e f
  refine ⟨rfl, rfl, cs.map .called, hh, fun v hv => ?_⟩
  obtain ⟨c, -, rfl⟩ := List.mem_map.mp hv
  rfl

theorem connectStart_unmarked (e : Endpoint) : Unmarked e e.connectStart.2 := by
  have h1 : Unmarked e (e.record .connecting) := .record e rfl
  exact h1.trans (useTransport_unmarked _ _)

theorem connectEnd_unmarked (e : Endpoint) : Unmarked e e.connectEnd.2 := by
  have h1 := useTransport_unmarked e Transport.connectEnd
  have h2 := h1.trans (.record _ (v := .connected) rfl)
  unfold connectEnd
  dsimp only
  split
  · exact h1
  · split
    · exact h2
    · exact h2.trans (note_unmarked _ _)

theorem breakOff_unmarked (e : Endpoint) : Unmarked e e.breakOff := by
  unfold breakOff
  split
  · exact become_unmarked _ _
  · exact .refl e

theorem leave_unmarked (e : Endpoint) : Unmarked e e.leave := by
  have hclose : ∀ x : Endpoint, Unmarked x x.closeTransport := fun x => by
    have h1 := (useTransport_unmarked x Transport.close).trans (.record _ (v := .closed) rfl)
    unfold closeTransport
    dsimp only
    split
    · exact h1
    · exact h1.trans (note_unmarked _ _)
  refine (breakOff_unmarked e).trans (Unmarked.trans ?_ (hclose _))
  exact .of_eq rfl rfl rfl

/-! ### Commands and lifecycle calls -/

theorem order_isAcknowledgement (d : Driver) (uuid : Bytes) (c : Command) :
    (d.order uuid c).isAcknowledgement = false := by
  cases c <;> rfl

theorem order_unmarked (e : Endpoint) (c : Command) : Unmarked e (e.order c).2 := by
  unfold order
  split
  · exact .refl e
  split
  · exact note_unmarked _ _
  · cases c with
    | updateStatus status =>
      have h1 : Unmarked e (e.enroll status) := .of_eq rfl rfl rfl
      exact h1.trans (submit_unmarked _ _ rfl)
    | _ => exact submit_unmarked _ _ (order_isAcknowledgement _ _ _)

theorem start_unmarked (e : Endpoint) : Unmarked e e.start.2 := by
  unfold start
  split
  · exact .refl e
  split
  · exact note_unmarked _ _
  dsimp only
  split
  · exact .of_eq rfl rfl rfl
  · have h1 : Unmarked e { e with surroundings.making := e.surroundings.making.tail } :=
      .of_eq rfl rfl rfl
    have h2 := h1.trans (.record _ (v := .transportMade e.driver.remote) rfl)
    refine Unmarked.trans (Unmarked.trans ?_ (become_unmarked _ .started)) (note_unmarked _ _)
    exact h2.trans (.of_eq rfl rfl rfl)

theorem stop_unmarked (e : Endpoint) (failover : Bool) : Unmarked e (e.stop failover).2 := by
  unfold stop
  split
  · exact .refl e
  split
  · exact note_unmarked _ _
  dsimp only
  split
  · rename_i m hm
    have hack : m.isAcknowledgement = false := by
      unfold Driver.farewell at hm
      split at hm
      · split at hm
        · cases hm
        · obtain rfl := Option.some.inj hm
          rfl
      · cases hm
    exact ((submit_unmarked e .farewell hack).trans (become_unmarked _ _)).trans
      (note_unmarked _ _)
  · exact (become_unmarked _ _).trans (note_unmarked _ _)

theorem abort_unmarked (e : Endpoint) : Unmarked e e.abort.2 := by
  unfold abort
  split
  · exact .refl e
  split
  · exact note_unmarked _ _
  · exact (become_unmarked _ _).trans (note_unmarked _ _)

theorem condemn_unmarked (e : Endpoint) : Unmarked e e.condemn := by
  unfold condemn
  split
  · exact (note_unmarked _ _).trans (become_unmarked _ _)
  · exact .refl e

theorem destroy_unmarked (e : Endpoint) : Unmarked e e.destroy.2 := by
  unfold destroy
  split
  · exact .refl e
  · have h1 : Unmarked e { e with driver.attached := false, driver.backlog := [] } :=
      .of_eq rfl rfl rfl
    exact (h1.trans (become_unmarked _ .destroyed)).trans (note_unmarked _ .destroyed)

/-- Nothing that is done in a region bears on acknowledgements. -/
theorem region_unmarked (e : Endpoint) (inside : Bool) (r : Region) :
    Unmarked e (e.region inside r).2 := by
  cases r with
  | start thenJoin =>
    rw [region_start]
    exact start_unmarked e
  | stop failover => exact stop_unmarked e failover
  | abort => exact abort_unmarked e
  | join =>
    rw [region_join]
    exact .refl e
  | condemn =>
    simp only [region]
    split
    · exact .refl e
    split
    · exact .refl e
    · exact condemn_unmarked e
  | destroy => exact destroy_unmarked e
  | give c => exact order_unmarked e c
  | turnDown op =>
    simp only [region]
    split
    · exact .refl e
    · exact note_unmarked _ _
  | state => exact .refl e
  | status => exact .refl e

theorem conduct_unmarked (e : Endpoint) (errand : Errand) : Unmarked e (e.conduct errand).2 := by
  cases errand with
  | region r =>
    have h1 := region_unmarked e true r
    unfold conduct
    dsimp only
    split
    · rename_i r' e' hreg
      rw [hreg] at h1
      exact h1.trans (region_unmarked e' true r')
    · rename_i hreg
      rw [hreg] at h1
      exact h1
  | _ => exact .refl e

/-- A scheduler that has nothing to acknowledge does nothing after a callback. -/
theorem conclude_of_nil (hr : e.driver.role = .scheduler) {m : Message}
    (h : e.acknowledges m = []) : e.conclude m = e := by
  unfold conclude
  unfold acknowledges at h
  rw [hr] at h ⊢
  cases m with
  | statusUpdate status uuid =>
    by_cases hc : uuid ≠ [] ∧ e.driver.state.isActive = true
    · simp [hc] at h
    · exact if_neg hc
  | _ => rfl

end Endpoint

namespace System

variable {s t : System}

/-- Nothing happens to the driver that bears on acknowledgements. -/
def Unmarked (s s' : System) : Prop := Endpoint.Unmarked s.endpoint s'.endpoint

theorem Unmarked.after {s' : System} (h : Unmarked t s')
    (h1 : Endpoint.Unmarked s.endpoint t.endpoint) : Unmarked s s' :=
  h1.trans h

/-! ### Operations of the dispatch thread -/

/-- The dispatch thread goes on after a callback, with nothing to acknowledge. -/
theorem resume_unmarked (hr : s.driver.role = .scheduler) {after : After}
    (h : s.endpoint.resumes after = []) : s.Unmarked (s.resume after) := by
  cases after with
  | message m rest =>
    have hc : s.endpoint.conclude m = s.endpoint := Endpoint.conclude_of_nil hr h
    show Endpoint.Unmarked s.endpoint (s.endpoint.conclude m)
    rw [hc]
    exact .refl _
  | _ => exact .refl _

theorem escape_unmarked (s : System) (f : Failure) : s.Unmarked (s.escape f) := by
  have h1 : Endpoint.Unmarked s.endpoint (s.record (.escaped f)).endpoint := .record _ rfl
  unfold escape
  dsimp only
  split
  · exact h1.trans (Endpoint.note_unmarked _ _)
  · exact h1.trans (Endpoint.note_unmarked _ _)

theorem proceed_unmarked {r : Except Failure Unit × Endpoint} (phase : Phase)
    (h : Endpoint.Unmarked s.endpoint r.2) : s.Unmarked (s.proceed r phase) := by
  unfold proceed
  dsimp only
  split
  · exact h
  · exact (escape_unmarked _ _).after h

/-- A callback begins, or the thread goes on at once without an acknowledgement. -/
theorem invoke_unmarked (hr : s.driver.role = .scheduler) (slot : Slot) (args : List Parameter)
    {after : After} (h : s.driver.table.binds slot = false → s.endpoint.resumes after = []) :
    s.Unmarked (s.invoke slot args after) := by
  unfold invoke
  by_cases hb : s.driver.table.binds slot = true
  · rw [if_pos hb]
    exact .record s.endpoint (v := .began slot s.driver.state s.driver.payload args) rfl
  · rw [if_neg hb]
    exact resume_unmarked hr (h (by simpa using hb))

theorem fail_unmarked (hr : s.driver.role = .scheduler) (message : WideText) (after : After) :
    s.Unmarked (s.fail message after) := by
  have hgive : Endpoint.Unmarked s.endpoint (s.giveUp message).endpoint :=
    (Endpoint.note_unmarked _ _).trans (Endpoint.become_unmarked _ _)
  rcases s.fail_cases message after with ⟨-, b, -, he⟩ | ⟨-, -, he⟩ | ⟨hi, he⟩ <;> rw [he]
  · refine (invoke_unmarked (s := s.giveUp message) hr .error _ ?_).after hgive
    exact fun _ => Endpoint.resumes_of_inactive _ rfl after
  · exact (escape_unmarked _ _).after hgive
  · have h1 := s.endpoint.note_unmarked (.failedLate message)
    refine (resume_unmarked (s := s.note (.failedLate message)) hr ?_).after h1
    exact Endpoint.resumes_of_inactive _ hi after

/-- A callback that fails is followed by no acknowledgement. -/
theorem broke_unmarked (hr : s.driver.role = .scheduler) (frame : Frame) (f : Failure) :
    s.Unmarked (s.endCallback frame (some f)) := by
  have h1 : Endpoint.Unmarked s.endpoint (s.endpoint.record (.broke frame.slot f)) :=
    .record _ rfl
  by_cases hf : f.isMisuse = true
  · have h2 := h1.trans (Endpoint.become_unmarked _ .aborted)
    simp only [endCallback, hf, if_true]
    split
    · exact h2
    · exact (escape_unmarked _ f).after h2
  · have hf : f.isMisuse = false := by simpa using hf
    have h2 := h1.trans (Endpoint.note_unmarked _ (.callbackFailed frame.slot))
    have h3 := h2.trans (Endpoint.breakOff_unmarked _)
    simp only [endCallback, hf, Bool.false_eq_true, if_false]
    refine (resume_unmarked ?_ ?_).after h3
    · exact h3.role.trans hr
    · exact Endpoint.resumes_of_inactive _ (Endpoint.breakOff_inactive _) frame.after

/-- A callback's call, up to its being traced. -/
theorem callInside_unmarked (s : System) (c : Call) :
    Endpoint.Unmarked s.endpoint
      ((s.callInside c).2.record (.acted c.op (s.callInside c).1)).endpoint := by
  have hcall : Endpoint.Unmarked s.endpoint (s.callInside c).2.endpoint := by
    rcases s.callInside_cases c with ⟨-, hc⟩ | hc
    · rw [hc]
      exact .refl _
    · rw [hc]
      exact s.endpoint.conduct_unmarked _
  exact hcall.trans (.record _ rfl)

/-- What a callback does, unless it returns. -/
theorem act_unmarked (hr : s.driver.role = .scheduler) {frame : Frame}
    (h : frame.actions ≠ []) : s.Unmarked (s.act frame) := by
  obtain ⟨slot, lent, actions, held, after⟩ := frame
  cases actions with
  | nil => exact absurd rfl h
  | cons a actions =>
    cases a with
    | call c passOn =>
      have h1 := s.callInside_unmarked c
      simp only [act]
      split
      · exact (broke_unmarked (h1.role.trans hr) _ _).after h1
      · exact h1
    | raise f => exact broke_unmarked hr _ f
    | hold => exact .record s.endpoint (v := .held slot) rfl
    | keep => exact .refl _
    | keepViews =>
      simp only [act]
      split
      · rename_i s' hk
        unfold Unmarked
        dsimp only
        rw [(keepViews_eq hk).1]
        exact .refl _
      · exact broke_unmarked hr _ _
    | nameThread => exact .record s.endpoint (v := .threadNamed s.driver.threadName) rfl

theorem receive_unmarked (s : System) (a : Arrival) : s.Unmarked (s.receive a) := by
  have h1 := (Endpoint.useTransport_unmarked s.endpoint
    (Transport.receive s.driver.settings.receiveTimeout a)).trans
      (.record _ (v := .received (s.endpoint.useTransport
        (Transport.receive s.driver.settings.receiveTimeout a)).1) rfl)
  unfold receive
  dsimp only
  split
  · exact h1
  · exact (escape_unmarked _ _).after h1

/-- Whether with its next move the dispatch thread takes a message up, or a callback returns. -/
def Marking (s : System) : Prop :=
  (∃ m rest, s.phase = .handling (m :: rest) ∧ s.driver.state.isActive = true) ∨
    ∃ frame, s.phase = .calling frame ∧ frame.held = false ∧ frame.actions = []

/-- Any other move of the dispatch thread does not bear on acknowledgements. -/
theorem dispatch_unmarked (hr : s.driver.role = .scheduler) (h : ¬ s.Marking) :
    s.Unmarked s.dispatch := by
  have hrefl : s.Unmarked s := .refl _
  unfold dispatch
  split
  all_goals rename_i hp
  · exact hrefl
  · exact hrefl
  · split
    · exact proceed_unmarked _ s.endpoint.connectStart_unmarked
    · exact .record s.endpoint (v := .threadRaised _) rfl
  · exact proceed_unmarked _ s.endpoint.connectEnd_unmarked
  · exact proceed_unmarked _ s.endpoint.enter_unmarked
  · exact hrefl
  · split <;> exact hrefl
  · exact fail_unmarked hr _ _
  · split
    · rename_i f _
      have h1 : Endpoint.Unmarked s.endpoint (s.endpoint.record (.received (.error f))) :=
        .record _ rfl
      exact (escape_unmarked _ f).after h1
    · exact hrefl
    · exact (receive_unmarked _ _).after (.refl _)
  · rename_i ms
    cases ms with
    | nil => exact hrefl
    | cons m rest =>
      have hi : ¬ s.driver.state.isActive = true := fun ha => h (Or.inl ⟨m, rest, hp, ha⟩)
      rw [handle, if_neg hi]
      exact Endpoint.note_unmarked _ _
  · split
    · have ht : s.endpoint.tick = (.ok (), s.endpoint) := by
        have hr : s.endpoint.driver.role = .scheduler := hr
        unfold Endpoint.tick
        rw [hr]
      rw [ht]
      exact proceed_unmarked _ (.refl _)
    · exact hrefl
  · exact fail_unmarked hr _ _
  · rename_i frame
    split
    · exact hrefl
    · rename_i hheld
      refine act_unmarked hr fun ha => h (Or.inr ⟨frame, hp, by simpa using hheld, ha⟩)
  · exact s.endpoint.leave_unmarked
  · have h1 : Endpoint.Unmarked s.endpoint { s.endpoint with driver.done := true } :=
      .of_eq rfl rfl rfl
    have h2 := h1.trans (Endpoint.note_unmarked _ (.exited s.endpoint.driver.verdict))
    dsimp only
    split
    · exact h2.trans (.record _ rfl)
    · exact h2

/-! ### Moves -/

theorem assign_unmarked (s : System) (n : Nat) (errand : Errand) :
    s.Unmarked (s.assign n errand) := by
  unfold assign
  dsimp only
  split
  · exact .record s.endpoint (v := .returned n _) rfl
  · exact .refl _

theorem caller_unmarked (s : System) (n : Nat) : s.Unmarked (s.caller n) := by
  unfold caller
  split
  · exact .refl _
  · exact .refl _
  · rename_i r _
    have h1 := assign_unmarked { s with endpoint := (s.endpoint.region false r).2 } n
      (s.endpoint.region false r).1
    unfold Unmarked
    dsimp only
    rw [launch_endpoint]
    exact (s.endpoint.region_unmarked false r).trans h1
  · exact s.assign_unmarked n _

theorem outside_unmarked (s : System) {m : Move} (hm : ∀ t, m ≠ .go t) :
    s.Unmarked (s.step m) := by
  cases m with
  | go t => exact absurd rfl (hm t)
  | call c =>
    have hgo : ∀ (t : System) (n : Nat) (errand : Errand), t.endpoint = s.endpoint →
        s.Unmarked (t.assign n errand) := by
      intro t n errand ht
      refine (t.assign_unmarked n errand).after ?_
      rw [ht]
      exact .refl _
    unfold step addCaller
    dsimp only
    split
    · exact hgo _ _ _ (s.ask_eq _ _).1
    · exact hgo _ _ _ rfl
  | wake =>
    unfold step wake
    dsimp only
    split <;> exact .refl _
  | arrive a => exact .refl _
  | openGate => exact .refl _
  | elapse nanos => exact .of_eq rfl rfl rfl

/-- A move bears on acknowledgements only if the dispatch thread takes a message up with it, or a
callback returns. -/
theorem step_unmarked (hr : s.driver.role = .scheduler) {m : Move}
    (h : m = .go .dispatch → ¬ s.Marking) : s.Unmarked (s.step m) := by
  rcases s.step_cases m with ⟨-, -, -, he⟩ | ⟨hd, he⟩ | ⟨n, -, -, he⟩ | hm
  · rw [he]
    exact .refl _
  · rw [he]
    exact dispatch_unmarked hr (h hd)
  · rw [he]
    exact s.caller_unmarked n
  · exact s.outside_unmarked hm

end System

end ClusterLink
