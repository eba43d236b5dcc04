/-
# Where accepted messages come from

What a move of a system accepts for sending (`System.Yields`). A caller whose
turn it is accepts the message of its command, or the farewell. The dispatch
thread accepts what a callback's call accepts, the acknowledgement once a
callback returned, and the status updates that it sends again. Every other
move accepts nothing. So each of these is accepted once, in the order in
which the lock was held for them.

Key definitions: `Endpoint.resumes`, `System.ThreadYields`, `System.Yields`.
Key theorem: `System.step_accepts`.
-/
import ClusterLink.Proofs.Acceptance
import ClusterLink.Proofs.Callers

namespace ClusterLink

open History

namespace Endpoint

variable (e : Endpoint)

/-- What is accepted when the dispatch thread goes on after a callback. -/
def resumes : After → List Message
  | .message m _ => e.acknowledges m
  | _ => []

/-- A driver that was shut down acknowledges nothing. -/
theorem acknowledges_of_inactive (h : e.driver.state.isActive = false) (m : Message) :
    e.acknowledges m = [] := by
  cases m <;> simp [acknowledges, h]

theorem resumes_of_inactive (h : e.driver.state.isActive = false) (after : After) :
    e.resumes after = [] := by
  cases after with
  | message m rest => exact e.acknowledges_of_inactive h m
  | _ => rfl

/-- Only a status update is acknowledged, and it has a callback. -/
theorem reaction_of_acknowledges {m : Message} (h : e.acknowledges m ≠ []) :
    e.prepare m = e ∧ ∃ args, e.driver.reaction m = .invoke .statusUpdate args := by
  cases m with
  | statusUpdate status uuid =>
    have hr : e.driver.role = .scheduler := by
      by_contra hr
      simp [acknowledges, hr] at h
    refine ⟨?_, [.envelope status], ?_⟩
    · simp [prepare, hr]
    · simp [Driver.reaction, hr, Reaction.ofScheduler]
  | _ => exact absurd rfl h

/-- What a message changes before its callback has no part in its acknowledgement. -/
theorem prepare_acknowledges (m : Message) (ha : e.driver.state.isActive = true) :
    (e.prepare m).acknowledges m = e.acknowledges m := by
  by_cases h : e.acknowledges m = []
  · have hs : (e.prepare m).driver.state.isActive = true := (e.prepare_deeds m ha).2 ▸ ha
    cases m with
    | statusUpdate status uuid =>
      have hp : e.prepare (.statusUpdate status uuid) = e := by
        cases hr : e.driver.role <;> simp [prepare, hr]
      rw [hp]
    | _ => rfl
  · rw [(e.reaction_of_acknowledges h).1]

end Endpoint

namespace System

/-- What a callback accepts with what it does next; with nothing left to do, it returns. -/
def actYields (s : System) (frame : Frame) : List Message :=
  match frame.actions with
  | [] => s.endpoint.resumes frame.after
  | .call c _ :: _ => s.endpoint.carries (c.errand s.surface s.driver s.find)
  | _ => []

/-- What the dispatch thread accepts with its next move. -/
def ThreadYields (s : System) (new : List Message) : Prop :=
  match s.phase with
  | .calling frame => if frame.held then new = [] else new = s.actYields frame
  | .handling (m :: _) =>
    if s.driver.state.isActive then
      new = s.endpoint.retries m ++
        if s.driver.table.binds .statusUpdate then [] else s.endpoint.acknowledges m
    else new = []
  | .ticking =>
    -- sending again ends early if an update cannot be announced
    if s.driver.state.isActive then
      new <+: s.endpoint.overdue ∧ (s.endpoint.tick.1 = .ok () → new = s.endpoint.overdue)
    else new = []
  | _ => new = []

/-- What a move accepts; a caller is then left with what its region led to. -/
def Yields (s : System) (m : Move) (new : List Message) : Prop :=
  match m with
  | .go .dispatch => s.ThreadYields new
  | .go (.caller n) =>
    match s.errandOf n with
    | some (.region r) =>
      if s.isLocked then new = []
      else new = s.endpoint.submits r ∧
        (s.step m).errandOf n = some (s.endpoint.region false r).1
    | _ => new = []
  | _ => new = []

/-! ### Operations of the dispatch thread -/

/-- The messages accepted so far. -/
def acceptances (s : System) : List Message := accepted s.endpoint.history

theorem record_acceptances (s : System) {v : Event} (hv : v.accepted? = none) :
    (s.record v).acceptances = s.acceptances := by
  simp [acceptances, record, Endpoint.record, hv]

theorem resume_acceptances (s : System) (after : After) :
    (s.resume after).acceptances = s.acceptances ++ s.endpoint.resumes after := by
  cases after with
  | message m rest => exact s.endpoint.conclude_accepts m
  | _ => simp [acceptances, resume, Endpoint.resumes]

theorem escape_acceptances (s : System) (f : Failure) :
    (s.escape f).acceptances = s.acceptances := by
  have h := s.record_acceptances (v := .escaped f) rfl
  unfold escape
  dsimp only
  split
  · exact (record_acceptances _ rfl).trans h
  · exact (record_acceptances _ rfl).trans h

/-- A callback that begins accepts nothing yet. -/
theorem invoke_acceptances (s : System) (slot : Slot) (args : List Parameter) (after : After) :
    (s.invoke slot args after).acceptances =
      s.acceptances ++ if s.driver.table.binds slot then [] else s.endpoint.resumes after := by
  unfold invoke
  split
  · rename_i hb
    rw [List.append_nil]
    exact s.record_acceptances (v := .began slot s.driver.state s.driver.payload args) rfl
  · exact s.resume_acceptances after

theorem fail_acceptances (s : System) (message : WideText) (after : After) :
    (s.fail message after).acceptances = s.acceptances := by
  have hgive : (s.giveUp message).acceptances = s.acceptances := by
    show accepted ((s.endpoint.note (.failed message)).become .aborted).history = _
    rw [Endpoint.become_accepted, Endpoint.note_accepted]
    rfl
  rcases s.fail_cases message after with ⟨-, b, -, he⟩ | ⟨-, -, he⟩ | ⟨ha, he⟩ <;> rw [he]
  · have hr := Endpoint.resumes_of_inactive (s.giveUp message).endpoint rfl after
    rw [invoke_acceptances, hgive, hr, ite_self, List.append_nil]
  · rw [escape_acceptances, hgive]
  · have hr := Endpoint.resumes_of_inactive (s.note (.failedLate message)).endpoint ha after
    rw [resume_acceptances, hr, List.append_nil]
    exact s.record_acceptances rfl

/-- A callback that returned may lead to an acknowledgement; one that failed does not. -/
theorem endCallback_acceptances (s : System) (frame : Frame) (failure : Option Failure) :
    (s.endCallback frame failure).acceptances =
      s.acceptances ++ if failure.isNone then s.endpoint.resumes frame.after else [] := by
  cases failure with
  | none =>
    simp only [endCallback, Option.isNone_none, if_true]
    rw [resume_acceptances]
    have h := s.record_acceptances (v := .ended frame.slot) rfl
    exact congrArg (· ++ s.endpoint.resumes frame.after) h
  | some f =>
    have hb := s.record_acceptances (v := .broke frame.slot f) rfl
    simp only [Option.isNone_some, Bool.false_eq_true, if_false, List.append_nil]
    by_cases hf : f.isMisuse = true
    · have hm : accepted ((s.endpoint.record (.broke frame.slot f)).become .aborted).history =
          s.acceptances := (Endpoint.become_accepted _ _).trans hb
      simp only [endCallback, hf, if_true]
      split
      · exact hm
      · exact (escape_acceptances _ f).trans hm
    · have hf : f.isMisuse = false := by simpa using hf
      have hn : accepted ((s.endpoint.record (.broke frame.slot f)).note
          (.callbackFailed frame.slot)).history = s.acceptances :=
        (Endpoint.note_accepted _ _).trans hb
      simp only [endCallback, hf, Bool.false_eq_true, if_false]
      rw [resume_acceptances]
      have hr := Endpoint.resumes_of_inactive _ (Endpoint.breakOff_inactive
        ((s.endpoint.record (.broke frame.slot f)).note (.callbackFailed frame.slot))) frame.after
      exact (congrArg _ hr).trans ((List.append_nil _).trans
        ((Endpoint.breakOff_accepted _).trans hn))

/-- What a callback's call accepts, up to its being traced. -/
theorem callInside_acceptances {s : System} (c : Call) (h : s.driver.state ≠ .created) :
    ((s.callInside c).2.record (.acted c.op (s.callInside c).1)).acceptances =
      s.acceptances ++ s.endpoint.carries (c.errand s.surface s.driver s.find) := by
  rw [record_acceptances _ rfl]
  unfold acceptances
  rcases s.callInside_cases c with ⟨⟨i, q, rfl⟩, hc⟩ | hc
  · rw [hc]
    exact (List.append_nil _).symm
  · rw [hc]
    exact s.endpoint.conduct_accepts h

theorem act_acceptances {s : System} (frame : Frame) (h : s.driver.state ≠ .created) :
    (s.act frame).acceptances = s.acceptances ++ s.actYields frame := by
  obtain ⟨slot, lent, actions, held, after⟩ := frame
  cases actions with
  | nil => exact s.endCallback_acceptances _ none
  | cons a actions =>
    cases a with
    | call c passOn =>
      have hc := callInside_acceptances c h
      simp only [act, actYields]
      split
      · rw [endCallback_acceptances]
        exact (List.append_nil _).trans hc
      · exact hc
    | raise f => exact s.endCallback_acceptances _ (some f)
    | hold => exact (s.record_acceptances (v := .held slot) rfl).trans (List.append_nil _).symm
    | keep => exact (List.append_nil _).symm
    | keepViews =>
      simp only [act, actYields, List.append_nil]
      split
      · rename_i s' hk
        obtain ⟨he, -⟩ := keepViews_eq hk
        exact congrArg (fun e => accepted (Endpoint.history e)) he
      · exact (s.endCallback_acceptances _ (some _)).trans (List.append_nil _)
    | nameThread =>
      exact (s.record_acceptances (v := .threadNamed s.driver.threadName) rfl).trans
        (List.append_nil _).symm

/-- A message that is taken up may have updates sent again, and is acknowledged if it has no
callback to wait for. -/
theorem take_acceptances {s : System} (m : Message) (rest : List Message)
    (ha : s.driver.state.isActive = true) :
    (s.take m rest).acceptances = s.acceptances ++ (s.endpoint.retries m ++
      if s.driver.table.binds .statusUpdate then [] else s.endpoint.acknowledges m) := by
  have hr := s.record_acceptances (v := .taken m) rfl
  have hp : accepted ((s.endpoint.record (.taken m)).prepare m).history =
      s.acceptances ++ s.endpoint.retries m := by
    have h := (s.endpoint.record (.taken m)).prepare_accepts m
    exact h.trans (congrArg (· ++ s.endpoint.retries m) hr)
  have hack : ((s.endpoint.record (.taken m)).prepare m).acknowledges m =
      s.endpoint.acknowledges m :=
    (s.endpoint.record (.taken m)).prepare_acknowledges m ha
  rw [← List.append_assoc, ← hp]
  by_cases h : s.endpoint.acknowledges m = []
  · -- nothing but the updates, whatever the message asks for
    have hnil : ((s.endpoint.record (.taken m)).prepare m).acknowledges m = [] := hack.trans h
    rw [h, ite_self, List.append_nil]
    unfold take
    dsimp only
    split
    · rename_i slot args _
      rw [invoke_acceptances]
      have hres : ((s.endpoint.record (.taken m)).prepare m).resumes (.message m rest) = [] := hnil
      refine (congrArg _ ?_).trans (List.append_nil _)
      rw [ite_eq_left_iff]
      exact fun _ => hres
    · rename_i uuid _
      exact Endpoint.settle_accepted _ uuid
    · exact fail_acceptances _ _ _
    · exact Endpoint.note_accepted _ _
  · -- a status update, which changes nothing before its callback
    obtain ⟨hsame, args, hre⟩ :=
      (s.endpoint.record (.taken m)).reaction_of_acknowledges (m := m) (fun hc => h hc)
    have htake : s.take m rest =
        ({ s with endpoint := (s.endpoint.record (.taken m)).prepare m } : System).invoke
          .statusUpdate args (.message m rest) := by
      unfold take
      dsimp only
      have hre' : Driver.reaction ((s.record (.taken m)).endpoint.prepare m).driver m =
          .invoke .statusUpdate args := by
        show Driver.reaction ((s.endpoint.record (.taken m)).prepare m).driver m = _
        rw [hsame]
        exact hre
      split
      · rename_i slot args' he
        obtain ⟨rfl, rfl⟩ := Reaction.invoke.inj (hre'.symm.trans he)
        rfl
      all_goals rename_i he; cases hre'.symm.trans he
    rw [htake, invoke_acceptances]
    have htable : ((s.endpoint.record (.taken m)).prepare m).driver.table = s.driver.table := by
      rw [hsame]; rfl
    show accepted ((s.endpoint.record (.taken m)).prepare m).history ++
      (if ((s.endpoint.record (.taken m)).prepare m).driver.table.binds .statusUpdate then []
        else ((s.endpoint.record (.taken m)).prepare m).acknowledges m) = _
    rw [htable, hack]

theorem receive_acceptances (s : System) (a : Arrival) :
    (s.receive a).acceptances = s.acceptances := by
  have hu := s.endpoint.useTransport_accepted
    (Transport.receive s.driver.settings.receiveTimeout a)
  have hr : ∀ r, accepted ((s.endpoint.useTransport (Transport.receive
      s.driver.settings.receiveTimeout a)).2.record (.received r)).history = s.acceptances :=
    fun r => (Endpoint.record_accepted _ rfl).trans hu
  unfold receive
  dsimp only
  split
  · exact hr _
  · exact (escape_acceptances _ _).trans (hr _)

theorem proceed_acceptances (s : System) (r : Except Failure Unit × Endpoint) (phase : Phase) :
    (s.proceed r phase).acceptances = accepted r.2.history := by
  unfold proceed
  dsimp only
  split
  · rfl
  · exact escape_acceptances _ _

theorem signal_acceptances {s : System} {cause : Option Failure}
    (hp : s.phase = .signalling cause) : s.dispatch.acceptances = s.acceptances := by
  have hs : accepted s.endpoint.signal.history = s.acceptances := Endpoint.note_accepted _ _
  unfold dispatch
  rw [hp]
  cases cause with
  | none => exact hs
  | some f => exact (record_acceptances _ rfl).trans hs

/-- The dispatch thread accepts what it has to with its next move. -/
theorem dispatch_yields {s : System} (h : s.Sound) :
    ∃ new, s.ThreadYields new ∧ s.dispatch.acceptances = s.acceptances ++ new := by
  have hnone : s.ThreadYields [] → s.dispatch.acceptances = s.acceptances →
      ∃ new, s.ThreadYields new ∧ s.dispatch.acceptances = s.acceptances ++ new :=
    fun hy he => ⟨[], hy, he.trans (List.append_nil _).symm⟩
  have ha := h.admits
  cases hp : s.phase with
  | idle | ended =>
    refine hnone (by simp only [ThreadYields, hp]) ?_
    simp only [dispatch, hp]
  | begun =>
    refine hnone (by simp only [ThreadYields, hp]) ?_
    simp only [dispatch, hp]
    split
    · exact (s.proceed_acceptances _ _).trans s.endpoint.connectStart_accepted
    · exact s.record_acceptances (v := .threadRaised _) rfl
  | linking =>
    refine hnone (by simp only [ThreadYields, hp]) ?_
    simp only [dispatch, hp]
    exact (s.proceed_acceptances _ _).trans s.endpoint.connectEnd_accepted
  | entering =>
    refine hnone (by simp only [ThreadYields, hp]) ?_
    simp only [dispatch, hp]
    exact (s.proceed_acceptances _ _).trans s.endpoint.enter_accepted
  | checking =>
    refine hnone (by simp only [ThreadYields, hp]) ?_
    simp only [dispatch, hp]
    rfl
  | deciding =>
    refine hnone (by simp only [ThreadYields, hp]) ?_
    simp only [dispatch, hp]
    split <;> rfl
  | reporting f | escaped f =>
    refine hnone (by simp only [ThreadYields, hp]) ?_
    simp only [dispatch, hp]
    exact s.fail_acceptances _ _
  | receiving =>
    refine hnone (by simp only [ThreadYields, hp]) ?_
    simp only [dispatch, hp]
    split
    · rename_i f _
      exact (escape_acceptances _ f).trans (s.record_acceptances (v := .received (.error f)) rfl)
    · rfl
    · exact receive_acceptances _ _
  | handling ms =>
    cases ms with
    | nil =>
      refine hnone (by simp only [ThreadYields, hp]) ?_
      simp only [dispatch, hp]
      rfl
    | cons m rest =>
      by_cases hact : s.driver.state.isActive = true
      · refine ⟨s.endpoint.retries m ++ if s.driver.table.binds .statusUpdate then []
          else s.endpoint.acknowledges m, ?_, ?_⟩
        · simp only [ThreadYields, hp, hact, if_true]
        · simp only [dispatch, hp, handle, hact, if_true]
          exact take_acceptances m rest hact
      · refine hnone (by simp only [ThreadYields, hp, hact, Bool.false_eq_true, if_false]) ?_
        simp only [dispatch, hp, handle, hact, Bool.false_eq_true, if_false]
        exact s.record_acceptances (v := .noted (.dropped m s.driver.state)) rfl
  | ticking =>
    by_cases hact : s.driver.state.isActive = true
    · obtain ⟨sent, hs, hacc, hall⟩ := s.endpoint.tick_accepts
      refine ⟨sent, ?_, ?_⟩
      · simp only [ThreadYields, hp, hact, if_true]
        exact ⟨hs, hall⟩
      · simp only [dispatch, hp, hact, if_true]
        exact (s.proceed_acceptances _ _).trans hacc
    · refine hnone (by simp only [ThreadYields, hp, hact, Bool.false_eq_true, if_false]) ?_
      simp only [dispatch, hp, hact, Bool.false_eq_true, if_false]
      rfl
  | calling frame =>
    by_cases hheld : frame.held = true
    · refine hnone (by simp only [ThreadYields, hp, hheld, if_true]) ?_
      simp only [dispatch, hp, hheld, if_true]
    · have hc : s.driver.state ≠ .created := ha.ne_created (by rw [hp]; exact Phase.noConfusion)
      refine ⟨s.actYields frame, ?_, ?_⟩
      · simp only [ThreadYields, hp, hheld, Bool.false_eq_true, if_false]
      · simp only [dispatch, hp, hheld, Bool.false_eq_true, if_false]
        exact act_acceptances frame hc
  | closing cause =>
    refine hnone (by simp only [ThreadYields, hp]) ?_
    simp only [dispatch, hp]
    exact s.endpoint.leave_accepted
  | signalling cause =>
    exact hnone (by simp only [ThreadYields, hp]) (signal_acceptances hp)

/-! ### Moves -/

theorem assign_acceptances (s : System) (n : Nat) (errand : Errand) :
    (s.assign n errand).acceptances = s.acceptances := by
  unfold assign
  dsimp only
  split
  · exact record_acceptances _ rfl
  · rfl

/-- A caller is left with its errand. -/
theorem errandOf_assign {s : System} {n : Nat} {errand : Errand} (errand' : Errand)
    (h : s.errandOf n = some errand) : (s.assign n errand').errandOf n = some errand' := by
  obtain ⟨x, hx, -⟩ := errandOf_eq_some h
  unfold errandOf
  rw [assign_callers, List.getElem?_modify_eq, hx]
  rfl

/-- A caller whose turn it is accepts what its region does. -/
theorem caller_yields {s : System} (n : Nat) (hp : s.provides (s.need (.caller n)) = true) :
    ∃ new, s.Yields (.go (.caller n)) new ∧
      (s.caller n).acceptances = s.acceptances ++ new := by
  have hstep : s.step (.go (.caller n)) = s.caller n := by simp [step, hp, advance]
  cases he : s.errandOf n with
  | none =>
    refine ⟨[], by simp only [Yields, he], ?_⟩
    simp [caller, he]
  | some errand =>
    cases errand with
    | region r =>
      have hl : s.isLocked = false := by simpa [need, callerNeed, he, provides] using hp
      refine ⟨s.endpoint.submits r, ?_, ?_⟩
      · have hleft : (s.caller n).errandOf n = some (s.endpoint.region false r).1 := by
          have ha := errandOf_assign (s := { s with endpoint := (s.endpoint.region false r).2 })
            (s.endpoint.region false r).1 he
          simp only [caller, he]
          unfold errandOf
          rw [launch_callers]
          exact ha
        simp only [Yields, he, hl, Bool.false_eq_true, if_false, true_and]
        rw [hstep]
        exact hleft
      · have ha := s.endpoint.region_accepts false r
        simp only [caller, he]
        unfold acceptances
        rw [launch_endpoint]
        exact (assign_acceptances _ n _).trans ha
    | finished r =>
      refine ⟨[], by simp only [Yields, he], ?_⟩
      simp [caller, he]
    | _ =>
      refine ⟨[], by simp only [Yields, he], ?_⟩
      simp only [caller, he]
      exact (s.assign_acceptances n _).trans (List.append_nil _).symm

/-- A dispatch thread that has to wait accepts nothing. -/
theorem threadYields_nil {s : System} (h : s.provides (s.need .dispatch) = false) :
    s.ThreadYields [] := by
  cases hp : s.phase with
  | calling frame =>
    by_cases hheld : frame.held = true
    · simp only [ThreadYields, hp, hheld, if_true]
    · simp [need, dispatchNeed, hp, hheld, provides] at h
  | handling ms => simp [need, dispatchNeed, hp, provides, isLocked] at h
  | ticking => simp [need, dispatchNeed, hp, provides, isLocked] at h
  | _ => simp only [ThreadYields, hp]

/-- So does a caller. -/
theorem yields_nil {s : System} {n : Nat} (h : s.provides (s.need (.caller n)) = false) :
    s.Yields (.go (.caller n)) [] := by
  cases he : s.errandOf n with
  | none => simp only [Yields, he]
  | some errand =>
    cases errand with
    | region r =>
      have hl : s.isLocked = true := by simpa [need, callerNeed, he, provides] using h
      simp only [Yields, he, hl, if_true]
    | _ => simp only [Yields, he]

/-- What comes from the outside accepts nothing. -/
theorem outside_acceptances (s : System) {m : Move} (hm : ∀ t, m ≠ .go t) :
    (s.step m).acceptances = s.acceptances := by
  cases m with
  | go t => exact absurd rfl (hm t)
  | call c =>
    have hgo : ∀ (t : System) (n : Nat) (errand : Errand), t.endpoint = s.endpoint →
        (t.assign n errand).acceptances = s.acceptances := fun t n errand ht =>
      (t.assign_acceptances n errand).trans (congrArg (fun e => accepted (Endpoint.history e)) ht)
    unfold step addCaller
    dsimp only
    split
    · exact hgo _ _ _ (s.ask_eq _ _).1
    · exact hgo _ _ _ rfl
  | wake =>
    unfold step wake
    dsimp only
    split <;> rfl
  | _ => rfl

/-- A move accepts what it has to, and that is recorded once. -/
theorem step_accepts {s : System} (h : s.Sound) (m : Move) : ∃ new, s.Yields m new ∧
    accepted (s.step m).endpoint.history = accepted s.endpoint.history ++ new := by
  rcases s.step_cases m with ⟨t, rfl, hp, he⟩ | ⟨rfl, he⟩ | ⟨n, rfl, hp, he⟩ | hm
  · rw [he]
    cases t with
    | dispatch => exact ⟨[], threadYields_nil hp, (List.append_nil _).symm⟩
    | caller n => exact ⟨[], yields_nil hp, (List.append_nil _).symm⟩
  · rw [he]
    exact dispatch_yields h
  · rw [he]
    exact caller_yields n hp
  · refine ⟨[], ?_, ?_⟩
    · cases m with
      | go t => exact absurd rfl (hm t)
      | _ => rfl
    · rw [List.append_nil]
      exact s.outside_acceptances hm

end System

end ClusterLink
