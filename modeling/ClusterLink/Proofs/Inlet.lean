/-
# What receiving depends on

Receiving depends on the sockets, apart from the calls that were made of
them, and on what arrived and was not received yet. The driver changes
neither by what it does under its lock: it sends, and the rest of its work is
its own. Only by beginning to connect, receiving and closing does the
dispatch thread change them (`System.dispatch_inlet`), and other moves only
add what arrives (`System.others_inlet`).

Key definitions: `Endpoint.inlet`, `System.inlet`.
Key theorems: `System.dispatch_inlet`, `System.others_inlet`.
-/
import ClusterLink.Proofs.Intake
import ClusterLink.Proofs.Route

namespace ClusterLink

namespace Endpoint

variable {e : Endpoint}

/-- What receiving depends on. -/
def inlet (e : Endpoint) : Option Sockets := e.surroundings.transport.inlet

theorem breakOff_inlet (e : Endpoint) : e.breakOff.inlet = e.inlet := by
  unfold breakOff
  split <;> rfl

/-! ### Handing messages over -/

theorem transmit_inlet (e : Endpoint) (m : Message) : (e.transmit m).inlet = e.inlet := by
  have hsend : (e.useTransport (·.send m)).2.inlet = e.inlet := Transport.send_inlet m _
  unfold transmit
  dsimp only
  split <;> exact hsend

theorem push_inlet (e : Endpoint) (m : Message) : (e.push m).inlet = e.inlet := by
  unfold push
  split
  · rfl
  split
  · rfl
  · exact transmit_inlet _ m

theorem submit_inlet (e : Endpoint) (why : Cause) (m : Message) :
    (e.submit why m).inlet = e.inlet := push_inlet _ m

theorem pushAll_inlet (e : Endpoint) (ms : List Message) :
    (e.pushAll ms).inlet = e.inlet := by
  induction ms generalizing e with
  | nil => rfl
  | cons m ms ih => exact (ih (e.push m)).trans (push_inlet e m)

theorem flush_inlet (e : Endpoint) (replyTo : String) : (e.flush replyTo).inlet = e.inlet := by
  unfold flush
  dsimp only
  exact (pushAll_inlet _ _).trans (push_inlet _ _)

theorem enter_inlet (e : Endpoint) : e.enter.2.inlet = e.inlet := by
  rcases e.enter_cases with ⟨-, h⟩ | ⟨-, f, -, h⟩ | ⟨-, replyTo, -, h⟩ <;> rw [h]
  · rfl
  · rfl
  · exact flush_inlet e replyTo

/-! ### Calls -/

theorem order_inlet (e : Endpoint) (c : Command) : (e.order c).2.inlet = e.inlet := by
  unfold order
  split
  · rfl
  split
  · rfl
  · cases c <;> exact submit_inlet _ _ _

theorem start_inlet (e : Endpoint) : e.start.2.inlet = e.inlet := by
  unfold start
  split
  · rfl
  split
  · rfl
  dsimp only
  split <;> rfl

theorem stop_inlet (e : Endpoint) (failover : Bool) : (e.stop failover).2.inlet = e.inlet := by
  unfold stop
  split
  · rfl
  split
  · rfl
  dsimp only
  split
  · exact submit_inlet _ _ _
  · rfl

theorem abort_inlet (e : Endpoint) : e.abort.2.inlet = e.inlet := by
  unfold abort
  split
  · rfl
  split <;> rfl

theorem condemn_inlet (e : Endpoint) : e.condemn.inlet = e.inlet := by
  unfold condemn
  split <;> rfl

theorem destroy_inlet (e : Endpoint) : e.destroy.2.inlet = e.inlet := by
  unfold destroy
  split <;> rfl

theorem region_inlet (e : Endpoint) (inside : Bool) (r : Region) :
    (e.region inside r).2.inlet = e.inlet := by
  cases r with
  | start thenJoin =>
    rw [region_start]
    exact start_inlet e
  | stop failover => exact stop_inlet e failover
  | abort => exact abort_inlet e
  | join => rw [region_join]
  | condemn =>
    simp only [region]
    split
    · rfl
    split
    · rfl
    · exact condemn_inlet e
  | destroy => exact destroy_inlet e
  | give c => exact order_inlet e c
  | turnDown op =>
    simp only [region]
    split <;> rfl
  | state => rfl
  | status => rfl

theorem conduct_inlet (e : Endpoint) (errand : Errand) : (e.conduct errand).2.inlet = e.inlet := by
  cases errand with
  | region r =>
    have h1 := region_inlet e true r
    unfold conduct
    dsimp only
    split
    · rename_i r' e' hreg
      rw [hreg] at h1
      exact (region_inlet e' true r').trans h1
    · rename_i hreg
      rw [hreg] at h1
      exact h1
  | _ => rfl

/-! ### The dispatch thread -/

theorem tick_inlet (e : Endpoint) : e.tick.2.inlet = e.inlet :=
  tick_keeps (P := fun x => x.inlet = e.inlet) (fun _ _ h => h)
    (fun x u h => (submit_inlet x .resend u.message).trans h) (fun _ _ h => h) rfl

theorem prepare_inlet (e : Endpoint) (m : Message) : (e.prepare m).inlet = e.inlet :=
  prepare_keeps (P := fun x => x.inlet = e.inlet) (fun _ _ h => h)
    (fun x u h => (submit_inlet x .resend u.message).trans h) (fun _ _ h => h) (fun _ _ h => h) m rfl

theorem conclude_inlet (e : Endpoint) (m : Message) : (e.conclude m).inlet = e.inlet := by
  unfold conclude
  split
  · split
    · exact submit_inlet _ _ _
    · rfl
  · split
    · exact abort_inlet e
    · rfl
  · rfl

theorem settle_inlet (e : Endpoint) (uuid : Bytes) : (e.settle uuid).inlet = e.inlet := by
  unfold settle
  split <;> rfl

theorem connectEnd_inlet (e : Endpoint) : e.connectEnd.2.inlet = e.inlet := by
  have h1 : (e.useTransport Transport.connectEnd).2.inlet = e.inlet :=
    Transport.connectEnd_inlet e.surroundings.transport
  unfold connectEnd
  dsimp only
  split
  · exact h1
  · split <;> exact h1

end Endpoint

/-- What arrives with a move. -/
def Move.arrival? : Move → Option Arrival
  | arrive a => some a
  | _ => none

namespace System

variable {s : System}

/-- What receiving depends on: the sockets, and what arrived and was not received. -/
def inlet (s : System) : Option Sockets × List Arrival := (s.endpoint.inlet, s.inbox)

/-! ### Operations of the dispatch thread -/

theorem resume_inlet (s : System) (after : After) : (s.resume after).inlet = s.inlet := by
  cases after with
  | message m rest => exact congrArg (·, s.inbox) (Endpoint.conclude_inlet _ m)
  | _ => rfl

theorem escape_inlet (s : System) (f : Failure) : (s.escape f).inlet = s.inlet := by
  unfold escape
  dsimp only
  split <;> rfl

theorem proceed_inlet (s : System) (r : Except Failure Unit × Endpoint) (phase : Phase) :
    (s.proceed r phase).inlet = (r.2.inlet, s.inbox) := by
  unfold proceed
  dsimp only
  split
  · rfl
  · exact escape_inlet _ _

theorem invoke_inlet (s : System) (slot : Slot) (args : List Parameter) (after : After) :
    (s.invoke slot args after).inlet = s.inlet := by
  unfold invoke
  split
  · rfl
  · exact resume_inlet s after

theorem fail_inlet (s : System) (message : WideText) (after : After) :
    (s.fail message after).inlet = s.inlet := by
  rcases s.fail_cases message after with ⟨-, b, -, he⟩ | ⟨-, -, he⟩ | ⟨-, he⟩ <;> rw [he]
  · exact invoke_inlet _ _ _ _
  · exact escape_inlet _ _
  · exact resume_inlet _ after

theorem endCallback_inlet (s : System) (frame : Frame) (failure : Option Failure) :
    (s.endCallback frame failure).inlet = s.inlet := by
  cases failure with
  | none => exact resume_inlet _ _
  | some f =>
    by_cases hf : f.isMisuse = true
    · simp only [endCallback, hf, if_true]
      split
      · rfl
      · exact escape_inlet _ f
    · have hf : f.isMisuse = false := by simpa using hf
      simp only [endCallback, hf, Bool.false_eq_true, if_false]
      exact (resume_inlet _ _).trans (congrArg (·, s.inbox) (Endpoint.breakOff_inlet _))

theorem callInside_inlet (s : System) (c : Call) : (s.callInside c).2.inlet = s.inlet := by
  have hbox : (s.callInside c).2.inbox = s.inbox := by
    cases c with
    | ask i q =>
      simp only [callInside, ask]
      split <;> rfl
    | _ => rfl
  refine Prod.ext ?_ hbox
  rcases s.callInside_cases c with ⟨-, hc⟩ | hc
  · exact congrArg Endpoint.inlet hc
  · exact (congrArg Endpoint.inlet hc).trans (Endpoint.conduct_inlet _ _)

theorem keepViews_inlet {s s' : System} {ids : List Nat} (h : s.keepViews ids = .ok s') :
    s'.inlet = s.inlet := by
  induction ids generalizing s with
  | nil =>
    obtain rfl := Except.ok.inj h
    rfl
  | cons id ids ih =>
    cases hv : s.store.view id with
    | error f => simp [keepViews, hv, bind, Except.bind] at h
    | ok x =>
      simp only [keepViews, hv, bind, Except.bind] at h
      have hrest := ih h
      exact hrest

theorem act_inlet (s : System) (frame : Frame) : (s.act frame).inlet = s.inlet := by
  obtain ⟨slot, lent, actions, held, after⟩ := frame
  cases actions with
  | nil => exact endCallback_inlet _ _ _
  | cons a actions =>
    cases a with
    | call c passOn =>
      simp only [act]
      split
      · exact (endCallback_inlet _ _ _).trans (s.callInside_inlet c)
      · exact s.callInside_inlet c
    | raise f => exact endCallback_inlet _ _ _
    | keepViews =>
      simp only [act]
      split
      · rename_i s' hk
        exact (keepViews_inlet hk : s'.inlet = s.inlet)
      · exact endCallback_inlet _ _ _
    | _ => rfl

theorem take_inlet (s : System) (m : Message) (rest : List Message) :
    (s.take m rest).inlet = s.inlet := by
  have hprep : ((s.endpoint.record (.taken m)).prepare m).inlet = s.endpoint.inlet :=
    Endpoint.prepare_inlet _ m
  have hin : ∀ t : System, t.endpoint.inlet = ((s.endpoint.record (.taken m)).prepare m).inlet →
      t.inbox = s.inbox → t.inlet = s.inlet := fun t he hi => Prod.ext (he.trans hprep) hi
  unfold take
  dsimp only
  split
  · exact (invoke_inlet _ _ _ _).trans (hin _ rfl rfl)
  · exact hin _ (Endpoint.settle_inlet _ _) rfl
  · exact (fail_inlet _ _ _).trans (hin _ rfl rfl)
  · exact hin _ rfl rfl

theorem handle_inlet (s : System) (ms : List Message) : (s.handle ms).inlet = s.inlet := by
  cases ms with
  | nil => rfl
  | cons m rest =>
    simp only [handle]
    split
    · exact s.take_inlet m rest
    · rfl

/-- Only by beginning to connect, receiving and closing the dispatch thread changes what receiving
depends on. -/
theorem dispatch_inlet (hb : s.phase ≠ .begun) (hr : s.phase ≠ .receiving)
    (hc : ∀ cause, s.phase ≠ .closing cause) : s.dispatch.inlet = s.inlet := by
  have hin : ∀ {r : Except Failure Unit × Endpoint} (phase : Phase),
      r.2.inlet = s.endpoint.inlet → (s.proceed r phase).inlet = s.inlet := fun phase he =>
    (s.proceed_inlet _ phase).trans (congrArg (·, s.inbox) he)
  unfold dispatch
  split
  all_goals rename_i hp
  · rfl
  · rfl
  · exact absurd hp hb
  · exact hin _ (Endpoint.connectEnd_inlet _)
  · exact hin _ (Endpoint.enter_inlet _)
  · rfl
  · split <;> rfl
  · exact fail_inlet _ _ _
  · exact absurd hp hr
  · exact handle_inlet _ _
  · split
    · exact hin _ (Endpoint.tick_inlet _)
    · rfl
  · exact fail_inlet _ _ _
  · split
    · rfl
    · exact act_inlet _ _
  · exact absurd hp (hc _)
  · dsimp only
    split <;> rfl

/-! ### Other moves -/

theorem assign_inlet (s : System) (n : Nat) (errand : Errand) :
    (s.assign n errand).inlet = s.inlet := by
  unfold assign
  dsimp only
  split <;> rfl

theorem launch_inlet (s : System) : s.launch.inlet = s.inlet := by
  unfold launch
  split
  · split <;> rfl
  · rfl

theorem caller_inlet (s : System) (n : Nat) : (s.caller n).inlet = s.inlet := by
  unfold caller
  split
  · rfl
  · rfl
  · rename_i r _
    dsimp only
    refine (launch_inlet _).trans ((assign_inlet _ n _).trans ?_)
    exact congrArg (·, s.inbox) (Endpoint.region_inlet _ false r)
  · exact s.assign_inlet n _

/-- What arrives waits behind what arrived before. -/
theorem outside_inlet (s : System) {m : Move} (hm : ∀ t, m ≠ .go t) :
    (s.step m).inlet = (s.endpoint.inlet, s.inbox ++ m.arrival?.toList) := by
  have hnone : m.arrival? = none → (s.step m).inlet = s.inlet →
      (s.step m).inlet = (s.endpoint.inlet, s.inbox ++ m.arrival?.toList) := fun ha hi => by
    rw [hi, ha, Option.toList_none, List.append_nil]
    rfl
  cases m with
  | go t => exact absurd rfl (hm t)
  | arrive a => rfl
  | call c =>
    refine hnone rfl ?_
    unfold step addCaller
    dsimp only
    split
    · rename_i i q
      refine (assign_inlet _ _ _).trans ?_
      exact s.callInside_inlet (.ask i q)
    · exact assign_inlet _ _ _
  | wake =>
    refine hnone rfl ?_
    unfold step wake
    dsimp only
    split <;> rfl
  | openGate | elapse nanos => exact hnone rfl rfl

/-- No other thread changes what receiving depends on. -/
theorem others_inlet (s : System) {m : Move} (hm : m ≠ .go .dispatch) :
    (s.step m).inlet = (s.endpoint.inlet, s.inbox ++ m.arrival?.toList) := by
  rcases s.step_cases m with ⟨t, ht, -, he⟩ | ⟨hd, -⟩ | ⟨n, hn, -, he⟩ | ho
  · rw [he, ht]
    exact congrArg (s.endpoint.inlet, ·) (List.append_nil _).symm
  · exact absurd hd hm
  · rw [he, hn]
    exact (s.caller_inlet n).trans (congrArg (s.endpoint.inlet, ·) (List.append_nil _).symm)
  · exact s.outside_inlet ho

end System

end ClusterLink
