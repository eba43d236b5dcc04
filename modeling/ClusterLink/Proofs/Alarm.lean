/-
# Failures and alarms

A move of a system accounts for what becomes of its driver
(`System.step_blames`), as long as the history backs the phase that the
dispatch thread is in (`Phase.backed`): a callback that runs began; a failure
that is to be reported is that of the first send that failed, or left the
loop; and the thread leaves a driver that was shut down, or misused.

The error callback begins in one place of the program, where the driver
fails (`System.fail_blames`), for a failure that the phase names, or for a
message that tells of an error.

Key definition: `Phase.backed`.
Key theorem: `System.step_blames`.
-/
import ClusterLink.Proofs.Blame
import ClusterLink.Proofs.Route

namespace ClusterLink

open History

/-! ### Phases and the history -/

/-- What the history of the driver tells of a phase that the dispatch thread is in. -/
def Phase.backed : Phase → Endpoint → Prop
  | calling frame, e => frame.slot ∈ History.begun e.history ∧
      (frame.after.isAlarm = true → e.driver.state.isShut = true)
  | reporting f, e => (failures e.history).head? = some f
  | escaped f, e => .escaped f ∈ e.history ∧ f.isMisuse = false
  | closing _, e => e.driver.state.isShut = true ∨ Misused e.history
  | _, _ => True

namespace Phase

variable {p p' : Phase} {e e' : Endpoint}

theorem backed.blames (h : p.backed e) (hb : Endpoint.Blames e e') : p.backed e' := by
  cases p with
  | calling frame => exact ⟨begun_mono hb.history h.1, fun ha => hb.shut (h.2 ha)⟩
  | reporting f => exact failures_mono hb.history h
  | escaped f => exact ⟨hb.history.mem h.1, h.2⟩
  | closing cause => exact h.imp hb.shut fun hm => hm.mono hb.history
  | _ => trivial

theorem phaseFor_backed (ms : List Message) (e : Endpoint) : (System.phaseFor ms).backed e := by
  cases ms <;> trivial

theorem Leads.backed (h : p.Leads p') (e : Endpoint) : p'.backed e := by
  cases h with
  | gather ms => exact phaseFor_backed ms e
  | drop m rest => exact phaseFor_backed rest e
  | _ => trivial

end Phase

namespace System

open Endpoint (Blames)

variable {s : System} {e : Endpoint}

/-! ### Operations of the dispatch thread -/

theorem resume_blames (h : Blames e s.endpoint) (after : After) :
    Blames e (s.resume after).endpoint := by
  cases after with
  | message m rest => exact h.trans (s.endpoint.conclude_blames m)
  | _ => exact h

theorem escape_blames (h : Blames e s.endpoint) (f : Failure) :
    Blames e (s.escape f).endpoint := by
  have h1 : Blames e (s.endpoint.record (.escaped f)) :=
    h.trans (.record rfl)
  unfold escape
  dsimp only
  split <;> exact h1.trans (.note _)

theorem invoke_blames (h : Blames e s.endpoint) {slot : Slot} (hslot : slot ≠ .error)
    (args : List Parameter) (after : After) : Blames e (s.invoke slot args after).endpoint := by
  have hn : (Event.began slot s.driver.state s.driver.payload args).isGrave = false := by
    cases slot <;> first | rfl | exact absurd rfl hslot
  unfold invoke
  split
  · exact h.trans (.record hn)
  · exact resume_blames h after

theorem giveUp_suffix (s : System) (message : WideText) :
    s.endpoint.history <:+ (s.giveUp message).endpoint.history :=
  List.suffix_append [Event.became .aborted, .noted (.failed message)] _

theorem giveUp_blames {message : WideText}
    (hr : Blame (s.driver.table.binds .error) (s.giveUp message).endpoint.history) :
    Blames s.endpoint (s.giveUp message).endpoint :=
  .of_reason [.became .aborted, .noted (.failed message)] rfl (by simp [Event.isGrave])
    rfl rfl (fun _ => rfl) fun _ => Or.inr hr

/-- A driver that is aborted because of trouble, and its error callback begins. -/
theorem alarm_blames (hb : ∀ slot f, .broke slot f ∉ s.endpoint.history) {text : String}
    (ht : Trouble s.endpoint.history text) :
    Blames s.endpoint ((s.giveUp text).endpoint.record
      (.began .error .aborted s.driver.payload [.envelope (Bytes.ofText text)])) := by
  have hs := s.giveUp_suffix text
  refine ⟨hs.trans (List.suffix_cons _ _), rfl, rfl, fun _ => rfl, fun _ _ _ => Or.inr rfl,
    fun _ => Or.inr (.alarm fun _ => ?_), fun l data args t hv => ?_⟩
  · simp [Endpoint.record, Event.begun?]
  · rcases List.suffix_cons_iff.mp hv with heq | hv
    · obtain ⟨hev, rfl⟩ := List.cons.inj heq
      obtain ⟨-, rfl, rfl, rfl⟩ := Event.began.inj hev
      refine Or.inr ⟨rfl, rfl, ⟨text, rfl, ht.mono hs⟩, fun slot f hm => hb slot f ?_⟩
      simpa [giveUp, Endpoint.become, Endpoint.note, Endpoint.record] using hm
    · exact Or.inl (suffix_of_not_mem [.became .aborted, .noted (.failed text)] (by simp) hv)

/-- A driver that fails is aborted, and its error callback begins if there is one, and the text can
be told. -/
theorem fail_blames (h : Blames e s.endpoint) {message : WideText}
    (hb : s.driver.state.isActive = true → ∀ slot f, .broke slot f ∉ s.endpoint.history)
    (ht : ∀ text : String, message = text → Trouble s.endpoint.history text)
    (hu : message.utf8? = none → .taken (.error message) ∈ s.endpoint.history) (after : After) :
    Blames e (s.fail message after).endpoint := by
  rcases s.fail_cases message after with ⟨ha, b, htext, he⟩ | ⟨-, hn, he⟩ | ⟨-, he⟩ <;> rw [he]
  · obtain ⟨text, rfl, rfl⟩ := WideText.of_utf8? htext
    unfold invoke
    split
    · exact h.trans (alarm_blames (hb ha) (ht text rfl))
    · rename_i hx
      exact resume_blames (h.trans (giveUp_blames (.alarm fun hy => absurd hy hx))) after
  · have hm := (s.giveUp_suffix message).mem (hu hn)
    exact escape_blames (h.trans (giveUp_blames (.untold hm hn))) _
  · exact resume_blames (s := s.note (.failedLate message)) (h.trans (.note _)) after

/-- What a failure is shown as can be told. -/
theorem fail_shown_blames {f : Failure}
    (hb : s.driver.state.isActive = true → ∀ slot f, .broke slot f ∉ s.endpoint.history)
    (ht : Trouble s.endpoint.history f.shown) (after : After) :
    Blames s.endpoint (s.fail f.shown after).endpoint := by
  refine fail_blames (.refl _) hb (fun text he => ?_) (fun hn => ?_) after
  · rwa [← WideText.ofString_inj.mp he]
  · rw [WideText.utf8?_ofString] at hn
    cases hn

/-- A callback that misuses the driver aborts it. -/
theorem misuse_blames (slot : Slot) {f : Failure} (hf : f.isMisuse = true) :
    Blames e ((e.record (.broke slot f)).become .aborted) := by
  refine ⟨(List.suffix_cons _ _).trans (List.suffix_cons _ _), rfl, rfl, fun _ => rfl,
    fun _ _ _ => Or.inr rfl,
    fun _ => Or.inr (.callback (List.mem_cons_of_mem _ List.mem_cons_self) (Or.inr hf)),
    fun l data args t hv => Or.inl ?_⟩
  exact suffix_of_not_mem [.became .aborted, .broke slot f] (by simp) hv

/-- A callback that fails otherwise shuts the driver down. -/
theorem broke_blames {slot : Slot} (f : Failure) (hc : e.driver.state ≠ .created)
    (hb : slot ∈ begun e.history) :
    Blames e ((e.record (.broke slot f)).note (.callbackFailed slot)).breakOff := by
  let x := (e.record (.broke slot f)).note (.callbackFailed slot)
  have hh : x.history <:+ x.breakOff.history := x.breakOff_deeds.turns.history
  have hbroke : .broke slot f ∈ x.breakOff.history :=
    hh.mem (List.mem_cons_of_mem _ List.mem_cons_self)
  have hold : e.history <:+ x.breakOff.history :=
    ((List.suffix_cons _ _).trans (List.suffix_cons _ _)).trans hh
  obtain ⟨hi, hnew⟩ := Endpoint.breakOff_state (e := x) hc
  have hshut : x.breakOff.driver.state.isShut = true := by
    rcases shut_of_inactive hi hnew with hs | hs | hs <;> rw [hs] <;> rfl
  refine ⟨hold, x.breakOff_works.continues.table, x.breakOff_works.continues.payload,
    fun _ => hshut, fun _ _ _ => Or.inr hshut, fun _ => Or.inr ?_,
    fun l data args t hv => Or.inl ?_⟩
  · by_cases hslot : slot = .error
    · rw [hslot] at hb
      exact .alarm fun _ => begun_mono hold hb
    · exact .callback hbroke (Or.inl hslot)
  · obtain ⟨new, hnew, hwork⟩ := x.breakOff_works.continues.history
    rw [hnew] at hv
    have hx := suffix_of_not_mem new (fun hm => by cases hwork _ hm) hv
    exact suffix_of_not_mem [.noted (.callbackFailed slot), .broke slot f] (by simp) hx

/-- A callback ends, or it fails. -/
theorem endCallback_blames (frame : Frame) (failure : Option Failure)
    (hc : s.driver.state ≠ .created) (hb : frame.slot ∈ begun s.endpoint.history)
    (h : Blames e s.endpoint) : Blames e (s.endCallback frame failure).endpoint := by
  cases failure with
  | none =>
    have h1 : Blames e (s.endpoint.record (.ended frame.slot)) :=
      h.trans (.record rfl)
    exact resume_blames h1 frame.after
  | some f =>
    by_cases hf : f.isMisuse = true
    · have h1 := h.trans (misuse_blames frame.slot hf)
      simp only [endCallback, hf, if_true]
      split
      · exact h1
      · exact escape_blames h1 f
    · have hf : f.isMisuse = false := by simpa using hf
      simp only [endCallback, hf, Bool.false_eq_true, if_false]
      exact resume_blames (h.trans (broke_blames f hc hb)) frame.after

theorem act_blames (frame : Frame) (hc : s.driver.state ≠ .created)
    (hb : frame.slot ∈ begun s.endpoint.history) : Blames s.endpoint (s.act frame).endpoint := by
  obtain ⟨slot, lent, actions, held, after⟩ := frame
  cases actions with
  | nil => exact endCallback_blames _ none hc hb (.refl _)
  | cons a actions =>
    cases a with
    | call c passOn =>
      have h1 : Blames s.endpoint
          ((s.callInside c).2.record (.acted c.op (s.callInside c).1)).endpoint := by
        have h0 : Blames s.endpoint (s.callInside c).2.endpoint := by
          rcases s.callInside_cases c with ⟨⟨i, q, rfl⟩, hcall⟩ | hcall
          · rw [hcall]
            exact (s.ask_eq i q).1 ▸ .refl _
          · rw [hcall]
            exact s.endpoint.conduct_blames _
        exact h0.trans (.record rfl)
      simp only [act]
      split
      · have hd := (callInside_deeds c hc).1
        have hc' := Phase.admits.deeds (p := .closing none) hc hd
        exact endCallback_blames _ _ hc' (begun_mono h1.history hb) h1
      · exact h1
    | raise f => exact endCallback_blames _ _ hc hb (.refl _)
    | hold => exact .record rfl
    | keep => exact .refl _
    | keepViews =>
      simp only [act]
      split
      · rename_i s' hk
        dsimp only
        rw [(keepViews_eq hk).1]
        exact .refl _
      · exact endCallback_blames _ _ hc hb (.refl _)
    | nameThread => exact .record rfl

/-! ### Messages -/

/-- A driver fails by a message that tells of an error. -/
theorem fail_of_reaction {d : Driver} {m : Message} {message : WideText}
    (h : d.reaction m = .fail message) : m = .error message := by
  cases hev : d.role.event? m with
  | none =>
    rcases Driver.reaction_of_none hev with ⟨-, f, uuid, -, hre⟩ | ⟨-, hre⟩
    · rw [hre] at h; cases h
    · rw [hre] at h; cases h
  | some slot =>
    rcases Driver.reaction_of_event hev with ⟨-, hre⟩ | ⟨-, text, rfl, hre⟩
    · rw [hre] at h; cases h
    · rw [hre] at h
      rw [Reaction.fail.inj h]

theorem take_blames (m : Message) (rest : List Message) (ha : s.driver.state.isActive = true)
    (hb : ∀ slot f, .broke slot f ∉ s.endpoint.history) :
    Blames s.endpoint (s.take m rest).endpoint := by
  have h1 : Blames s.endpoint (s.endpoint.record (.taken m)) :=
    .record rfl
  have h2 : Blames s.endpoint (s.facing m).endpoint :=
    h1.trans (Endpoint.prepare_blames (e := s.endpoint.record (.taken m)) m ha)
  rw [take_eq m rest ha]
  split
  · rename_i hre
    exact invoke_blames h2 (reaction_ne_error hre) _ _
  · exact h2.trans (Endpoint.settle_blames _ _)
  · rename_i message hre
    obtain rfl := fail_of_reaction hre
    have hw : Endpoint.Continues (s.endpoint.record (.taken (.error message)))
        (s.facing (.error message)).endpoint := Endpoint.prepare_continues _ _
    obtain ⟨new, hh, hn⟩ := hw.history
    have htaken : .taken (.error message) ∈ (s.facing (.error message)).endpoint.history := by
      rw [hh]
      exact List.mem_append_right _ List.mem_cons_self
    refine fail_blames h2 (fun _ slot f hm => ?_) (fun text he => .remote ?_) (fun _ => htaken) _
    · rw [hh] at hm
      rcases List.mem_append.mp hm with hm | hm
      · cases hn _ hm
      · exact hb slot f ((List.mem_cons.mp hm).resolve_left Event.noConfusion)
    · subst he
      exact htaken
  · exact h2.trans (.note _)

theorem proceed_blames {r : Except Failure Unit × Endpoint} (phase : Phase)
    (h : Blames s.endpoint r.2) : Blames s.endpoint (s.proceed r phase).endpoint := by
  unfold proceed
  dsimp only
  split
  · exact h
  · exact escape_blames h _

theorem receive_blames (h : Blames e s.endpoint) (a : Arrival) :
    Blames e (s.receive a).endpoint := by
  have h1 : Blames e ((s.endpoint.useTransport (Transport.receive
      s.driver.settings.receiveTimeout a)).2.record (.received (s.endpoint.useTransport
        (Transport.receive s.driver.settings.receiveTimeout a)).1)) :=
    h.trans ((Endpoint.useTransport_blames _ _).trans (.record rfl))
  unfold receive
  dsimp only
  split
  · exact h1
  · exact escape_blames h1 _

/-! ### Callers and the outside -/

theorem assign_blames (h : Blames e s.endpoint) (n : Nat) (errand : Errand) :
    Blames e (s.assign n errand).endpoint := by
  unfold assign
  dsimp only
  split
  · exact h.trans (.record rfl)
  · exact h

theorem caller_blames (s : System) (n : Nat) : Blames s.endpoint (s.caller n).endpoint := by
  unfold caller
  split
  · exact .refl _
  · exact .refl _
  · rename_i r _
    dsimp only
    rw [launch_endpoint]
    exact assign_blames (s := { s with endpoint := (s.endpoint.region false r).2 })
      (s.endpoint.region_blames false r) n _
  · exact assign_blames (.refl _) n _

theorem outside_blames (s : System) {m : Move} (hm : ∀ t, m ≠ .go t) :
    Blames s.endpoint (s.step m).endpoint := by
  cases m with
  | go t => exact absurd rfl (hm t)
  | call c =>
    unfold step addCaller
    dsimp only
    split
    · rename_i i q
      refine assign_blames ?_ _ _
      exact (s.ask_eq i q).1 ▸ .refl _
    · refine assign_blames ?_ _ _
      exact .refl _
  | arrive a => exact .refl _
  | openGate => exact .refl _
  | wake =>
    unfold step wake
    dsimp only
    split <;> exact .refl _
  | elapse nanos => exact .extend [] rfl (by simp) rfl rfl rfl

/-! ### Moves of the dispatch thread -/

theorem dispatch_blames (h : s.Sound) (hp : s.phase.backed s.endpoint)
    (hb : ∀ slot f, .broke slot f ∈ s.endpoint.history → s.driver.state.isShut = true) :
    Blames s.endpoint s.dispatch.endpoint := by
  have hactive : s.driver.state.isActive = true →
      ∀ slot f, .broke slot f ∉ s.endpoint.history := fun ha slot f hm =>
    absurd ((Lifecycle.not_active_of_isShut (hb slot f hm)).symm.trans ha) Bool.noConfusion
  unfold dispatch
  cases hph : s.phase with
  | idle | ended | checking => exact .refl _
  | begun =>
    dsimp only
    split
    · exact proceed_blames .linking s.endpoint.connectStart_blames
    · exact .record rfl
  | linking => exact proceed_blames .entering s.endpoint.connectEnd_blames
  | entering => exact proceed_blames .checking s.endpoint.enter_blames
  | deciding =>
    dsimp only
    split <;> exact .refl _
  | reporting f =>
    rw [hph] at hp
    exact fail_shown_blames hactive (.send hp rfl) _
  | escaped f =>
    rw [hph] at hp
    exact fail_shown_blames hactive (.loop hp.1 hp.2 rfl) _
  | receiving =>
    dsimp only
    split
    · exact escape_blames (.record rfl) _
    · exact .refl _
    · refine receive_blames ?_ _
      exact .refl _
  | handling ms =>
    cases ms with
    | nil => exact .refl _
    | cons m rest =>
      dsimp only [handle]
      split
      · rename_i ha
        exact take_blames m rest ha (hactive ha)
      · exact .note _
  | ticking =>
    dsimp only
    split
    · rename_i ha
      exact proceed_blames .checking (Endpoint.tick_blames ha)
    · exact .refl _
  | calling frame =>
    rw [hph] at hp
    dsimp only
    split
    · exact .refl _
    · have hc : s.driver.state ≠ .created :=
        h.admits.ne_created (by rw [hph]; exact Phase.noConfusion)
      exact act_blames frame hc hp.1
  | closing cause =>
    rw [hph] at hp
    refine Endpoint.leave_blames fun ha => hp.resolve_left fun hs => ?_
    exact absurd ((Lifecycle.not_active_of_isShut hs).symm.trans ha) Bool.noConfusion
  | signalling cause =>
    cases cause with
    | none => exact s.endpoint.signal_blames
    | some f => exact s.endpoint.signal_blames.trans (.record rfl)

theorem step_blames (h : s.Sound) (hp : s.phase.backed s.endpoint)
    (hb : ∀ slot f, .broke slot f ∈ s.endpoint.history → s.driver.state.isShut = true)
    (m : Move) : Blames s.endpoint (s.step m).endpoint := by
  rcases s.step_cases m with ⟨-, -, -, he⟩ | ⟨-, he⟩ | ⟨n, -, -, he⟩ | hm
  · rw [he]; exact .refl _
  · rw [he]; exact dispatch_blames h hp hb
  · rw [he]; exact s.caller_blames n
  · exact s.outside_blames hm

end System

end ClusterLink
