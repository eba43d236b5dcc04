/-
# The final status

What a join is answered. The dispatch thread puts down the final status of
its driver once, when it leaves the cluster (`System.step_concludes`), and
makes its end known after that. So whoever waits for the end finds a final
status, and everybody finds the same one.

It is that of a stopped or an aborted driver, unless a caller was overtaken
(`System.Overtaken`): then the driver may be destroyed by the time when its
dispatch thread leaves.

Key definitions: `Phase.isOver`, `System.Carries`, `System.Concluded`,
`System.Verdict`.
Key theorems: `System.dispatch_carries`, `System.step_concluded`,
`System.run_verdict`, `System.run_final`.
-/
import ClusterLink.Proofs.Destruction
import ClusterLink.Proofs.Work

namespace ClusterLink

/-- Whether the dispatch thread left the cluster. -/
def Phase.isOver : Phase → Bool
  | signalling _ | ended => true
  | _ => false

/-- Meanwhile the dispatch loop of the driver does not come to its end. -/
structure Driver.Ongoing (d d' : Driver) : Prop where
  final : d'.finalStatus = d.finalStatus
  done : d'.done = d.done

namespace Driver.Ongoing

variable {d d' d'' : Driver}

theorem refl (d : Driver) : Ongoing d d := ⟨rfl, rfl⟩

theorem trans (h : Ongoing d d') (h' : Ongoing d' d'') : Ongoing d d'' :=
  ⟨h'.final.trans h.final, h'.done.trans h.done⟩

end Driver.Ongoing

namespace Endpoint

/-! ### Operations of a driver -/

variable {e e' : Endpoint}

theorem push_ongoing (e : Endpoint) (m : Message) : e.driver.Ongoing (e.push m).driver := by
  obtain ⟨b, p, hd⟩ := push_driver e m
  exact ⟨by rw [hd], by rw [hd]⟩

theorem Work.ongoing (h : Work e e') : e.driver.Ongoing e'.driver := by
  cases h with
  | submit why ha hm => exact push_ongoing (e.record _) _
  | again _ _ _ =>
    obtain ⟨hf, hd⟩ := push_ongoing (e.record _) _
    exact ⟨hf, hd⟩
  | _ => exact ⟨rfl, rfl⟩

theorem Works.ongoing (h : Works e e') : e.driver.Ongoing e'.driver :=
  h.keep (P := fun x => e.driver.Ongoing x.driver) (fun _ _ hw hx => hx.trans hw.ongoing)
    (.refl e.driver)

theorem tick_ongoing (e : Endpoint) : e.driver.Ongoing e.tick.2.driver :=
  tick_keeps (P := fun x => e.driver.Ongoing x.driver) (fun _ _ h => h)
    (fun x _ h => h.trans (push_ongoing (x.record _) _)) (fun _ _ h => ⟨h.final, h.done⟩)
    (.refl e.driver)

theorem prepare_ongoing (e : Endpoint) (m : Message) :
    e.driver.Ongoing (e.prepare m).driver :=
  prepare_keeps (P := fun x => e.driver.Ongoing x.driver) (fun _ _ h => h)
    (fun x _ h => h.trans (push_ongoing (x.record _) _)) (fun _ _ h => ⟨h.final, h.done⟩)
    (fun _ _ h => ⟨h.final, h.done⟩) m (.refl e.driver)

theorem settle_ongoing (e : Endpoint) (uuid : Bytes) :
    e.driver.Ongoing (e.settle uuid).driver := by
  unfold settle
  split <;> exact ⟨rfl, rfl⟩

theorem enter_ongoing (e : Endpoint) : e.driver.Ongoing e.enter.2.driver := by
  rcases e.enter_cases with ⟨-, he⟩ | ⟨-, f, -, he⟩ | ⟨-, replyTo, -, he⟩
  · rw [he]; exact ⟨rfl, rfl⟩
  · rw [he]; exact ⟨rfl, rfl⟩
  · obtain ⟨b, p, hd⟩ := e.flush_driver replyTo
    have hf : e.driver.Ongoing (e.flush replyTo).driver := ⟨by rw [hd], by rw [hd]⟩
    rw [he]
    exact hf.trans ⟨rfl, rfl⟩

theorem region_ongoing (e : Endpoint) (inside : Bool) (r : Region) :
    e.driver.Ongoing (e.region inside r).2.driver := by
  by_cases hr : ∃ status, r = .give (.updateStatus status)
  · obtain ⟨status, rfl⟩ := hr
    show e.driver.Ongoing (e.order (.updateStatus status)).2.driver
    unfold order
    split
    · exact .refl _
    split
    · exact .refl _
    · obtain ⟨b, p, hd⟩ := e.issue_driver status
      show e.driver.Ongoing (e.issue (.updateStatus status)).driver
      exact ⟨by rw [hd]; rfl, by rw [hd]; rfl⟩
  · exact (region_works e inside fun status hs => hr ⟨status, hs⟩).ongoing

theorem conduct_ongoing (e : Endpoint) (errand : Errand) :
    e.driver.Ongoing (e.conduct errand).2.driver := by
  cases errand with
  | region r =>
    have h1 := region_ongoing e true r
    unfold conduct
    dsimp only
    split
    · rename_i r' e' hreg
      rw [hreg] at h1
      exact h1.trans (region_ongoing e' true r')
    · rename_i hreg
      rw [hreg] at h1
      exact h1
  | _ => exact .refl _

end Endpoint

namespace System

/-- The dispatch loop goes on. -/
structure Carries (s s' : System) : Prop where
  ongoing : s.driver.Ongoing s'.driver
  phase : s'.phase.isOver = false

theorem Carries.after {s t s' : System} (h : Carries t s')
    (h1 : s.driver.Ongoing t.driver) : Carries s s' :=
  ⟨h1.trans h.ongoing, h.phase⟩

theorem phaseFor_isOver (ms : List Message) : (phaseFor ms).isOver = false := by
  cases ms <;> rfl

/-! ### Operations of the dispatch thread -/

theorem resume_carries (s : System) (after : After) : s.Carries (s.resume after) := by
  cases after with
  | message m rest => exact ⟨(s.endpoint.conclude_works m).ongoing, phaseFor_isOver rest⟩
  | _ => exact ⟨.refl _, rfl⟩

theorem escape_carries (s : System) (f : Failure) : s.Carries (s.escape f) := by
  unfold escape
  dsimp only
  split <;> exact ⟨⟨rfl, rfl⟩, rfl⟩

theorem invoke_carries (s : System) (slot : Slot) (args : List Parameter) (after : After) :
    s.Carries (s.invoke slot args after) := by
  unfold invoke
  split
  · exact ⟨⟨rfl, rfl⟩, rfl⟩
  · exact s.resume_carries after

theorem fail_carries (s : System) (message : WideText) (after : After) :
    s.Carries (s.fail message after) := by
  rcases s.fail_cases message after with ⟨-, b, -, he⟩ | ⟨-, -, he⟩ | ⟨-, he⟩ <;> rw [he]
  · exact (invoke_carries _ _ _ _).after ⟨rfl, rfl⟩
  · exact (escape_carries _ _).after ⟨rfl, rfl⟩
  · exact (resume_carries _ _).after ⟨rfl, rfl⟩

theorem endCallback_carries (s : System) (frame : Frame) (failure : Option Failure) :
    s.Carries (s.endCallback frame failure) := by
  cases failure with
  | none => exact (resume_carries _ frame.after).after ⟨rfl, rfl⟩
  | some f =>
    by_cases hf : f.isMisuse = true
    · simp only [endCallback, hf, if_true]
      split
      · exact ⟨⟨rfl, rfl⟩, rfl⟩
      · exact (escape_carries _ f).after ⟨rfl, rfl⟩
    · have hf : f.isMisuse = false := by simpa using hf
      have h1 := (Endpoint.breakOff_works
        ((s.endpoint.record (.broke frame.slot f)).note (.callbackFailed frame.slot))).ongoing
      simp only [endCallback, hf, Bool.false_eq_true, if_false]
      exact (resume_carries _ frame.after).after h1

theorem callInside_ongoing (s : System) (c : Call) :
    s.driver.Ongoing (s.callInside c).2.driver := by
  unfold driver
  rcases s.callInside_cases c with ⟨-, hc⟩ | hc
  · rw [hc]
    exact .refl _
  · rw [hc]
    exact s.endpoint.conduct_ongoing _

theorem act_carries (s : System) (frame : Frame) : s.Carries (s.act frame) := by
  obtain ⟨slot, lent, actions, held, after⟩ := frame
  cases actions with
  | nil => exact s.endCallback_carries _ none
  | cons a actions =>
    cases a with
    | call c passOn =>
      have h1 := s.callInside_ongoing c
      simp only [act]
      split
      · exact (endCallback_carries _ _ _).after h1
      · exact ⟨h1, rfl⟩
    | raise f => exact s.endCallback_carries _ (some f)
    | hold => exact ⟨⟨rfl, rfl⟩, rfl⟩
    | keep => exact ⟨⟨rfl, rfl⟩, rfl⟩
    | keepViews =>
      simp only [act]
      split
      · rename_i s' hk
        have hs : s'.endpoint = s.endpoint := (keepViews_eq hk).1
        refine ⟨?_, rfl⟩
        show s.driver.Ongoing s'.endpoint.driver
        rw [hs]
        exact .refl _
      · exact s.endCallback_carries _ _
    | nameThread => exact ⟨⟨rfl, rfl⟩, rfl⟩

theorem handle_carries (s : System) (ms : List Message) : s.Carries (s.handle ms) := by
  cases ms with
  | nil => exact ⟨.refl _, rfl⟩
  | cons m rest =>
    by_cases ha : s.driver.state.isActive = true
    · have h1 := (s.endpoint.record (.taken m)).prepare_ongoing m
      rw [handle, if_pos ha]
      unfold take
      dsimp only
      split
      · exact (invoke_carries _ _ _ _).after h1
      · exact ⟨h1.trans (Endpoint.settle_ongoing _ _), phaseFor_isOver rest⟩
      · exact (fail_carries _ _ _).after h1
      · exact ⟨h1.trans ⟨rfl, rfl⟩, phaseFor_isOver rest⟩
    · rw [handle, if_neg ha]
      exact ⟨⟨rfl, rfl⟩, phaseFor_isOver rest⟩

theorem receive_carries (s : System) (a : Arrival) : s.Carries (s.receive a) := by
  unfold receive
  dsimp only
  split
  · exact ⟨⟨rfl, rfl⟩, phaseFor_isOver _⟩
  · exact (escape_carries _ _).after ⟨rfl, rfl⟩

theorem proceed_carries {s : System} {r : Except Failure Unit × Endpoint} {phase : Phase}
    (h : s.driver.Ongoing r.2.driver) (hp : phase.isOver = false) :
    s.Carries (s.proceed r phase) := by
  unfold proceed
  dsimp only
  split
  · exact ⟨h, hp⟩
  · exact (escape_carries _ _).after h

/-- The dispatch loop goes on until the thread leaves the cluster, unless the thread finds its
transport gone. -/
theorem dispatch_carries {s : System} (ho : s.phase.isOver = false)
    (hc : ∀ cause, s.phase ≠ .closing cause) :
    s.Carries s.dispatch ∨
      s.phase = .begun ∧ s.dispatch.phase = .ended ∧ s.dispatch.driver = s.driver := by
  have hrefl : s.Carries s := ⟨.refl _, ho⟩
  unfold dispatch
  split
  all_goals rename_i hp
  · exact Or.inl hrefl
  · exact Or.inl hrefl
  · split
    · exact Or.inl (proceed_carries (.refl _) rfl)
    · exact Or.inr ⟨hp, rfl, rfl⟩
  · refine Or.inl (proceed_carries ?_ rfl)
    rw [Endpoint.connectEnd_driver]
    exact .refl _
  · exact Or.inl (proceed_carries s.endpoint.enter_ongoing rfl)
  · refine Or.inl ⟨.refl _, ?_⟩
    dsimp only
    split <;> rfl
  · split <;> exact Or.inl ⟨.refl _, rfl⟩
  · exact Or.inl (s.fail_carries _ _)
  · split
    · exact Or.inl ((escape_carries _ _).after ⟨rfl, rfl⟩)
    · exact Or.inl hrefl
    · exact Or.inl ((receive_carries _ _).after (.refl _))
  · exact Or.inl (s.handle_carries _)
  · split
    · rename_i ha
      exact Or.inl (proceed_carries s.endpoint.tick_ongoing rfl)
    · exact Or.inl ⟨.refl _, rfl⟩
  · exact Or.inl (s.fail_carries _ _)
  · split
    · exact Or.inl hrefl
    · exact Or.inl (s.act_carries _)
  · exact absurd hp (hc _)
  · rw [hp] at ho
    cases ho

/-! ### Putting the final status down -/

/-- How far the end of the dispatch loop is put down. -/
structure Concluded (s : System) : Prop where
  going : s.phase.isOver = false → s.driver.finalStatus = none ∧ s.driver.done = false
  left : ∀ cause, s.phase = .signalling cause →
    s.driver.finalStatus.isSome = true ∧ s.driver.done = false
  /-- A thread that found its transport gone puts nothing down. -/
  ended : s.phase = .ended → s.driver.done = s.driver.finalStatus.isSome

theorem Concluded.known {s : System} (h : s.Concluded) (hd : s.driver.done = true) :
    s.driver.finalStatus.isSome = true := by
  cases hp : s.phase with
  | ended => exact (h.ended hp).symm.trans hd
  | signalling cause => exact (h.left cause hp).1
  | _ => exact absurd (hd.symm.trans (h.going (by rw [hp]; rfl)).2) Bool.noConfusion

theorem Begins.concluded {s : System} (h : s.Begins) : s.Concluded := by
  obtain ⟨a, remote, ha⟩ := h.made
  have hd := Application.driver_new ha
  have hp := h.phase
  refine ⟨fun _ => ⟨hd.finalStatus, hd.done⟩, fun cause hs => ?_, fun he => ?_⟩
  · rw [hp] at hs
    cases hs
  · rw [hp] at he
    cases he

/-- What keeps the dispatch loop going, with the thread where it was or launched, keeps what is put
down. -/
theorem Concluded.carry {s s' : System} (h : s.Concluded) (ho : s.driver.Ongoing s'.driver)
    (hp : s'.phase = s.phase ∨ s.phase.isOver = false ∧ s'.phase.isOver = false) :
    s'.Concluded := by
  obtain ⟨hf, hd⟩ := ho
  rcases hp with hp | ⟨hp, hp'⟩
  · refine ⟨fun hg => ?_, fun cause hl => ?_, fun he => ?_⟩
    · rw [hf, hd]; exact h.going (hp ▸ hg)
    · rw [hf, hd]; exact h.left cause (hp ▸ hl)
    · rw [hf, hd]; exact h.ended (hp ▸ he)
  · refine ⟨fun _ => ?_, fun cause hl => ?_, fun he => ?_⟩
    · rw [hf, hd]; exact h.going hp
    · rw [hl] at hp'; cases hp'
    · rw [he] at hp'; cases hp'

/-- A move of the dispatch thread keeps the loop going, or puts down a part of its end. -/
theorem dispatch_cases {s : System} :
    (s.driver.Ongoing s.dispatch.driver ∧
      (s.dispatch.phase = s.phase ∨ s.phase.isOver = false ∧ s.dispatch.phase.isOver = false)) ∨
    (s.phase = .begun ∧ s.dispatch.phase = .ended ∧ s.dispatch.driver = s.driver) ∨
    (∃ cause, s.phase = .closing cause ∧ s.dispatch.phase = .signalling cause ∧
      s.dispatch.driver.finalStatus = some s.endpoint.breakOff.driver.state.status ∧
      s.dispatch.driver.done = s.driver.done) ∨
    ∃ cause, s.phase = .signalling cause ∧ s.dispatch.phase = .ended ∧
      s.dispatch.driver.finalStatus = s.driver.finalStatus ∧ s.dispatch.driver.done = true := by
  by_cases hc : ∃ cause, s.phase = .closing cause
  · obtain ⟨cause, hp⟩ := hc
    refine Or.inr (Or.inr (Or.inl ⟨cause, hp, ?_, ?_, ?_⟩))
    · simp only [dispatch, hp]
    · simp only [dispatch, hp, driver, Endpoint.leave, Endpoint.closeTransport_driver]
    · have hb := (Endpoint.breakOff_works s.endpoint).ongoing.done
      simpa only [dispatch, hp, driver, Endpoint.leave, Endpoint.closeTransport_driver] using hb
  have hc : ∀ cause, s.phase ≠ .closing cause := fun cause hp => hc ⟨cause, hp⟩
  by_cases ho : s.phase.isOver = false
  · rcases dispatch_carries ho hc with hcarry | hb
    · exact Or.inl ⟨hcarry.ongoing, Or.inr ⟨ho, hcarry.phase⟩⟩
    · exact Or.inr (Or.inl hb)
  cases hp : s.phase with
  | ended =>
    have hs : s.dispatch = s := by simp only [dispatch, hp]
    rw [hs, hp]
    exact Or.inl ⟨.refl _, Or.inl rfl⟩
  | signalling cause =>
    refine Or.inr (Or.inr (Or.inr ⟨cause, rfl, ?_⟩))
    simp only [dispatch, hp]
    split <;> exact ⟨rfl, rfl, rfl⟩
  | _ => rw [hp] at ho; exact absurd rfl ho

/-- Any other move keeps what is put down. -/
theorem caller_ongoing {s : System} (n : Nat) :
    s.driver.Ongoing (s.caller n).driver ∧ ((s.caller n).phase = s.phase ∨
      s.phase.isOver = false ∧ (s.caller n).phase.isOver = false) := by
  unfold caller
  split
  · exact ⟨.refl _, Or.inl rfl⟩
  · exact ⟨.refl _, Or.inl rfl⟩
  · rename_i r _
    dsimp only
    have hph := (assign_deeds { s with endpoint := (s.endpoint.region false r).2 } n
      (s.endpoint.region false r).1).2
    refine ⟨?_, ?_⟩
    · unfold driver
      rw [launch_endpoint]
      have hd := assign_driver { s with endpoint := (s.endpoint.region false r).2 } n
        (s.endpoint.region false r).1
      unfold driver at hd
      rw [hd]
      exact s.endpoint.region_ongoing false r
    · rcases launch_phase (assign { s with endpoint := (s.endpoint.region false r).2 } n
        (s.endpoint.region false r).1) with hl | ⟨hi, hl⟩
      · exact Or.inl (hl.trans hph)
      · rw [hl, ← hph, hi]
        exact Or.inr ⟨rfl, rfl⟩
  · rename_i errand _ _ _
    obtain ⟨-, hph⟩ := s.assign_deeds n (s.endpoint.awaited errand)
    rw [assign_driver]
    exact ⟨.refl _, Or.inl hph⟩

theorem step_concluded {s : System} (h : s.Concluded) (m : Move) : (s.step m).Concluded := by
  rcases s.step_cases m with ⟨-, -, -, he⟩ | ⟨-, he⟩ | ⟨n, -, hp, he⟩ | hm
  · rwa [he]
  · rw [he]
    rcases s.dispatch_cases with ⟨ho, hph⟩ | ⟨hp, hp', hd⟩ | ⟨cause, hp, hp', hf, hd⟩ |
      ⟨cause, hp, hp', hf, hd⟩
    · exact h.carry ho hph
    · obtain ⟨hf, hdone⟩ := h.going (by rw [hp]; rfl)
      refine ⟨fun hg => ?_, fun cause hl => ?_, fun _ => ?_⟩
      · rw [hp'] at hg; cases hg
      · rw [hp'] at hl; cases hl
      · rw [hd, hf, hdone]; rfl
    · obtain ⟨-, hdone⟩ := h.going (by rw [hp]; rfl)
      refine ⟨fun hg => ?_, fun _ _ => ?_, fun hen => ?_⟩
      · rw [hp'] at hg; cases hg
      · rw [hf, hd]; exact ⟨rfl, hdone⟩
      · rw [hp'] at hen; cases hen
    · obtain ⟨hsome, -⟩ := h.left cause hp
      refine ⟨fun hg => ?_, fun cause hl => ?_, fun _ => ?_⟩
      · rw [hp'] at hg; cases hg
      · rw [hp'] at hl; cases hl
      · rw [hf, hd, hsome]
  · rw [he]
    obtain ⟨ho, hph⟩ := s.caller_ongoing n
    exact h.carry ho hph
  · obtain ⟨-, hd, hph⟩ := s.outside_deeds hm
    refine h.carry (by rw [hd]; exact .refl _) ?_
    rcases hph with hph | ⟨frame, frame', hp, hp'⟩
    · exact Or.inl hph
    · rw [hp, hp']
      exact Or.inr ⟨rfl, rfl⟩

/-- A final status is put down when the dispatch thread leaves the cluster, and stays. -/
theorem step_concludes {s : System} (h : s.Concluded) (m : Move) :
    (s.step m).driver.finalStatus = s.driver.finalStatus ∨
      s.driver.finalStatus = none ∧ ∃ cause, s.phase = .closing cause ∧
        (s.step m).driver.finalStatus = some s.endpoint.breakOff.driver.state.status := by
  rcases s.step_cases m with ⟨-, -, -, he⟩ | ⟨-, he⟩ | ⟨n, -, hp, he⟩ | hm
  · exact Or.inl (by rw [he])
  · rw [he]
    rcases s.dispatch_cases with ⟨ho, -⟩ | ⟨-, -, hd⟩ | ⟨cause, hp, -, hf, -⟩ | ⟨-, -, -, hf, -⟩
    · exact Or.inl ho.final
    · exact Or.inl (by rw [hd])
    · exact Or.inr ⟨(h.going (by rw [hp]; rfl)).1, cause, hp, hf⟩
    · exact Or.inl hf
  · rw [he]
    exact Or.inl (s.caller_ongoing n).1.final
  · exact Or.inl (by rw [(s.outside_deeds hm).2.1])

theorem step_finalStatus {s : System} (h : s.Concluded) (m : Move) {st : Status}
    (hf : s.driver.finalStatus = some st) : (s.step m).driver.finalStatus = some st := by
  rcases step_concludes h m with hs | ⟨hn, -⟩
  · exact hs.trans hf
  · rw [hn] at hf
    cases hf

theorem run_concluded {s : System} (h : s.Begins) (moves : List Move) : (s.run moves).Concluded :=
  run_invariant (P := Concluded) (fun _ m _ hc => step_concluded hc m) h.sound h.concluded moves

/-! ### Joins -/

/-- Callers from a number on that join wait for the end of the dispatch thread, or were told the
final status. -/
def Joining (first : Nat) (s : System) : Prop :=
  ∀ (n : Nat) (x : Caller), first ≤ n → s.callers[n]? = some x → x.call = .join →
    x.errand = .region .join ∨ x.errand = .awaitVerdict ∨
      (∃ f, x.errand = .finished (.error f)) ∨
      ∃ st, x.errand = .finished (.ok (.status st)) ∧ s.driver.finalStatus = some st

/-- A join that comes to a driver that was started waits, or is told of its misuse. -/
theorem region_join_started {e : Endpoint} (h : e.driver.state ≠ .created) :
    (e.region false .join).1 = .awaitVerdict ∨
      ∃ f, (e.region false .join).1 = .finished (.error f) := by
  by_cases hd : e.driver.state = .destroyed
  · exact Or.inr ⟨e.driver.gone "join", by simp [Endpoint.region, hd]⟩
  · exact Or.inl (by simp [Endpoint.region, hd, h])

theorem step_joining {s : System} {first : Nat} (h : s.Sound) (hc : s.Concluded)
    (hl : s.driver.launched = true) (hj : s.Joining first) (m : Move) :
    (s.step m).Joining first := by
  intro n x' hn hx' hcall
  cases step_served h hx' with
  | left hx =>
    rcases hj n x' hn hx hcall with hr | hw | hf | ⟨st, hf, hst⟩
    · exact Or.inl hr
    · exact Or.inr (Or.inl hw)
    · exact Or.inr (Or.inr (Or.inl hf))
    · exact Or.inr (Or.inr (Or.inr ⟨st, hf, step_finalStatus hc m hst⟩))
  | came hm hlen _ _ _ _ =>
    subst hm hlen
    obtain ⟨-, ⟨-, i, q, hask⟩ | he⟩ := addCaller_errand hx'
    · rw [hcall] at hask
      cases hask
    · rw [hcall] at he
      exact Or.inl he
  | @region x r _ hx hreg _ hcx he _ =>
    rcases hj n x hn hx (hcx.symm.trans hcall) with hr | hw | ⟨f, hf⟩ | ⟨st, hf, -⟩
    · obtain rfl := Errand.region.inj (hreg.symm.trans hr)
      rw [he]
      rcases region_join_started (h.endpoint.launched hl).1 with hreg | hreg
      · exact Or.inr (Or.inl hreg)
      · exact Or.inr (Or.inr (Or.inl hreg))
    · rw [hreg] at hw; cases hw
    · rw [hreg] at hf; cases hf
    · rw [hreg] at hf; cases hf
  | @waited x hm hx hw hdone hcx he =>
    have hwait : x.errand = .awaitVerdict := by
      rcases hw with hw | hw
      · exact hw
      · rcases hj n x hn hx (hcx.symm.trans hcall) with hr | hr | ⟨f, hr⟩ | ⟨st, hr, -⟩ <;>
          rw [hw] at hr <;> cases hr
    obtain ⟨st, hst⟩ := Option.isSome_iff_exists.mp (hc.known hdone)
    refine Or.inr (Or.inr (Or.inr ⟨st, ?_, step_finalStatus hc m hst⟩))
    rw [he, hwait]
    simp only [Endpoint.awaited, Driver.verdict, hst, Option.getD_some]

theorem step_launched {s : System} (h : s.Sound) (m : Move) (hl : s.driver.launched = true) :
    (s.step m).driver.launched = true := by
  by_cases hj : s.joins m = true
  · have hd := (step_joins h hj).1.launched.1
    exact hd.trans ((Endpoint.enter_launched _).trans hl)
  · exact (step_turns h (by simpa using hj)).launched hl

/-- What joins are answered, from the time when the driver was started. -/
structure Verdict (s₀ s : System) : Prop where
  /-- Whoever waits for the end of the dispatch thread finds a final status. -/
  known : s.driver.done = true → s.driver.finalStatus.isSome = true
  /-- Joins that came since are told the final status. -/
  joins : ∀ n x st, s₀.callers.length ≤ n → s.callers[n]? = some x → x.call = .join →
    x.errand = .finished (.ok (.status st)) → s.driver.finalStatus = some st

theorem run_verdict {s : System} (h : s.Begins) (before after : List Move)
    (hl : (s.run before).driver.launched = true) :
    (s.run before).Verdict ((s.run before).run after) := by
  have hsound := run_sound h.sound before
  have hbegin : (s.run before).Joining (s.run before).callers.length := by
    intro n x hn hx
    rw [List.getElem?_eq_none hn] at hx
    cases hx
  obtain ⟨hc, -, hj⟩ := run_invariant
    (P := fun t => t.Concluded ∧ t.driver.launched = true ∧
      t.Joining (s.run before).callers.length)
    (fun t m ht hP => ⟨step_concluded hP.1 m, step_launched ht m hP.2.1,
      step_joining ht hP.1 hP.2.1 hP.2.2 m⟩)
    hsound ⟨run_concluded h before, hl, hbegin⟩ after
  refine ⟨hc.known, fun n x st hn hx hcall hf => ?_⟩
  rcases hj n x hn hx hcall with hr | hr | ⟨f, hr⟩ | ⟨st', hr, hst⟩
  · rw [hf] at hr; cases hr
  · rw [hf] at hr; cases hr
  · rw [hf] at hr; cases hr
  · rw [hf] at hr
    cases hr
    exact hst

/-! ### Which status it is -/

theorem step_final {s : System} (h : s.Sound) (hc : s.Concluded) (hr : s.Released)
    (hf : ∀ st, s.driver.finalStatus = some st → st = .stopped ∨ st = .aborted) (m : Move) :
    ∀ st, (s.step m).driver.finalStatus = some st → st = .stopped ∨ st = .aborted := by
  intro st hst
  rcases step_concludes hc m with hs | ⟨-, cause, hp, hs⟩
  · exact hf st (hs.symm.trans hst)
  · obtain rfl := Option.some.inj (hs.symm.trans hst)
    have ha := h.admits
    rw [hp] at ha
    obtain ⟨hi, hcr⟩ := Endpoint.breakOff_state ha
    rcases shut_of_inactive hi hcr with hstate | hstate | hstate
    · rw [hstate]; exact Or.inl rfl
    · rw [hstate]; exact Or.inr rfl
    · -- the driver would have been destroyed before
      have hd : s.driver.state = .destroyed := by
        unfold Endpoint.breakOff at hstate
        split at hstate
        · cases hstate
        · exact hstate
      have hl := h.launched.mpr (by rw [hp]; exact Phase.noConfusion)
      have hdone := hr hd hl
      rw [(hc.going (by rw [hp]; rfl)).2] at hdone
      cases hdone

/-- The final status is that of a stopped or an aborted driver in a run in which nobody is
overtaken. -/
theorem run_final {s : System} (h : s.Begins) (moves : List Move)
    (ho : ∀ before, before <+: moves → ¬ (s.run before).Overtaken) :
    ∀ st, (s.run moves).driver.finalStatus = some st → st = .stopped ∨ st = .aborted := by
  have hnone : s.driver.finalStatus = none := (h.concluded.going (by rw [h.phase]; rfl)).1
  refine (run_invariant_while (P := fun t => t.Concluded ∧ t.Released ∧
      ∀ st, t.driver.finalStatus = some st → st = .stopped ∨ st = .aborted)
    (Q := fun t => ¬ t.Overtaken) ?_ h.sound ⟨h.concluded, h.released, ?_⟩ moves ho).2.2
  · rintro t m ht hot ⟨hc, hr, hf⟩
    exact ⟨step_concluded hc m, step_released ht hr hot m, step_final ht hc hr hf m⟩
  · intro st hst
    rw [hnone] at hst
    cases hst

/-- Otherwise it may be that of a destroyed driver, and a join is told so. -/
example : ((sample [] [] []).run
    [.call .destroy, .go (.caller 0), .call .start, .go (.caller 1), .go .dispatch, .call .join,
      .go (.caller 2), .go (.caller 0), .go .dispatch, .go .dispatch, .go .dispatch, .go .dispatch,
      .go .dispatch, .go (.caller 2)]).errandOf 2 =
    some (.finished (.ok (.status .invalidState))) := rfl

end System

end ClusterLink
