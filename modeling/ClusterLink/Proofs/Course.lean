/-
# The course of a system

Every move of a system is a row of turns of its driver
(`System.step_turns`), apart from the move with which the driver joins the
cluster (`System.joins`), after which the thread never connects again. The
dispatch thread stays where the state of the driver lets it be
(`System.Sound`).

Key definitions: `System.Sound`, `System.joins`, `System.Begins`.
Key theorems: `System.step_cases`, `System.run_sound`, `System.step_turns`,
`System.step_joins`, `System.run_keeps`.
-/
import ClusterLink.Driver.Construct
import ClusterLink.Proofs.Entry
import ClusterLink.Proofs.Onward

namespace ClusterLink

/-! ### Moves -/

namespace System

/-- The dispatch thread is where the state of the driver lets it be. -/
structure Sound (s : System) : Prop where
  endpoint : s.endpoint.Sound
  launched : s.driver.launched = true ↔ s.phase ≠ .idle
  admits : s.phase.admits s.driver.state

/-- Whether with this move the driver joins the cluster, if it still can. -/
def joins (s : System) : Move → Bool
  | .go .dispatch =>
    match s.phase with
    | .entering => true
    | _ => false
  | _ => false

theorem joins_iff {s : System} {m : Move} :
    s.joins m = true ↔ m = .go .dispatch ∧ s.phase = .entering := by
  unfold joins
  split
  · split <;> simp_all
  · simp_all

theorem not_joins_of_late {s : System} (h : s.phase.isLate = true) (m : Move) :
    s.joins m = false := by
  by_contra hj
  obtain ⟨-, hp⟩ := joins_iff.mp (by simpa using hj)
  rw [hp] at h
  cases h

/-- A move goes to a thread which has to wait, to the dispatch thread or to a caller, or comes from
the outside. -/
theorem step_cases (s : System) (m : Move) :
    (∃ t, m = .go t ∧ s.provides (s.need t) = false ∧ s.step m = s) ∨
    (m = .go .dispatch ∧ s.step m = s.dispatch) ∨
    (∃ n, m = .go (.caller n) ∧ s.provides (s.need (.caller n)) = true ∧
      s.step m = s.caller n) ∨
    ∀ t, m ≠ .go t := by
  cases m with
  | go t =>
    by_cases hp : s.provides (s.need t) = true
    · cases t with
      | dispatch => exact Or.inr (Or.inl ⟨rfl, by simp [step, hp, advance]⟩)
      | caller n => exact Or.inr (Or.inr (Or.inl ⟨n, rfl, hp, by simp [step, hp, advance]⟩))
    · exact Or.inl ⟨t, rfl, by simpa using hp, by simp [step, hp]⟩
  | _ => exact Or.inr (Or.inr (Or.inr fun _ => Move.noConfusion))

theorem dispatch_idle {s : System} (h : s.phase = .idle) : s.dispatch = s := by
  unfold dispatch
  rw [h]

/-- The dispatch thread connects, or fails to, or finds its transport gone. -/
theorem dispatch_early {s : System} (h : s.Sound) (hp : s.phase = .begun ∨ s.phase = .linking) :
    Endpoint.Deeds s.endpoint s.dispatch.endpoint ∧ s.dispatch.phase ≠ .idle ∧
      s.dispatch.phase.admits s.dispatch.driver.state ∧ s.dispatch.callers = s.callers := by
  have ha := h.admits
  have hproceed : ∀ (r : Except Failure Unit × Endpoint) (p : Phase),
      Endpoint.Deeds s.endpoint r.2 → p ≠ .idle → p.admits s.driver.state →
      s.driver.state ≠ .created → Endpoint.Deeds s.endpoint (s.proceed r p).endpoint ∧
        (s.proceed r p).phase ≠ .idle ∧ (s.proceed r p).phase.admits (s.proceed r p).driver.state ∧
          (s.proceed r p).callers = s.callers := by
    intro r p hd hpi hpa hc
    unfold proceed
    dsimp only
    split
    · exact ⟨hd, hpi, hpa.deeds hd, rfl⟩
    · rename_i f _
      have ho := escape_onward (s := { s with endpoint := r.2 }) f
        (Phase.admits.deeds (p := .closing none) hc hd)
      exact ⟨hd.trans ho.deeds, fun hi => by simpa [hi, Phase.isLate] using ho.late, ho.admits,
        ho.callers⟩
  unfold dispatch
  rcases hp with hp | hp <;> rw [hp] at ha ⊢ <;> dsimp only
  · split
    · exact hproceed _ .linking (Endpoint.connectStart_deeds _) Phase.noConfusion ha ha.1
    · rename_i hn
      have hl := h.launched.mpr (by rw [hp]; exact Phase.noConfusion)
      have hs := ((h.endpoint.launched hl).2).resolve_left hn
      exact ⟨s.record_deeds (v := .threadRaised _) rfl, Phase.noConfusion, Or.inr (Or.inr hs), rfl⟩
  · exact hproceed _ .entering (Endpoint.connectEnd_deeds _) Phase.noConfusion ha ha.1

/-- What a region leads to is recorded when it is a result. -/
theorem assign_deeds (s : System) (n : Nat) (errand : Errand) :
    Endpoint.Deeds s.endpoint (s.assign n errand).endpoint ∧
      (s.assign n errand).phase = s.phase := by
  unfold assign
  dsimp only
  split
  · exact ⟨(Endpoint.Deed.aside rfl).one, rfl⟩
  · exact ⟨.refl, rfl⟩

theorem assign_driver (s : System) (n : Nat) (errand : Errand) :
    (s.assign n errand).driver = s.driver := by
  unfold assign
  dsimp only
  split <;> rfl

theorem launch_endpoint (s : System) : s.launch.endpoint = s.endpoint := by
  unfold launch
  split
  · split <;> rfl
  · rfl

theorem launch_phase (s : System) :
    s.launch.phase = s.phase ∨ s.phase = .idle ∧ s.launch.phase = .begun := by
  unfold launch
  split
  · rename_i hi
    split
    · exact Or.inr ⟨hi, rfl⟩
    · exact Or.inl rfl
  · exact Or.inl rfl

/-- Callers make turns, and no callback runs meanwhile. -/
theorem caller_turns {s : System} (n : Nat) (hp : s.provides (s.need (.caller n)) = true) :
    Endpoint.Turns s.endpoint (s.caller n).endpoint ∧
      ((s.caller n).phase = s.phase ∧ (s.caller n).driver = s.driver ∨
        (∀ frame, s.phase ≠ .calling frame) ∧
          ∃ t : System, t.phase = s.phase ∧ s.caller n = t.launch) := by
  unfold caller
  split
  · exact ⟨.refl, Or.inl ⟨rfl, rfl⟩⟩
  · exact ⟨.refl, Or.inl ⟨rfl, rfl⟩⟩
  · rename_i r he
    dsimp only
    rw [launch_endpoint]
    refine ⟨?_, Or.inr ⟨?_, _, ?_, rfl⟩⟩
    · have hr := s.endpoint.region_turns false r
      have hd := assign_deeds { s with endpoint := (s.endpoint.region false r).2 } n
        (s.endpoint.region false r).1
      exact hr.trans hd.1.turns
    · intro frame hf
      simp [need, callerNeed, he, provides, isLocked, hf] at hp
    · exact (assign_deeds _ _ _).2
  · rename_i errand _ _ _
    obtain ⟨hd, hph⟩ := s.assign_deeds n (s.endpoint.awaited errand)
    exact ⟨hd.turns, Or.inl ⟨hph, assign_driver _ _ _⟩⟩

/-- After turns of its driver, a system whose thread is launched in time is sound. -/
theorem launch_sound {s t : System} (h : s.Sound) (hp : ∀ frame, s.phase ≠ .calling frame)
    (htp : t.phase = s.phase) (ht : Endpoint.Turns s.endpoint t.endpoint) : t.launch.Sound := by
  have hts := ht.sound h.endpoint
  by_cases hi : s.phase = .idle
  · have hs : s.driver.state = .created ∨ s.driver.state = .destroyed := by
      simpa [hi, Phase.admits] using h.admits
    unfold launch
    rw [htp, hi]
    dsimp only
    split
    · rename_i hl
      refine ⟨hts, ⟨fun _ => Phase.noConfusion, fun _ => hl⟩, (hts.launched hl).1, ?_⟩
      exact ht.ne_running (by rcases hs with hs | hs <;> simp [hs])
    · rename_i hl
      have hl : t.driver.launched = false := by simpa using hl
      refine ⟨hts, ⟨fun h => ?_, fun h => absurd (htp.trans hi) h⟩, ?_⟩
      · exact absurd (hl.symm.trans h) Bool.noConfusion
      · rw [htp, hi]; exact hts.unlaunched hl
  · have hlt : t.launch = t := by
      unfold launch
      split
      · rename_i hti
        exact absurd (htp.symm.trans hti) hi
      · rfl
    have hl := h.launched.mpr hi
    rw [hlt]
    refine ⟨hts, ⟨fun _ => by rwa [htp], fun _ => ht.launched hl⟩, ?_⟩
    rw [htp]
    rcases ht.state_cases (h.admits.ne_created hi) with hs | hs | hs | hs
    · rw [hs]; exact h.admits
    · exact Phase.admits_halted hi (Or.inl hs)
    · exact Phase.admits_halted hi (Or.inr hs)
    · rw [hs]; exact Phase.admits_destroyed hp

/-- A system that did some deeds and is where it may be is sound. -/
theorem Sound.deeds {s t : System} (h : s.Sound) (hi : s.phase ≠ .idle)
    (hd : Endpoint.Deeds s.endpoint t.endpoint) (hti : t.phase ≠ .idle)
    (ha : t.phase.admits t.driver.state) : t.Sound :=
  ⟨hd.turns.sound h.endpoint,
    ⟨fun _ => hti, fun _ => hd.launched.1.trans (h.launched.mpr hi)⟩, ha⟩

/-- The driver joins the cluster, and the dispatch loop begins, unless that failed. -/
theorem dispatch_entering {s : System} (hp : s.phase = .entering) :
    s.dispatch = s.proceed s.endpoint.enter .checking := by
  unfold dispatch
  rw [hp]

theorem dispatch_entering_onward {s : System} (h : s.Sound) (hp : s.phase = .entering) :
    Endpoint.Deeds s.endpoint.enter.2 s.dispatch.endpoint ∧ s.dispatch.phase.isLate = true ∧
      s.dispatch.phase.admits s.dispatch.driver.state ∧ s.dispatch.callers = s.callers := by
  have ha := h.admits
  rw [hp] at ha
  rw [dispatch_entering hp]
  unfold proceed
  rcases s.endpoint.enter_cases with ⟨hs, he⟩ | ⟨hs, f, -, he⟩ | ⟨hs, replyTo, -, he⟩
  · rw [he]
    exact ⟨.refl, rfl, ⟨ha.1, hs⟩, rfl⟩
  · rw [he]
    have ho := escape_onward
      (s := { s with endpoint := { s.endpoint with driver.connected := true } }) f ha.1
    exact ⟨ho.deeds, ho.late, ho.admits, ho.callers⟩
  · rw [he]
    exact ⟨.refl, rfl, ⟨Lifecycle.noConfusion, Lifecycle.noConfusion⟩, rfl⟩

/-- One move of the dispatch thread keeps the system sound. -/
theorem dispatch_sound {s : System} (h : s.Sound) : s.dispatch.Sound := by
  rcases s.phase.stages with hl | he | hb | hi
  · have ho := dispatch_onward h.admits hl
    exact h.deeds (Phase.ne_idle_of_isLate hl) ho.deeds (Phase.ne_idle_of_isLate ho.late) ho.admits
  · obtain ⟨hd, hl', ha, -⟩ := dispatch_entering_onward h he
    have hi : s.phase ≠ .idle := by rw [he]; exact Phase.noConfusion
    have hes := Endpoint.enter_sound h.endpoint
    refine ⟨hd.turns.sound hes, ⟨fun _ => Phase.ne_idle_of_isLate hl', fun _ => ?_⟩, ha⟩
    exact hd.launched.1.trans ((Endpoint.enter_launched _).trans (h.launched.mpr hi))
  · obtain ⟨hd, hi', ha, -⟩ := dispatch_early h hb
    have hi : s.phase ≠ .idle := by rcases hb with hb | hb <;> rw [hb] <;> exact Phase.noConfusion
    exact h.deeds hi hd hi' ha
  · rwa [dispatch_idle hi]

theorem caller_sound {s : System} (h : s.Sound) (n : Nat)
    (hp : s.provides (s.need (.caller n)) = true) : (s.caller n).Sound := by
  obtain ⟨ht, ⟨hph, hd⟩ | ⟨hf, t, htp, he⟩⟩ := caller_turns n hp
  · refine ⟨ht.sound h.endpoint, ?_, ?_⟩
    · rw [hph, hd]; exact h.launched
    · rw [hph, hd]; exact h.admits
  · rw [he] at ht ⊢
    rw [launch_endpoint] at ht
    exact launch_sound h hf htp ht

/-- A call that is no question to an object is done by the driver. -/
theorem callInside_eq {s : System} {c : Call} (hc : ∀ i q, c ≠ .ask i q) :
    s.callInside c = ((s.endpoint.conduct (c.errand s.surface s.driver s.find)).1,
      { s with endpoint := (s.endpoint.conduct (c.errand s.surface s.driver s.find)).2 }) := by
  cases c with
  | ask i q => exact absurd rfl (hc i q)
  | _ => rfl

/-- A caller that has no question to an object is left with his errand. -/
theorem addCaller_eq {s : System} {c : Call} (hc : ∀ i q, c ≠ .ask i q) :
    s.addCaller c = ({ s with callers := s.callers ++
      [⟨c, c.errand s.surface s.driver s.find⟩] } : System).assign s.callers.length
        (c.errand s.surface s.driver s.find) := by
  cases c with
  | ask i q => exact absurd rfl (hc i q)
  | _ => rfl

/-- A new caller leaves the driver and its dispatch thread alone. -/
theorem addCaller_deeds (s : System) (c : Call) :
    Endpoint.Deeds s.endpoint (s.addCaller c).endpoint ∧ (s.addCaller c).phase = s.phase ∧
      (s.addCaller c).driver = s.driver := by
  have hgo : ∀ (t : System) (n : Nat) (errand : Errand), t.endpoint = s.endpoint →
      t.phase = s.phase → Endpoint.Deeds s.endpoint (t.assign n errand).endpoint ∧
        (t.assign n errand).phase = s.phase ∧ (t.assign n errand).driver = s.driver := by
    intro t n errand he hp
    obtain ⟨hd, hph⟩ := t.assign_deeds n errand
    exact ⟨he ▸ hd, hph.trans hp, (assign_driver t n errand).trans (congrArg Endpoint.driver he)⟩
  unfold addCaller
  dsimp only
  split
  · exact hgo _ _ _ (s.ask_eq _ _).1 (s.ask_eq _ _).2.1
  · exact hgo _ _ _ rfl rfl

/-- Moves of the outside. -/
theorem outside_deeds (s : System) {m : Move} (hm : ∀ t, m ≠ .go t) :
    Endpoint.Deeds s.endpoint (s.step m).endpoint ∧ (s.step m).driver = s.driver ∧
      ((s.step m).phase = s.phase ∨ ∃ frame frame', s.phase = .calling frame ∧
        (s.step m).phase = .calling frame') := by
  cases m with
  | go t => exact absurd rfl (hm t)
  | call c =>
    obtain ⟨hd, hp, hdr⟩ := s.addCaller_deeds c
    exact ⟨hd, hdr, Or.inl hp⟩
  | arrive a => exact ⟨.refl, rfl, Or.inl rfl⟩
  | openGate => exact ⟨.refl, rfl, Or.inl rfl⟩
  | wake =>
    unfold step wake
    dsimp only
    split
    · rename_i frame hp
      exact ⟨.refl, rfl, Or.inr ⟨frame, _, hp, rfl⟩⟩
    · exact ⟨.refl, rfl, Or.inl rfl⟩
  | elapse nanos =>
    have hd : Endpoint.Deed s.endpoint (s.step (.elapse nanos)).endpoint :=
      .surround (w := (s.step (.elapse nanos)).endpoint.surroundings) (.refl _)
    exact ⟨hd.one, rfl, Or.inl rfl⟩

theorem step_sound {s : System} (h : s.Sound) (m : Move) : (s.step m).Sound := by
  rcases s.step_cases m with ⟨-, -, -, he⟩ | ⟨-, he⟩ | ⟨n, -, hp, he⟩ | hm
  · rwa [he]
  · rw [he]; exact dispatch_sound h
  · rw [he]; exact caller_sound h n hp
  · obtain ⟨hd, hdr, hp⟩ := s.outside_deeds hm
    have hl := h.launched
    have ha := h.admits
    refine ⟨hd.turns.sound h.endpoint, ?_, ?_⟩
    · rw [hdr]
      rcases hp with hp | ⟨frame, frame', hp, hp'⟩
      · rw [hp]; exact hl
      · rw [hp] at hl
        rw [hp']
        exact hl.trans ⟨fun _ => Phase.noConfusion, fun _ => Phase.noConfusion⟩
    · rw [hdr]
      rcases hp with hp | ⟨frame, frame', hp, hp'⟩
      · rw [hp]; exact ha
      · rw [hp']; rw [hp] at ha; exact ha

/-- A move is a row of turns, unless with it the driver joins the cluster. -/
theorem step_turns {s : System} (h : s.Sound) {m : Move} (hj : s.joins m = false) :
    Endpoint.Turns s.endpoint (s.step m).endpoint := by
  rcases s.step_cases m with ⟨-, -, -, he⟩ | ⟨rfl, he⟩ | ⟨n, -, hp, he⟩ | hm
  · rw [he]
  · rw [he]
    rcases s.phase.stages with hl | hp | hb | hi
    · exact (dispatch_onward h.admits hl).deeds.turns
    · exact absurd (joins_iff.mpr ⟨rfl, hp⟩) (by simp [hj])
    · exact (dispatch_early h hb).1.turns
    · rw [dispatch_idle hi]
  · rw [he]; exact (caller_turns n hp).1
  · exact (s.outside_deeds hm).1.turns

/-- With the move of the join, the driver enters the cluster, and some deeds may follow. -/
theorem step_joins {s : System} (h : s.Sound) {m : Move} (hj : s.joins m = true) :
    Endpoint.Deeds s.endpoint.enter.2 (s.step m).endpoint ∧ (s.step m).phase.isLate = true := by
  obtain ⟨rfl, hp⟩ := joins_iff.mp hj
  have hs : s.step (.go .dispatch) = s.dispatch := by
    simp [step, need, dispatchNeed, hp, provides, isLocked, advance]
  rw [hs]
  obtain ⟨hd, hl, -⟩ := dispatch_entering_onward h hp
  exact ⟨hd, hl⟩

/-- A thread past the join stays there. -/
theorem step_isLate {s : System} (h : s.Sound) (hl : s.phase.isLate = true) (m : Move) :
    (s.step m).phase.isLate = true := by
  rcases s.step_cases m with ⟨-, -, -, he⟩ | ⟨-, he⟩ | ⟨n, -, hp, he⟩ | hm
  · rwa [he]
  · rw [he]; exact (dispatch_onward h.admits hl).late
  · rw [he]
    obtain ⟨-, ⟨hph, -⟩ | ⟨-, t, htp, ht⟩⟩ := caller_turns n hp
    · rwa [hph]
    · rcases t.launch_phase with hp | ⟨hi, -⟩
      · rwa [ht, hp, htp]
      · exact absurd (htp.symm.trans hi) (Phase.ne_idle_of_isLate hl)
  · obtain ⟨-, -, hp | ⟨frame, frame', hp, hp'⟩⟩ := s.outside_deeds hm
    · rwa [hp]
    · rw [hp']; rfl

theorem step_history {s : System} (h : s.Sound) (m : Move) :
    s.endpoint.history <:+ (s.step m).endpoint.history := by
  by_cases hj : s.joins m = true
  · exact (Endpoint.enter_history _).trans (step_joins h hj).1.turns.history
  · exact (step_turns h (by simpa using hj)).history

/-! ### Runs -/

theorem run_concat (s : System) (moves : List Move) (m : Move) :
    s.run (moves ++ [m]) = (s.run moves).step m := by
  rw [run, List.foldl_append]
  rfl

/-- What every move of a sound system keeps holds throughout every run. -/
theorem run_invariant {P : System → Prop} (hstep : ∀ s m, Sound s → P s → P (s.step m))
    {s : System} (h : s.Sound) (hP : P s) (moves : List Move) : P (s.run moves) := by
  induction moves generalizing s with
  | nil => exact hP
  | cons m moves ih => exact ih (step_sound h m) (hstep s m h hP)

/-- What every move keeps on a condition holds throughout every run that meets it. -/
theorem run_invariant_while {P Q : System → Prop}
    (hstep : ∀ s m, Sound s → Q s → P s → P (s.step m)) {s : System} (h : s.Sound) (hP : P s)
    (moves : List Move) (hQ : ∀ before, before <+: moves → Q (s.run before)) :
    P (s.run moves) := by
  induction moves generalizing s with
  | nil => exact hP
  | cons m moves ih =>
    refine ih (step_sound h m) (hstep s m h (hQ [] List.nil_prefix) hP) fun before hb => ?_
    exact hQ (m :: before) (List.cons_prefix_cons.mpr ⟨rfl, hb⟩)

theorem run_sound {s : System} (h : s.Sound) (moves : List Move) : (s.run moves).Sound :=
  run_invariant (P := Sound) (fun _ m _ ht => step_sound ht m) h h moves

/-- A thread past the join stays there, and the driver makes turns. -/
theorem run_turns {s : System} (h : s.Sound) (hl : s.phase.isLate = true) (moves : List Move) :
    Endpoint.Turns s.endpoint (s.run moves).endpoint ∧ (s.run moves).phase.isLate = true := by
  induction moves generalizing s with
  | nil => exact ⟨.refl, hl⟩
  | cons m moves ih =>
    obtain ⟨ht, hl'⟩ := ih (step_sound h m) (step_isLate h hl m)
    exact ⟨(step_turns h (not_joins_of_late hl m)).trans ht, hl'⟩

/-- What turns keep, and the join does, holds of the driver throughout every run. -/
theorem run_keeps {P : Endpoint → Prop} (hturn : ∀ e e', Endpoint.Turn e e' → P e → P e')
    (henter : ∀ e, e.driver.state ≠ .created ∧ e.driver.state ≠ .running → P e → P e.enter.2)
    {s : System} (h : s.Sound) (hP : P s.endpoint) (moves : List Move) :
    P (s.run moves).endpoint := by
  refine run_invariant (P := fun s => P s.endpoint) (fun s m h hP => ?_) h hP moves
  by_cases hj : s.joins m = true
  · obtain ⟨hd, -⟩ := step_joins h hj
    obtain ⟨-, hp⟩ := joins_iff.mp hj
    have ha := h.admits
    rw [hp] at ha
    exact hd.turns.keep hturn (henter _ ha hP)
  · exact (step_turns h (by simpa using hj)).keep hturn hP

end System

/-! ### Beginnings -/

/-- A driver that was just made. -/
structure Driver.IsNew (d : Driver) : Prop where
  state : d.state = .created
  launched : d.launched = false
  attached : d.attached = false
  connected : d.connected = false
  backlog : d.backlog = []
  pendingError : d.pendingError = none
  done : d.done = false
  inflight : d.inflight = []
  finalStatus : d.finalStatus = none

theorem Application.assemble_new (a : Application) (table : Table) (settings : Settings)
    (remote : Address) (framework frameworkId executorId : Bytes) :
    (a.assemble table settings remote framework frameworkId executorId).IsNew :=
  ⟨rfl, rfl, rfl, rfl, rfl, rfl, rfl, rfl, rfl⟩

theorem Application.driver_new {a : Application} {d : Driver} {remote : Argument}
    (h : a.driver = .ok (d, remote)) : d.IsNew := by
  unfold driver at h
  simp only [bind, Except.bind] at h
  repeat' split at h
  all_goals cases h
  all_goals exact a.assemble_new ..

/-- An identity stays one of its role when it is completed. -/
theorem Identity.complete_role {env : Environment} {i i' : Identity}
    (h : i.complete env = .ok i') : i'.role = i.role := by
  cases i with
  | scheduler f m =>
    obtain rfl := Except.ok.inj h
    rfl
  | executor a f e =>
    simp only [complete, bind, Except.bind] at h
    repeat' split at h
    all_goals cases h
    all_goals rfl

/-- A scheduler's driver is made without an identifier. -/
theorem Application.frameworkId_of_driver {a : Application} {d : Driver} {remote : Argument}
    (h : a.driver = .ok (d, remote)) (hr : d.role = .scheduler) : d.frameworkId = [] := by
  have hnone : ∀ (x : Except Failure Bytes) {ids : Bytes × Bytes × Bytes},
      x.map (fun data => (data, [], [])) = .ok ids → ids.2.1 = [] := by
    rintro (f | data) ids hids
    · cases hids
    · obtain rfl := Except.ok.inj hids
      rfl
  unfold driver at h
  simp only [bind, Except.bind] at h
  repeat' split at h
  all_goals cases h
  · exact hnone _ ‹_›
  · have hrole := Identity.complete_role ‹Identity.complete _ _ = _›
    exact absurd (hrole.trans hr) Role.noConfusion
namespace System

/-- A system to begin with: its driver was just made, nobody called it yet, and nothing
happened. -/
structure Begins (s : System) : Prop where
  made : ∃ (a : Application) (remote : Argument), a.driver = .ok (s.driver, remote)
  phase : s.phase = .idle
  callers : s.callers = []
  history : s.endpoint.history = []

theorem Begins.sound {s : System} (h : s.Begins) : s.Sound := by
  obtain ⟨a, remote, ha⟩ := h.made
  have hd := Application.driver_new ha
  refine ⟨⟨fun _ => Or.inl hd.state, fun hl => ?_⟩, ⟨fun hl => ?_, fun hp => absurd h.phase hp⟩, ?_⟩
  · exact absurd (hd.launched.symm.trans hl) Bool.noConfusion
  · exact absurd (hd.launched.symm.trans hl) Bool.noConfusion
  · rw [h.phase]; exact Or.inl hd.state

/-- The application of a scheduler with the given callbacks. -/
def sampleApplication (bound : List Slot) : Application where
  table := .table ⟨.scheduler, bound⟩
  payload := .null
  identity := .scheduler (.octets [102]) (.text "m@h:1")
  settings := some default
  environment := []
  hostName := "h"
  handle := "k"

/-- A scheduler's system to begin with, over a transport whose sends go as laid down. -/
def sample (bound : List Slot) (scripts : List (Slot × List Action))
    (sending : List (Option Failure)) : System :=
  fresh
    { driver :=
        (sampleApplication bound).assemble ⟨.scheduler, bound⟩ default ⟨['h'], 1⟩ [102] [] []
      surroundings :=
        { transport := .scripted ⟨.ok "a", none, sending, none⟩
          making := []
          clock := 0
          lags := []
          ids := Bytes.bigEndian 16
          drawn := 0 }
      history := [] }
    .direct scripts true

theorem sample_begins (bound : List Slot) (scripts : List (Slot × List Action))
    (sending : List (Option Failure)) : (sample bound scripts sending).Begins :=
  ⟨⟨sampleApplication bound, .text "m@h:1", rfl⟩, rfl, rfl, rfl⟩

end System

end ClusterLink
