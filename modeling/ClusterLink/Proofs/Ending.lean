/-
# How drivers end

Why the driver of a system ended as it did, over whole runs
(`System.Ending`). A driver that ends stopped was never told of a failure. One
that ends aborted, though nobody aborted it and no callback but the error
callback failed, failed itself, and its error callback was told so exactly
once. Whenever the error callback begins, the driver is aborted already, its
envelope says what the trouble was, and no callback failed before.

What carries this through a run is `System.Explained`. The failure that is
pending is that of the first send that failed (`Endpoint.Pending`), also if
it was a caller who sent; so the dispatch thread reports that one, whenever
it comes to it.

Key definitions: `Endpoint.Pending`, `System.Explained`, `System.Ending`.
Key theorems: `System.Explained.step`, `System.run_ending`.
-/
import ClusterLink.Proofs.Alarm
import ClusterLink.Proofs.Discipline

namespace ClusterLink

open History

namespace Endpoint

/-- The failure that is pending is that of the first send that failed. -/
def Pending (e : Endpoint) : Prop := e.driver.pendingError = (failures e.history).head?

theorem Pending.append {e e' : Endpoint} (h : e.Pending) (new : List Event)
    (hh : e'.history = new ++ e.history) (hp : e'.driver.pendingError = e.driver.pendingError)
    (hn : ∀ v ∈ new, v.failure? = none) : e'.Pending := by
  have hf : new.filterMap Event.failure? = [] := List.filterMap_eq_nil_iff.mpr hn
  unfold Pending
  rw [hp, hh, h, failures_append, failures, failures, hf, List.reverse_nil, List.append_nil]

theorem Pending.record {e : Endpoint} (h : e.Pending) {v : Event} (hv : v.failure? = none) :
    (e.record v).Pending :=
  h.append [v] rfl rfl (by simpa using hv)

theorem Pending.push {e : Endpoint} (h : e.Pending) (m : Message) : (e.push m).Pending := by
  unfold Endpoint.push
  split
  · exact h
  split
  · exact h.record rfl
  · rename_i hp
    have hnone : e.driver.pendingError = none := by simpa using hp
    have hcalled : ∀ cs : List LibraryCall, ∀ v ∈ cs.map Event.called ++ [.noted (.sending m)],
        v.failure? = none := by
      intro cs v hv
      rcases List.mem_append.mp hv with hv | hv
      · exact Event.isAside.failure? (isAside_of_mem_called hv)
      · rw [List.mem_singleton.mp hv]; rfl
    obtain ⟨cs, ⟨b, d, hh, hpe⟩ | ⟨f, b, d, hh, hpe⟩⟩ := transmit_history (e.note (.sending m)) m
    · refine h.append (.sent m b d :: (cs.map .called ++ [.noted (.sending m)])) ?_ hpe
        fun v hv => ?_
      · rw [hh]; simp [Endpoint.note, Endpoint.record]
      · rcases List.mem_cons.mp hv with rfl | hv
        · rfl
        · exact hcalled cs v hv
    · have hnil : failures e.history = [] := List.head?_eq_none_iff.mp (h.symm.trans hnone)
      have hf : (cs.map Event.called ++ [Event.noted (.sending m)]).filterMap Event.failure? = [] :=
        List.filterMap_eq_nil_iff.mpr (hcalled cs)
      have hfirst : ((e.note (.sending m)).transmit m).history =
          .noted (.sendFailed m) :: .notSent m f b d ::
            (cs.map .called ++ [.noted (.sending m)]) ++ e.history := by
        rw [hh]; simp [Endpoint.note, Endpoint.record]
      unfold Pending
      rw [hpe, hfirst, failures_append, hnil]
      simp only [failures, List.filterMap_cons, Event.failure?, hf]
      rfl

theorem Pending.pushAll {e : Endpoint} (h : e.Pending) (ms : List Message) :
    (e.pushAll ms).Pending := by
  induction ms generalizing e with
  | nil => exact h
  | cons m ms ih => exact ih (h.push m)

theorem Turn.pending {e e' : Endpoint} (ht : Turn e e') (h : e.Pending) : e'.Pending := by
  cases ht with
  | deed hd =>
    cases hd with
    | aside hv => exact h.record (Event.isAside.failure? hv)
    | submit why m =>
      have h1 : (e.record (.accepted why m)).Pending := h.record rfl
      exact h1.push m
    | halt => exact h.append [_] rfl rfl (by simp [Event.failure?])
    | begin => exact h.record rfl
    | report => exact h.append [_, _, _] rfl rfl (by simp [Event.failure?])
    | act => exact h.record rfl
    | fall => exact h.record rfl
    | misuse => exact h.append [_, _] rfl rfl (by simp [Event.failure?])
    | _ => exact h
  | launch => exact h.append [_] rfl rfl (by simp [Event.failure?])
  | release => exact h.append [_] rfl rfl (by simp [Event.failure?])

theorem Pending.flush {e : Endpoint} (h : e.Pending) (replyTo : String) :
    (e.flush replyTo).Pending := by
  have hc : ({ e with driver.connected := true } : Endpoint).Pending := h
  have hq : ({ ({ e with driver.connected := true } : Endpoint).push
      (e.driver.registration replyTo) with driver.backlog := [] } : Endpoint).Pending :=
    hc.push (e.driver.registration replyTo)
  exact hq.pushAll _

theorem Pending.enter {e : Endpoint} (h : e.Pending) : e.enter.2.Pending := by
  rcases e.enter_cases with ⟨-, he⟩ | ⟨-, f, -, he⟩ | ⟨-, replyTo, -, he⟩
  · rw [he]; exact h.record rfl
  · rw [he]; exact h
  · rw [he]
    exact (h.flush replyTo).append
      [.noted (.connected (e.flush replyTo).driver.remote), .became .running] rfl rfl
      (by simp [Event.failure?])

end Endpoint

namespace System

open Endpoint (Blames)

variable {s s' : System}

/-- The phase that the dispatch thread goes to is backed. -/
theorem Next.backed (hn : s.Next s') (h : s'.Sound) (hb : Blames s.endpoint s'.endpoint)
    (hpend : s.endpoint.Pending) (hp : s.phase.backed s.endpoint) :
    s'.phase.backed s'.endpoint := by
  have hshut : s'.phase ≠ .idle → s'.driver.state.isActive = false →
      s'.driver.state.isShut = true := isShut_of_inactive h
  cases hn with
  | stay hp' => rw [hp']; exact hp.blames hb
  | lead hl => exact hl.backed _
  | quit hc hp' hs =>
    have hi : s'.phase ≠ .idle := by rw [hp']; exact Phase.noConfusion
    rw [hp']
    exact Or.inl (hshut hi hs)
  | @fault f hd hp' hf =>
    rw [hp']
    exact failures_mono hb.history (hpend.symm.trans hf)
  | begin hc ha hp' hs hbegun =>
    have hi : s'.phase ≠ .idle := by rw [hp']; exact Phase.noConfusion
    rw [hp']
    exact ⟨hbegun, fun halarm => hshut hi (hs halarm)⟩
  | @act frame frame' hc hp' ha hslot =>
    rw [hc] at hp
    have hp := hp.blames hb
    rw [hp']
    refine ⟨by rw [hslot]; exact hp.1, fun halarm => hp.2 ?_⟩
    rwa [← ha]
  | @resume after ha hp' hs =>
    rw [hp']
    cases after with
    | message m rest => exact Phase.phaseFor_backed rest _
    | pending | escaped =>
      have hi : s'.phase ≠ .idle := by rw [hp']; exact Phase.noConfusion
      by_cases hc : ∃ g, s.phase = .calling g
      · obtain ⟨g, hc⟩ := hc
        rw [hc] at hp ha
        refine Or.inl (hb.shut (hp.2 ?_))
        rw [Option.some.inj ha]
        rfl
      · exact Or.inl (hshut hi (hs (fun g hg => hc ⟨g, hg⟩) rfl))
  | @escape f hx hp' hf =>
    rw [hp']
    split
    · rename_i hm
      exact Or.inr ⟨f, hm, Or.inl hf⟩
    · rename_i hm
      exact ⟨hf, by simpa using hm⟩
  | @misuse frame f hc hp' hm hf =>
    rw [hp']
    exact Or.inr ⟨f, hm, Or.inr ⟨_, hf⟩⟩

/-! ### Runs -/

/-- What is known of why the driver of a system was aborted. -/
structure Explained (s : System) : Prop where
  pending : s.endpoint.Pending
  phase : s.phase.backed s.endpoint
  broken : ∀ slot f, .broke slot f ∈ s.endpoint.history → s.driver.state.isShut = true
  reason : s.driver.state = .aborted → Blame (s.driver.table.binds .error) s.endpoint.history
  alarms : ∀ l data args t, .began .error l data args :: t <:+ s.endpoint.history →
    Alarm s.driver.payload l data args t
  /-- The final status is put down as the state is then. -/
  aborted : s.driver.finalStatus = some .aborted →
    Blame (s.driver.table.binds .error) s.endpoint.history
  stopped : s.driver.finalStatus = some .stopped → .error ∉ begun s.endpoint.history
  settled : s.driver.finalStatus.isSome = true → s.driver.state.isShut = true

theorem step_pending (h : s.Sound) (hp : s.endpoint.Pending) (m : Move) :
    (s.step m).endpoint.Pending :=
  run_keeps (P := Endpoint.Pending) (fun _ _ ht he => ht.pending he) (fun _ _ he => he.enter) h hp
    [m]

theorem step_backed (h : s.Sound) (hx : s.Explained) (m : Move) :
    (s.step m).phase.backed (s.step m).endpoint := by
  have hb := step_blames h hx.phase hx.broken m
  by_cases hm : m = .go .dispatch
  · subst hm
    have hs := step_sound h (.go .dispatch)
    rcases s.step_dispatch with he | he
    · rw [he]; exact hx.phase
    · rw [he] at hb hs ⊢
      exact s.dispatch_next.backed hs hb hx.pending hx.phase
  · have hp := hx.phase.blames hb
    rcases s.others_phase hm with he | ⟨-, he⟩ | ⟨frame, hc, he⟩
    · rwa [he]
    · rw [he]; trivial
    · rw [hc] at hp
      rw [he]
      exact hp

/-- The final status is put down as the driver's state is then. -/
theorem step_verdict (hc : s.Concluded) (m : Move) :
    (s.step m).driver.finalStatus = s.driver.finalStatus ∨
      (s.step m).phase ≠ .idle ∧ (s.step m).driver.state.isActive = false ∧
        (s.step m).driver.finalStatus = some (s.step m).driver.state.status := by
  by_cases hm : m = .go .dispatch
  · subst hm
    rcases step_concludes hc (.go .dispatch) with hs | ⟨-, cause, hp, hs⟩
    · exact Or.inl hs
    · have hst : (s.step (.go .dispatch)).driver.state = s.endpoint.breakOff.driver.state ∧
          (s.step (.go .dispatch)).phase = .signalling cause := by
        simp only [step, need, dispatchNeed, hp, provides, isLocked, advance, dispatch, driver,
          Bool.not_false, if_true, Endpoint.leave, Endpoint.closeTransport_driver, and_self]
      refine Or.inr ⟨by rw [hst.2]; exact Phase.noConfusion, ?_, by rw [hs, hst.1]⟩
      rw [hst.1]
      exact Endpoint.breakOff_inactive _
  · exact Or.inl (others_final hm)

/-- A driver that was told of its failure is aborted. -/
theorem aborted_of_alarm (hr : s.endpoint.Recorded []) (ha : .error ∈ begun s.endpoint.history) :
    s.driver.state = .aborted ∨ s.driver.state = .destroyed := by
  obtain ⟨l, data, args, t, ht⟩ := mem_begun.mp ha
  have H : Chronicle s.endpoint.history := hr.grows
  obtain ⟨-, message, u, rfl, -⟩ := always_iff.mp H.errors _ t ht l data args rfl
  have hst := H.aborted_stays _ _ ((List.suffix_cons _ _).trans ht) (List.suffix_refl _)
    (Or.inl rfl)
  rwa [hr.state] at hst

theorem status_eq_aborted {st : Lifecycle} : st.status = .aborted ↔ st = .aborted := by
  cases st <;> decide

theorem status_eq_stopped {st : Lifecycle} : st.status = .stopped ↔ st = .stopped := by
  cases st <;> decide

namespace Explained

/-- A driver that is aborted has a reason. -/
theorem step_reason (h : s.Sound) (hx : s.Explained) (m : Move)
    (hs : (s.step m).driver.state = .aborted) :
    Blame ((s.step m).driver.table.binds .error) (s.step m).endpoint.history := by
  have hb := step_blames h hx.phase hx.broken m
  rcases hb.reason hs with hs | hr
  · rw [show (s.step m).driver.table = s.driver.table from hb.table]
    exact (hx.reason hs).mono hb.history
  · exact hr

/-- A driver that ended aborted had a reason. -/
theorem step_aborted (h : s.Sound) (hc : s.Concluded) (hx : s.Explained) (m : Move)
    (hf : (s.step m).driver.finalStatus = some .aborted) :
    Blame ((s.step m).driver.table.binds .error) (s.step m).endpoint.history := by
  have hb := step_blames h hx.phase hx.broken m
  rcases step_verdict hc m with hs | ⟨-, -, hs⟩
  · rw [show (s.step m).driver.table = s.driver.table from hb.table]
    exact (hx.aborted (hs.symm.trans hf)).mono hb.history
  · have hst := status_eq_aborted.mp (Option.some.inj (hs.symm.trans hf))
    exact hx.step_reason h m hst

/-- A driver that ended stopped is not told of a failure later either. -/
theorem step_stopped (h : s.Sound) (hc : s.Concluded) (hr : s.endpoint.Recorded [])
    (hx : s.Explained) (m : Move) (hf : (s.step m).driver.finalStatus = some .stopped) :
    .error ∉ begun (s.step m).endpoint.history := by
  intro he
  rcases step_verdict hc m with hs | ⟨-, -, hs⟩
  · have hf := hs.symm.trans hf
    have hshut : (History.state s.endpoint.history).isShut = true := by
      rw [hr.state]
      exact hx.settled (by rw [hf]; rfl)
    have hgrow : History.Grows s.endpoint.history (s.step m).endpoint.history :=
      (run_recorded h ⟨.rest, hr.state⟩ [m]).grows
    rw [(hgrow.silent hshut).2.2] at he
    exact hx.stopped hf he
  · have hst := status_eq_stopped.mp (Option.some.inj (hs.symm.trans hf))
    rcases aborted_of_alarm (run_recorded h hr [m]) he with ha | ha
    · exact Lifecycle.noConfusion (hst.symm.trans ha)
    · exact Lifecycle.noConfusion (hst.symm.trans ha)

theorem step (h : s.Sound) (hc : s.Concluded) (hr : s.endpoint.Recorded []) (hx : s.Explained)
    (m : Move) : (s.step m).Explained := by
  have hb := step_blames h hx.phase hx.broken m
  refine ⟨step_pending h hx.pending m, step_backed h hx m, fun slot f hm => ?_,
    hx.step_reason h m, fun l data args t ht => ?_, hx.step_aborted h hc m,
    hx.step_stopped h hc hr m, fun hf => ?_⟩
  · rcases hb.broke slot f hm with hm | hs
    · exact hb.shut (hx.broken slot f hm)
    · exact hs
  · rcases hb.alarms l data args t ht with ht | ha
    · rw [show (s.step m).driver.payload = s.driver.payload from hb.payload]
      exact hx.alarms l data args t ht
    · exact ha
  · rcases step_verdict hc m with hs | ⟨hi, ha, -⟩
    · rw [hs] at hf
      exact hb.shut (hx.settled hf)
    · exact isShut_of_inactive (step_sound h m) hi ha

end Explained

theorem Begins.explained (h : s.Begins) : s.Explained := by
  obtain ⟨a, remote, ha⟩ := h.made
  have hd := Application.driver_new ha
  have hh : s.endpoint.history = [] := h.history
  refine ⟨?_, by rw [h.phase]; trivial, ?_, fun hs => ?_, ?_, fun hf => ?_, fun hf => ?_,
    fun hf => ?_⟩
  · unfold Endpoint.Pending
    rw [hh]
    exact hd.pendingError
  · rw [hh]; exact fun _ _ hm => absurd hm List.not_mem_nil
  · rw [hd.state] at hs; cases hs
  · rw [hh]
    exact fun _ _ _ _ ht => absurd (List.suffix_nil.mp ht) (List.cons_ne_nil _ _)
  · rw [hd.finalStatus] at hf; cases hf
  · rw [hd.finalStatus] at hf; cases hf
  · rw [hd.finalStatus] at hf; cases hf

theorem run_explained (h : s.Begins) (moves : List Move) : (s.run moves).Explained := by
  have hall : (s.run moves).Concluded ∧ (s.run moves).endpoint.Recorded [] ∧
      (s.run moves).Explained :=
    run_invariant (P := fun s => s.Concluded ∧ s.endpoint.Recorded [] ∧ s.Explained)
      (fun _ m ht ⟨hc, hr, hx⟩ =>
        ⟨step_concluded hc m, run_recorded ht hr [m], hx.step ht hc hr m⟩)
      h.sound ⟨h.concluded, h.recorded, h.explained⟩ moves
  exact hall.2.2

/-- Why the driver of a system ended as it did. -/
structure Ending (s : System) : Prop where
  /-- A driver that ends stopped was never told of a failure. -/
  stopped : s.driver.finalStatus = some .stopped → .error ∉ begun s.endpoint.history
  /-- A driver that ends aborted, though nobody aborted it, failed itself, unless it was misused or
  one of its other callbacks failed. Its error callback, if it has one, was told so once, provided
  that every error which the remote side told has UTF-8 bytes. -/
  aborted : s.driver.finalStatus = some .aborted →
    (∀ slot f, .broke slot f ∈ s.endpoint.history → slot = .error ∧ f.isMisuse = false) →
    (∀ f, .escaped f ∈ s.endpoint.history → f.isMisuse = false) →
    (∀ text, .taken (.error text) ∈ s.endpoint.history → text.utf8? ≠ none) →
    ¬ Called s.endpoint.history → s.driver.table.binds .error = true →
    (begun s.endpoint.history).count .error = 1
  /-- The error callback is told of trouble, and finds the driver aborted. No callback failed
  before. -/
  alarms : Always (fun v t => ∀ l data args, v = .began .error l data args →
    l = .aborted ∧ data = s.driver.payload ∧
      (∃ text, args = [.envelope (Bytes.ofText text)] ∧ Trouble t text) ∧
      ∀ slot f, .broke slot f ∉ t) s.endpoint.history

theorem run_ending (h : s.Begins) (moves : List Move) : (s.run moves).Ending := by
  have hx := run_explained h moves
  have H : Chronicle (s.run moves).endpoint.history := (run_chronicle h moves).grows
  refine ⟨hx.stopped, fun hf hbroke hescaped htold hcalled hbound => ?_, always_iff.mpr ?_⟩
  · have hmem : .error ∈ begun (s.run moves).endpoint.history := by
      cases hx.aborted hf with
      | call hc => exact absurd hc hcalled
      | callback hb hor =>
        obtain ⟨rfl, hm⟩ := hbroke _ _ hb
        exact absurd hm (by simpa using hor)
      | misuse he hm => exact absurd ((hescaped _ he).symm.trans hm) Bool.noConfusion
      | alarm ha => exact ha hbound
      | untold hm hn => exact absurd hn (htold _ hm)
    exact H.count_error hmem
  · rintro v t ht l data args rfl
    obtain ⟨hl, hd, htrouble, hb⟩ := hx.alarms l data args t ht
    exact ⟨hl, hd, htrouble, hb⟩

/-- A scheduler starts, and its registration cannot be sent. -/
def strandedMoves : List Move :=
  [.call .start, .go (.caller 0)] ++ List.replicate 9 (.go .dispatch)

/-- A scheduler whose transport fails at once. -/
def stranded : System := sample [.error] [] [some (.raised "OSError" (some "gone"))]

theorem stranded_ending : stranded.Begins ∧
    (stranded.run strandedMoves).phase = .ended ∧
    (stranded.run strandedMoves).driver.finalStatus = some .aborted ∧
    begun (stranded.run strandedMoves).endpoint.history = [.error] ∧
    (stranded.run strandedMoves).Ending :=
  ⟨sample_begins _ _ _, rfl, rfl, rfl, run_ending (sample_begins _ _ _) strandedMoves⟩

end System

end ClusterLink
