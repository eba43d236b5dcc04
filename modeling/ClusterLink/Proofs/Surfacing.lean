/-
# How misuse surfaces

Misuse that a callback raises, or the transport as it connects, tells its
address or receives, is not reported like other failures. The move that
raises it begins the way out of the dispatch thread, which takes two more of
its moves (`System.Leaving`): the driver leaves the cluster, and then the
thread ends with the failure. Nobody keeps it from that, and nobody else is
told (`System.Surfaced`).

Misuse that a send raises is not told apart from other failures. It may be
raised on the thread of a caller, and is kept as pending
(`Endpoint.Kept`), while the call is answered as if nothing was wrong. One
that closing the transport raises is only noted. So the dispatch thread ends
with a failure if and only if one of the others raised it, and it is misuse.

Key definitions: `System.Leaving`, `System.Surfaced`, `Endpoint.Kept`,
`System.Surfacing`.
Key theorems: `System.Surfaced.run`, `System.run_cause`,
`System.run_surfacing`.
-/
import ClusterLink.Proofs.Raising
import Mathlib.Data.List.Induction

namespace ClusterLink

open History

/-- Whether the dispatch thread ended with a failure. -/
def Event.isRaise : Event → Bool
  | threadRaised _ => true
  | _ => false

/-- Whether it is the dispatch thread's move. -/
def Move.isDispatch : Move → Bool
  | .go .dispatch => true
  | _ => false

theorem Move.isDispatch_iff {m : Move} : m.isDispatch = true ↔ m = .go .dispatch := by
  unfold isDispatch
  split
  · exact ⟨fun _ => rfl, fun _ => rfl⟩
  · rename_i h
    exact ⟨fun h => (by cases h), fun hm => absurd hm h⟩

theorem Phase.Contacts.isCallback {p : Phase} {v : Event} (h : p.Contacts v) :
    v.isCallback = false := by
  cases h <;> rfl

namespace System

variable {s t : System} {f : Failure} {n : Nat}

/-! ### The way out -/

/-- How far the dispatch thread is on its way out with a failure, by the number of its moves on
it. -/
inductive Leaving (f : Failure) (s : System) : Nat → Prop
  | closing (hp : s.phase = .closing (some f)) : Leaving f s 0
  | signalling (hp : s.phase = .signalling (some f)) (hs : s.driver.state.isActive = false)
    (hc : .closed ∈ s.endpoint.history) : Leaving f s 1
  /-- The thread ended with the failure. -/
  | ended {n : Nat} (hp : s.phase = .ended) (hs : s.driver.state.isActive = false)
    (hc : .closed ∈ s.endpoint.history) (hd : s.driver.done = true)
    (hr : .threadRaised f ∈ s.endpoint.history) : Leaving f s (n + 2)

theorem closed_mem_leave (e : Endpoint) : .closed ∈ e.leave.history := by
  unfold Endpoint.leave Endpoint.closeTransport
  dsimp only
  split
  · exact List.mem_cons_self
  · exact List.mem_cons_of_mem _ List.mem_cons_self

/-- Nobody else makes the end of the dispatch loop known. -/
theorem others_ongoing {m : Move} (hm : m ≠ .go .dispatch) :
    s.driver.Ongoing (s.step m).driver := by
  rcases s.step_cases m with ⟨-, -, -, he⟩ | ⟨hd, -⟩ | ⟨n, -, -, he⟩ | ho
  · rw [he]
    exact .refl _
  · exact absurd hd hm
  · rw [he]
    exact (s.caller_ongoing n).1
  · rw [(s.outside_deeds ho).2.1]
    exact .refl _

theorem Leaving.not_calling (h : s.Leaving f n) (frame : Frame) : s.phase ≠ .calling frame := by
  cases h with
  | closing hp | signalling hp | ended hp =>
    rw [hp]
    exact Phase.noConfusion

theorem Leaving.not_idle (h : s.Leaving f n) : s.phase ≠ .idle := by
  cases h with
  | closing hp | signalling hp | ended hp =>
    rw [hp]
    exact Phase.noConfusion

/-- Each move of the dispatch thread takes it further. -/
theorem Leaving.dispatch (h : s.Leaving f n) :
    (s.step (.go .dispatch)).Leaving f (n + 1) ∧ (s.step (.go .dispatch)).store = s.store := by
  cases h with
  | closing hp =>
    have hstep : s.step (.go .dispatch) =
        { s with endpoint := s.endpoint.leave, phase := .signalling (some f) } := by
      simp only [step, need, dispatchNeed, hp, provides, isLocked, advance, System.dispatch,
        Bool.not_false, if_true]
    rw [hstep]
    refine ⟨.signalling rfl ?_ (closed_mem_leave _), rfl⟩
    show s.endpoint.leave.driver.state.isActive = false
    rw [Endpoint.leave_state]
    exact Endpoint.breakOff_inactive _
  | signalling hp hi hc =>
    have hstep : s.step (.go .dispatch) =
        { s with endpoint := s.endpoint.signal, phase := .ended }.record (.threadRaised f) := by
      simp only [step, need, dispatchNeed, hp, provides, advance, System.dispatch, if_true]
    rw [hstep]
    refine ⟨.ended (n := 0) rfl hi ?_ rfl List.mem_cons_self, rfl⟩
    exact List.mem_cons_of_mem _ (List.mem_cons_of_mem _ hc)
  | @ended n hp hi hc hd hr =>
    have hstep : s.step (.go .dispatch) = s := by
      simp [step, need, dispatchNeed, hp, provides]
    rw [hstep]
    exact ⟨.ended (n := n + 1) hp hi hc hd hr, rfl⟩

/-- Nobody keeps it from that. -/
theorem Leaving.others (hs : s.Sound) (h : s.Leaving f n) {m : Move} (hm : m ≠ .go .dispatch) :
    (s.step m).Leaving f n := by
  have hphase : (s.step m).phase = s.phase := by
    rcases s.others_phase hm with hp | ⟨hi, -⟩ | ⟨frame, hc, -⟩
    · exact hp
    · exact absurd hi h.not_idle
    · exact absurd hc (h.not_calling frame)
  have hinactive (hi : s.driver.state.isActive = false) :
      (s.step m).driver.state.isActive = false :=
    Lifecycle.not_active_of_isShut (step_isShut hs m (isShut_of_inactive hs h.not_idle hi))
  have hmem {v : Event} (hv : v ∈ s.endpoint.history) : v ∈ (s.step m).endpoint.history :=
    (step_history hs m).mem hv
  cases h with
  | closing hp => exact .closing (hphase.trans hp)
  | signalling hp hi hc => exact .signalling (hphase.trans hp) (hinactive hi) (hmem hc)
  | ended hp hi hc hd hr =>
    exact .ended (hphase.trans hp) (hinactive hi) (hmem hc) ((others_ongoing hm).done.trans hd)
      (hmem hr)

/-- Apart from messages and failures that are reported, nothing makes a callback begin. -/
theorem deliveries_uncalled (h : s.phase.after? = none) (m : Move) :
    (s.deliveries m).filter Event.isCallback = [] := by
  rcases s.deliveries_cases m with hd | ⟨x, rest, -, hp, -⟩ | ⟨g, -, hp, -⟩ | ⟨v, -, hv, hd⟩
  · rw [hd]
    rfl
  · rw [hp] at h
    cases h
  · rcases hp with hp | hp <;> rw [hp] at h <;> cases h
  · rw [hd, List.filter_singleton, hv.isCallback]
    rfl

/-- What has become of misuse that was raised, in a system that was there before, by so many
moves of the dispatch thread. -/
structure Surfaced (f : Failure) (s : System) (n : Nat) (t : System) : Prop where
  leaving : t.Leaving f n
  /-- No callback began, so nobody was told of the failure. -/
  callbacks : History.callbacks t.endpoint.history = History.callbacks s.endpoint.history
  /-- What was lent to the callback that was interrupted is released. -/
  released : ∀ slot ids, s.phase.loan = some (slot, ids) →
    ∀ k ∈ ids, (t.store.envelope k).released = true

theorem Surfaced.step (ht : t.Sound) (h : Surfaced f s n t) (m : Move) :
    Surfaced f s (n + if m.isDispatch then 1 else 0) (t.step m) := by
  have hcallbacks : History.callbacks (t.step m).endpoint.history =
      History.callbacks s.endpoint.history := by
    have hafter : t.phase.after? = none := by
      cases h.leaving with
      | closing hp | signalling hp | ended hp =>
        rw [hp]
        rfl
    rw [step_callbacks ht m, deliveries_uncalled hafter, List.append_nil, h.callbacks]
  by_cases hm : m = .go .dispatch
  · subst hm
    obtain ⟨hleaving, hstore⟩ := h.leaving.dispatch
    refine ⟨hleaving, hcallbacks, ?_⟩
    rw [hstore]
    exact h.released
  · have hdispatch : m.isDispatch = false := by
      simpa using fun h => hm (Move.isDispatch_iff.mp h)
    rw [hdispatch]
    refine ⟨h.leaving.others ht hm, hcallbacks, fun slot ids hl k hk => ?_⟩
    have hr := h.released slot ids hl k hk
    rcases t.others_spare hm k with he | ⟨-, he⟩
    · rw [he]
      exact hr
    · rw [he]
      rfl

/-- Whatever the others do, two more moves of the dispatch thread end it. -/
theorem Surfaced.run (ht : t.Sound) (h : Surfaced f s n t) (moves : List Move) :
    Surfaced f s (n + moves.countP Move.isDispatch) (t.run moves) := by
  induction moves generalizing t n with
  | nil => exact h
  | cons m moves ih =>
    have hnext := ih (step_sound ht m) (h.step ht m)
    rw [List.countP_cons, Nat.add_comm (moves.countP _), ← Nat.add_assoc]
    exact hnext

/-- Misuse that is raised surfaces. -/
theorem raised_surfaced (hs : s.Sound) (hr : s.raised? = some f) (hf : f.isMisuse = true) :
    (s.step (.go .dispatch)).driver.pendingError = s.driver.pendingError ∧
      Surfaced f s 0 (s.step (.go .dispatch)) := by
  obtain ⟨hstep, hbreaks⟩ := dispatch_breaks hs hr hf
  have hcallbacks := step_callbacks hs (.go .dispatch)
  have hnone : (s.deliveries (.go .dispatch)).filter Event.isCallback = [] := by
    cases hp : s.phase with
    | calling frame =>
      rw [deliveries_calling hp]
      rfl
    | begun | linking | entering | receiving => exact deliveries_uncalled (by rw [hp]; rfl) _
    | _ => simp [raised?, hp] at hr
  rw [hnone, List.append_nil] at hcallbacks
  rw [hstep] at hcallbacks ⊢
  exact ⟨hbreaks.pending, .closing hbreaks.phase, hcallbacks, hbreaks.released⟩

end System

/-! ### Sends -/

namespace Endpoint

variable {e e' : Endpoint}

/-- The failures of sends are kept as pending. There is one at most, since nothing is sent after
it. -/
def Kept (e : Endpoint) : Prop := failures e.history = e.driver.pendingError.toList

theorem Kept.append (h : e.Kept) (new : List Event) (hh : e'.history = new ++ e.history)
    (hp : e'.driver.pendingError = e.driver.pendingError) (hn : ∀ v ∈ new, v.failure? = none) :
    e'.Kept := by
  have hf : failures new = [] := by
    rw [failures, List.filterMap_eq_nil_iff.mpr hn, List.reverse_nil]
  unfold Kept
  rw [hp, hh, failures_append, hf, List.append_nil, h]

theorem Kept.record (h : e.Kept) {v : Event} (hv : v.failure? = none) : (e.record v).Kept :=
  h.append [v] rfl rfl (by simpa using hv)

theorem Kept.push (h : e.Kept) (m : Message) : (e.push m).Kept := by
  unfold Endpoint.push
  split
  · exact h
  split
  · exact h.record rfl
  rename_i hp
  have hnone : e.driver.pendingError = none := by simpa using hp
  obtain ⟨cs, ⟨b, d, hh, hpe⟩ | ⟨f, b, d, hh, hpe⟩⟩ := transmit_history (e.note (.sending m)) m
  · have hsending : (e.note (.sending m)).Kept := h.record rfl
    refine hsending.append (.sent m b d :: cs.map .called) hh hpe fun v hv => ?_
    rcases List.mem_cons.mp hv with rfl | hv
    · rfl
    · exact Event.isAside.failure? (isAside_of_mem_called hv)
  · have hcalled : failures (cs.map Event.called) = [] := by
      rw [failures, List.filterMap_eq_nil_iff.mpr fun v hv =>
        Event.isAside.failure? (isAside_of_mem_called hv), List.reverse_nil]
    have hbefore : failures (e.note (.sending m)).history = [] := by
      have hk : failures e.history = e.driver.pendingError.toList := h
      rw [hnone] at hk
      exact hk
    unfold Kept
    rw [hh, hpe]
    show failures ([.noted (.sendFailed m), .notSent m f b d] ++
      (cs.map Event.called ++ (e.note (.sending m)).history)) = _
    rw [failures_append, failures_append, hcalled, hbefore]
    rfl

theorem Kept.pushAll (h : e.Kept) (ms : List Message) : (e.pushAll ms).Kept := by
  induction ms generalizing e with
  | nil => exact h
  | cons m ms ih => exact ih (h.push m)

theorem Turn.kept (ht : Turn e e') (h : e.Kept) : e'.Kept := by
  cases ht with
  | deed hd =>
    cases hd with
    | aside hv => exact h.record (Event.isAside.failure? hv)
    | submit why m =>
      have haccepted : (e.record (.accepted why m)).Kept := h.record rfl
      exact haccepted.push m
    | halt => exact h.append [_] rfl rfl (by simp [Event.failure?])
    | begin => exact h.record rfl
    | report => exact h.append [_, _, _] rfl rfl (by simp [Event.failure?])
    | act => exact h.record rfl
    | fall => exact h.record rfl
    | misuse => exact h.append [_, _] rfl rfl (by simp [Event.failure?])
    | _ => exact h
  | launch => exact h.append [_] rfl rfl (by simp [Event.failure?])
  | release => exact h.append [_] rfl rfl (by simp [Event.failure?])

theorem Kept.enter (h : e.Kept) : e.enter.2.Kept := by
  rcases e.enter_cases with ⟨-, he⟩ | ⟨-, f, -, he⟩ | ⟨-, replyTo, -, he⟩
  · rw [he]
    exact h.record rfl
  · rw [he]
    exact h
  · rw [he]
    have hconnected : ({ e with driver.connected := true } : Endpoint).Kept := h
    have hregistered : ({ ({ e with driver.connected := true } : Endpoint).push
        (e.driver.registration replyTo) with driver.backlog := [] } : Endpoint).Kept :=
      hconnected.push (e.driver.registration replyTo)
    have hflushed : (e.flush replyTo).Kept := hregistered.pushAll _
    exact hflushed.append [.noted (.connected (e.flush replyTo).driver.remote), .became .running]
      rfl rfl (by simp [Event.failure?])

/-- What a call comes to does not depend on the transport. -/
theorem region_transport (e : Endpoint) (transport : Transport) (inside : Bool) (r : Region) :
    ({ e with surroundings.transport := transport }.region inside r).1 =
      (e.region inside r).1 := by
  rw [region_outcome, region_outcome]
  unfold Region.outcome
  cases r <;> rfl

end Endpoint

namespace System

variable {s t : System} {f : Failure}

/-! ### Runs -/

/-- The dispatch thread is about to end with a failure only once misuse was raised. -/
theorem step_cause {m : Move} (h : (s.step m).phase.cause? = some f)
    (hn : s.phase.cause? ≠ some f) :
    m = .go .dispatch ∧ s.raised? = some f ∧ f.isMisuse = true := by
  by_cases hm : m = .go .dispatch
  · subst hm
    refine ⟨rfl, ?_⟩
    by_cases hp : s.provides s.dispatchNeed = true
    · simp only [step, need, hp, if_true, advance] at h
      exact dispatch_cause hp hn h
    · simp only [step, need, hp] at h
      exact absurd h hn
  · rcases s.others_phase hm with hp | ⟨-, hp⟩ | ⟨frame, -, hp⟩ <;> rw [hp] at h
    · exact absurd h hn
    · cases h
    · cases h

theorem run_cause {moves : List Move} (h : (s.run moves).phase.cause? = some f)
    (hn : s.phase.cause? = none) : f.isMisuse = true ∧
      ∃ before more, moves = before ++ .go .dispatch :: more ∧ (s.run before).raised? = some f := by
  induction moves using List.reverseRecOn with
  | nil => cases hn.symm.trans h
  | append_singleton moves m ih =>
    rw [run_concat] at h
    by_cases hc : (s.run moves).phase.cause? = some f
    · obtain ⟨hf, before, more, rfl, hr⟩ := ih hc
      exact ⟨hf, before, more ++ [m], by simp, hr⟩
    · obtain ⟨rfl, hr, hf⟩ := step_cause h hc
      exact ⟨hf, moves, [], rfl, hr⟩

theorem Begins.kept (h : s.Begins) : s.endpoint.Kept := by
  obtain ⟨a, remote, ha⟩ := h.made
  have hnone : s.endpoint.driver.pendingError = none := (Application.driver_new ha).pendingError
  unfold Endpoint.Kept
  rw [h.history, hnone]
  rfl

/-- What becomes of misuse after some moves of a system. -/
structure Surfacing (s : System) (moves : List Move) : Prop where
  /-- Misuse that a callback raises, or the transport as it connects, tells its address or
  receives, ends the dispatch thread, whatever moves follow. -/
  ends : ∀ f, (s.run moves).raised? = some f → f.isMisuse = true →
    ((s.run moves).step (.go .dispatch)).driver.pendingError = (s.run moves).driver.pendingError ∧
      ∀ more : List Move, Surfaced f (s.run moves) (more.countP Move.isDispatch)
        (s.run (moves ++ .go .dispatch :: more))
  /-- It ends with nothing else, so with no failure of a send or of closing the transport. -/
  only : ∀ f, (s.run moves).phase.cause? = some f → f.isMisuse = true ∧
    ∃ before more, moves = before ++ .go .dispatch :: more ∧ (s.run before).raised? = some f
  /-- Whatever a send fails with, misuse or not, is kept as pending, whoever sent. -/
  sends : failures (s.run moves).endpoint.history =
    (s.run moves).driver.pendingError.toList
  /-- It makes no difference to what the call comes to that sent. -/
  answers : ∀ transport inside r,
    ({ (s.run moves).endpoint with surroundings.transport := transport }.region inside r).1 =
      ((s.run moves).endpoint.region inside r).1

theorem run_surfacing (h : s.Begins) (moves : List Move) : s.Surfacing moves := by
  have hs := run_sound h.sound moves
  refine ⟨fun f hr hf => ?_, fun f hc => run_cause hc (by rw [h.phase]; rfl), ?_,
    fun transport inside r => Endpoint.region_transport _ transport inside r⟩
  · obtain ⟨hpending, hsurfaced⟩ := raised_surfaced hs hr hf
    refine ⟨hpending, fun more => ?_⟩
    have hrun := hsurfaced.run (step_sound hs _) more
    rw [Nat.zero_add] at hrun
    have happend : s.run (moves ++ .go .dispatch :: more) =
        ((s.run moves).step (.go .dispatch)).run more := List.foldl_append ..
    rwa [happend]
  · exact run_keeps (P := Endpoint.Kept) (fun _ _ ht he => ht.kept he) (fun _ _ he => he.enter)
      h.sound h.kept moves

/-- Misuse of a buffer. -/
def breach : Failure := .raised "ContractViolation" (some "reading a released envelope")

/-- A scheduler whose callback for its registration misuses a buffer. -/
def careless : System := sample [.registered, .error] [(.registered, [.raise breach])] []

/-- The scheduler is registered, and its callback begins. -/
def carelessMoves : List Move :=
  [.call .start, .go (.caller 0)] ++ List.replicate 5 (.go .dispatch) ++
    [.arrive (.messages [.frameworkRegistered [102] [109]]), .go .dispatch, .go .dispatch]

/-- With the next three moves of its dispatch thread the callback breaks off, the driver leaves the
cluster, and the thread ends. -/
theorem careless_surfacing : careless.Begins ∧ careless.Surfacing carelessMoves ∧
    (careless.run carelessMoves).phase.loan = some (.registered, [0, 1]) ∧
    (careless.run carelessMoves).raised? = some breach ∧ breach.isMisuse = true ∧
    Surfaced breach (careless.run carelessMoves) 2
      (careless.run (carelessMoves ++ List.replicate 3 (.go .dispatch))) := by
  have hsurfacing : careless.Surfacing carelessMoves :=
    run_surfacing (sample_begins _ _ _) carelessMoves
  refine ⟨sample_begins _ _ _, hsurfacing, rfl, rfl, by decide, ?_⟩
  exact (hsurfacing.ends breach rfl (by decide)).2 (List.replicate 2 (.go .dispatch))

/-- A scheduler whose transport is misused by its second send. -/
def muffled : System := sample [.error] [] [none, some breach]

/-- The scheduler revives offers once it is registered. -/
def muffledMoves : List Move :=
  [.call .start, .go (.caller 0)] ++ List.replicate 3 (.go .dispatch) ++
    [.call (.order .reviveOffers), .go (.caller 1)]

/-- The caller who sent is told that the driver runs. The misuse is pending, and reported by the
error callback like any other failure, and the dispatch thread ends without one. -/
theorem muffled_returns :
    .notSent (.reviveOffers []) breach 0 0 ∈ (muffled.run muffledMoves).endpoint.history ∧
    breach.isMisuse = true ∧
    (muffled.run muffledMoves).errandOf 1 = some (.finished (.ok (.status .running))) ∧
    (muffled.run muffledMoves).driver.pendingError = some breach ∧
    begun (muffled.run (muffledMoves ++ List.replicate 6 (.go .dispatch))).endpoint.history =
      [.error] ∧
    (muffled.run (muffledMoves ++ List.replicate 6 (.go .dispatch))).phase = .ended ∧
    (muffled.run (muffledMoves ++ List.replicate 6 (.go .dispatch))).endpoint.history.any
      Event.isRaise = false := by
  refine ⟨?_, by decide, rfl, rfl, rfl, rfl, rfl⟩
  exact List.mem_cons_of_mem _ (List.mem_cons_of_mem _ List.mem_cons_self)

end System

end ClusterLink
