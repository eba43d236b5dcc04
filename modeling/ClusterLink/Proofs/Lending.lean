/-
# The envelopes of a callback

What is lent to a callback is lent as live borrowed envelopes with exactly
the bytes that it was called with, and stays so while the callback runs: a
callback can ask for what an envelope holds and keep views of it, but only a
transferred envelope can be released by a question (`Store.Spares`). However
the callback ends, its envelopes are released, so that outside of callbacks
no envelope of a driver is live (`System.Lent`).

Key definitions: `Phase.loan`, `History.callbacks`, `System.Lent`.
Key theorem: `System.step_lent`.
-/
import ClusterLink.Proofs.Passage
import ClusterLink.Proofs.Store

namespace ClusterLink

/-! ### What is lent -/

/-- Whether a callback begins with the event. -/
def Event.isCallback : Event → Bool
  | began .. => true
  | _ => false

/-- The callbacks of a history, with what they were called with. -/
def History.callbacks (h : List Event) : List Event := (h.filter Event.isCallback).reverse

theorem History.callbacks_eq (h : List Event) :
    callbacks h = (tidings h).filter Event.isCallback := by
  have hf : ∀ v : Event, (v.isCallback && v.isTiding) = v.isCallback := fun v => by cases v <;> rfl
  simp [callbacks, tidings, List.filter_reverse, List.filter_filter, hf]

/-- The slot of the callback that runs, and the envelopes that are lent to it. -/
def Phase.loan : Phase → Option (Slot × List Nat)
  | calling frame => some (frame.slot, frame.lent)
  | _ => none

namespace System

/-- The envelopes of the callback that runs are live, and hold what it was called with. All other
envelopes from a number on are released. -/
structure Lent (first : Nat) (s : System) : Prop where
  live : ∀ slot ids, s.phase.loan = some (slot, ids) → ∃ l payload args,
    (History.callbacks s.endpoint.history).getLast? = some (.began slot l payload args) ∧
      ids.map s.store.envelope =
        (args.flatMap Parameter.payloads).map (Envelope.fresh · .borrowed)
  released : ∀ k, first ≤ k → (∀ slot ids, s.phase.loan = some (slot, ids) → k ∉ ids) →
    (s.store.envelope k).released = true

variable {first : Nat} {s s' : System}

/-- Without a callback, all envelopes are released. -/
theorem Lent.all (h : Lent first s) (hp : s.phase.loan = none) (k : Nat) (hk : first ≤ k) :
    (s.store.envelope k).released = true :=
  h.released k hk fun _ _ hl => by rw [hp] at hl; cases hl

theorem lent_of_all (hp : s.phase.loan = none)
    (h : ∀ k, first ≤ k → (s.store.envelope k).released = true) : Lent first s := by
  refine ⟨fun _ _ hl => ?_, fun k hk _ => h k hk⟩
  rw [hp] at hl
  cases hl

/-- While a callback goes on, its envelopes stay as they are. -/
theorem Lent.carry (h : Lent first s) (hp : s'.phase.loan = s.phase.loan)
    (hs : s.store.Spares s'.store)
    (hc : History.callbacks s'.endpoint.history = History.callbacks s.endpoint.history) :
    Lent first s' := by
  refine ⟨fun slot ids hl => ?_, fun k hk hn => ?_⟩
  · rw [hp] at hl
    obtain ⟨l, payload, args, hlast, hids⟩ := h.live slot ids hl
    refine ⟨l, payload, args, by rw [hc]; exact hlast, ?_⟩
    rw [← hids]
    refine List.map_congr_left fun k hk => ?_
    rcases hs k with he | ⟨ht, -⟩
    · exact he
    · -- what is lent is borrowed
      have hmem : s.store.envelope k ∈ ids.map s.store.envelope := List.mem_map_of_mem hk
      rw [hids] at hmem
      obtain ⟨b, -, hb⟩ := List.mem_map.mp hmem
      rw [← hb] at ht
      cases ht
  · rw [hp] at hn
    have hr := h.released k hk hn
    rcases hs k with he | ⟨-, he⟩
    · rw [he]; exact hr
    · rw [he]; rfl

/-! ### Operations -/

theorem phaseFor_loan (ms : List Message) : (phaseFor ms).loan = none := by
  cases ms <;> rfl

theorem resume_quiet (s : System) (after : After) :
    (s.resume after).store = s.store ∧ (s.resume after).phase.loan = none := by
  cases after with
  | message m rest => exact ⟨rfl, phaseFor_loan rest⟩
  | _ => exact ⟨rfl, rfl⟩

theorem escape_quiet (s : System) (f : Failure) :
    (s.escape f).store = s.store ∧ (s.escape f).phase.loan = none := by
  unfold escape
  dsimp only
  split <;> exact ⟨rfl, rfl⟩

/-- No callback runs, and the envelopes are as they were. -/
theorem lent_of_quiet (hs : s'.store = s.store) (hp : s'.phase.loan = none)
    (h : ∀ k, first ≤ k → (s.store.envelope k).released = true) : Lent first s' :=
  lent_of_all hp fun k hk => by rw [hs]; exact h k hk

theorem resume_lent (h : ∀ k, first ≤ k → (s.store.envelope k).released = true)
    (after : After) : Lent first (s.resume after) :=
  lent_of_quiet (s.resume_quiet after).1 (s.resume_quiet after).2 h

theorem escape_lent (h : ∀ k, first ≤ k → (s.store.envelope k).released = true)
    (f : Failure) : Lent first (s.escape f) :=
  lent_of_quiet (s.escape_quiet f).1 (s.escape_quiet f).2 h

/-- A callback that begins gets what it is called with. -/
theorem invoke_lent (h : ∀ k, first ≤ k → (s.store.envelope k).released = true) (slot : Slot)
    (args : List Parameter) (after : After) : Lent first (s.invoke slot args after) := by
  unfold invoke
  split
  · dsimp only
    refine ⟨fun slot' ids hl => ?_, fun k hk hn => ?_⟩
    · obtain ⟨rfl, rfl⟩ := Prod.mk.inj (Option.some.inj hl)
      refine ⟨s.driver.state, s.driver.payload, args, ?_, s.store.lend_envelope _⟩
      simp [History.callbacks, record, Endpoint.record, Event.isCallback]
    · have hk' := hn slot _ rfl
      rw [Store.lend_envelope_of_not_mem _ _ hk']
      exact h k hk
  · exact resume_lent h after

theorem fail_lent (h : ∀ k, first ≤ k → (s.store.envelope k).released = true)
    (message : WideText) (after : After) : Lent first (s.fail message after) := by
  rcases s.fail_cases message after with ⟨-, b, -, he⟩ | ⟨-, -, he⟩ | ⟨-, he⟩ <;> rw [he]
  · exact invoke_lent (s := s.giveUp message) h .error [.envelope b] after
  · exact escape_lent (s := s.giveUp message) h _
  · exact resume_lent (s := s.note (.failedLate message)) h after

/-- A callback that ends gives back what it was lent. -/
theorem endCallback_lent (frame : Frame) (failure : Option Failure)
    (h : ∀ k, first ≤ k → k ∉ frame.lent → (s.store.envelope k).released = true) :
    Lent first (s.endCallback frame failure) := by
  have hall : ∀ k, first ≤ k → ((s.store.releaseAll frame.lent).envelope k).released = true := by
    intro k hk
    rw [Store.envelope_releaseAll]
    split
    · rfl
    · rename_i hn
      exact h k hk hn
  cases failure with
  | none => exact resume_lent hall frame.after
  | some f =>
    by_cases hf : f.isMisuse = true
    · simp only [endCallback, hf, if_true]
      split
      · exact lent_of_all rfl hall
      · exact escape_lent hall f
    · have hf : f.isMisuse = false := by simpa using hf
      simp only [endCallback, hf, Bool.false_eq_true, if_false]
      exact resume_lent hall frame.after

theorem ask_spares (s : System) (i : Int) (q : Query) : s.store.Spares (s.ask i q).2.store := by
  unfold ask
  split
  · exact s.store.ask_spares _ q
  · exact .refl _

theorem callInside_spares (s : System) (c : Call) :
    s.store.Spares (s.callInside c).2.store := by
  unfold callInside
  split
  · exact s.ask_spares _ _
  · exact .refl _

theorem keepViews_envelope {ids : List Nat} (h : s.keepViews ids = .ok s') (k : Nat) :
    s'.store.envelope k = s.store.envelope k := by
  induction ids generalizing s with
  | nil =>
    obtain rfl := Except.ok.inj h
    rfl
  | cons id ids ih =>
    cases hv : s.store.view id with
    | error f => simp [keepViews, hv, bind, Except.bind] at h
    | ok x =>
      obtain ⟨v, store⟩ := x
      simp only [keepViews, hv, bind, Except.bind] at h
      exact (ih h).trans (Store.view_envelope hv k)

/-- With the next thing that it does, a callback goes on or ends. -/
theorem act_cases (s : System) (frame : Frame) :
    (∃ actions held, (s.act frame).phase = .calling { frame with actions, held } ∧
      s.store.Spares (s.act frame).store) ∨
    ∃ (t : System) (actions : List Action) (failure : Option Failure),
      s.act frame = t.endCallback { frame with actions } failure ∧ s.store.Spares t.store := by
  obtain ⟨slot, lent, actions, held, after⟩ := frame
  cases actions with
  | nil => exact Or.inr ⟨s, [], none, rfl, .refl _⟩
  | cons a actions =>
    cases a with
    | call c passOn =>
      have hs := s.callInside_spares c
      simp only [act]
      split
      · exact Or.inr ⟨_, actions, some _, rfl, hs⟩
      · exact Or.inl ⟨actions, held, rfl, hs⟩
    | raise f => exact Or.inr ⟨s, actions, some f, rfl, .refl _⟩
    | hold => exact Or.inl ⟨actions, true, rfl, .refl _⟩
    | keep => exact Or.inl ⟨actions, held, rfl, .refl _⟩
    | keepViews =>
      simp only [act]
      split
      · rename_i s' hk
        exact Or.inl ⟨actions, held, rfl, fun k => Or.inl (keepViews_envelope hk k)⟩
      · rename_i f _
        exact Or.inr ⟨s, actions, some f, rfl, .refl _⟩
    | nameThread => exact Or.inl ⟨actions, held, rfl, .refl _⟩

theorem act_lent {frame : Frame} (h : Lent first s) (hp : s.phase = .calling frame)
    (hc : History.callbacks (s.act frame).endpoint.history =
      History.callbacks s.endpoint.history) : Lent first (s.act frame) := by
  have hloan : s.phase.loan = some (frame.slot, frame.lent) := by rw [hp]; rfl
  rcases s.act_cases frame with ⟨actions, held, hp', hs⟩ | ⟨t, actions, failure, he, hs⟩
  · refine h.carry ?_ hs hc
    rw [hp', hloan]
    rfl
  · rw [he]
    refine endCallback_lent _ failure fun k hk hn => ?_
    have hr : (s.store.envelope k).released = true := by
      refine h.released k hk fun slot ids hl => ?_
      rw [hloan] at hl
      obtain ⟨-, rfl⟩ := Prod.mk.inj (Option.some.inj hl)
      exact hn
    rcases hs k with hk' | ⟨-, hk'⟩
    · rw [hk']; exact hr
    · rw [hk']; rfl

theorem take_lent (h : ∀ k, first ≤ k → (s.store.envelope k).released = true) (m : Message)
    (rest : List Message) (ha : s.driver.state.isActive = true) :
    Lent first (s.take m rest) := by
  have hf : ∀ k, first ≤ k → ((s.facing m).store.envelope k).released = true := h
  rw [take_eq m rest ha]
  split
  · exact invoke_lent hf _ _ _
  · exact lent_of_all (phaseFor_loan rest) hf
  · exact fail_lent hf _ _
  · exact lent_of_all (phaseFor_loan rest) hf

theorem proceed_lent (h : ∀ k, first ≤ k → (s.store.envelope k).released = true)
    (r : Except Failure Unit × Endpoint) {phase : Phase} (hp : phase.loan = none) :
    Lent first (s.proceed r phase) := by
  unfold proceed
  dsimp only
  split
  · exact lent_of_all hp h
  · refine escape_lent ?_ _
    exact h

theorem receive_lent (h : ∀ k, first ≤ k → (s.store.envelope k).released = true) (a : Arrival) :
    Lent first (s.receive a) := by
  unfold receive
  dsimp only
  split
  · exact lent_of_all (phaseFor_loan _) h
  · refine escape_lent ?_ _
    exact h

theorem dispatch_lent (h : Lent first s)
    (hc : ∀ frame, s.phase = .calling frame → History.callbacks s.dispatch.endpoint.history =
      History.callbacks s.endpoint.history) : Lent first s.dispatch := by
  have hall : s.phase.loan = none → ∀ k, first ≤ k → (s.store.envelope k).released = true := h.all
  cases hp : s.phase with
  | calling frame =>
    have hc := hc frame hp
    simp only [dispatch, hp] at hc ⊢
    split
    · exact h
    · rename_i hheld
      rw [if_neg hheld] at hc
      exact act_lent h hp hc
  | idle | ended =>
    simp only [dispatch, hp]
    exact h
  | begun =>
    simp only [hp, Phase.loan, forall_const] at hall
    simp only [dispatch, hp]
    split
    · exact proceed_lent hall _ rfl
    · exact lent_of_all rfl hall
  | linking | entering =>
    simp only [hp, Phase.loan, forall_const] at hall
    simp only [dispatch, hp]
    exact proceed_lent hall _ rfl
  | checking =>
    simp only [hp, Phase.loan, forall_const] at hall
    simp only [dispatch, hp]
    refine lent_of_all ?_ hall
    dsimp only
    split <;> rfl
  | deciding =>
    simp only [hp, Phase.loan, forall_const] at hall
    simp only [dispatch, hp]
    split <;> exact lent_of_all rfl hall
  | reporting f | escaped f =>
    simp only [hp, Phase.loan, forall_const] at hall
    simp only [dispatch, hp]
    exact fail_lent hall _ _
  | receiving =>
    simp only [hp, Phase.loan, forall_const] at hall
    simp only [dispatch, hp]
    split
    · refine escape_lent ?_ _
      exact hall
    · exact h
    · refine receive_lent ?_ _
      exact hall
  | handling ms =>
    simp only [hp, Phase.loan, forall_const] at hall
    simp only [dispatch, hp]
    cases ms with
    | nil => exact lent_of_all rfl hall
    | cons m rest =>
      simp only [handle]
      split
      · rename_i ha
        exact take_lent hall m rest ha
      · exact lent_of_all (phaseFor_loan rest) hall
  | ticking =>
    simp only [hp, Phase.loan, forall_const] at hall
    simp only [dispatch, hp]
    split
    · exact proceed_lent hall _ rfl
    · exact lent_of_all rfl hall
  | closing cause =>
    simp only [hp, Phase.loan, forall_const] at hall
    simp only [dispatch, hp]
    exact lent_of_all rfl hall
  | signalling cause =>
    simp only [hp, Phase.loan, forall_const] at hall
    simp only [dispatch, hp]
    split <;> exact lent_of_all rfl hall

/-! ### Moves -/

theorem assign_store (s : System) (n : Nat) (errand : Errand) :
    (s.assign n errand).store = s.store := by
  unfold assign
  dsimp only
  split <;> rfl

theorem launch_store (s : System) : s.launch.store = s.store := by
  unfold launch
  split
  · split <;> rfl
  · rfl

/-- What becomes of the dispatch thread when it is not its move: it may be launched, or woken. -/
theorem others_phase (s : System) {m : Move} (hm : m ≠ .go .dispatch) :
    (s.step m).phase = s.phase ∨ (s.phase = .idle ∧ (s.step m).phase = .begun) ∨
      ∃ frame, s.phase = .calling frame ∧
        (s.step m).phase = .calling { frame with held := false } := by
  cases m with
  | go t =>
    cases t with
    | dispatch => exact absurd rfl hm
    | caller n =>
      simp only [step]
      split
      · simp only [advance, caller]
        split
        · exact Or.inl rfl
        · exact Or.inl rfl
        · rcases launch_phase _ with hp | ⟨hi, hp⟩
          · exact Or.inl (hp.trans (assign_deeds _ _ _).2)
          · rw [(assign_deeds _ _ _).2] at hi
            exact Or.inr (Or.inl ⟨hi, hp⟩)
        · exact Or.inl (assign_deeds _ _ _).2
      · exact Or.inl rfl
  | call c => exact Or.inl (s.addCaller_deeds c).2.1
  | wake =>
    simp only [step, wake]
    split
    · rename_i frame hp
      exact Or.inr (Or.inr ⟨frame, hp, rfl⟩)
    · exact Or.inl rfl
  | _ => exact Or.inl rfl

/-- Callers ask, but the callback that runs keeps its envelopes. -/
theorem others_spare (s : System) {m : Move} (hm : m ≠ .go .dispatch) :
    s.store.Spares (s.step m).store := by
  cases m with
  | go t =>
    cases t with
    | dispatch => exact absurd rfl hm
    | caller n =>
      simp only [step]
      split
      · simp only [advance, caller]
        split
        · exact .refl _
        · exact .refl _
        · rw [launch_store, assign_store]
          exact .refl _
        · rw [assign_store]
          exact .refl _
      · exact .refl _
  | call c =>
    simp only [step, addCaller, assign_store]
    split
    · exact s.ask_spares _ _
    · exact .refl _
  | wake =>
    simp only [step, wake]
    split <;> exact .refl _
  | _ => exact .refl _

/-- A move of the dispatch thread is made, or it has to wait. -/
theorem step_dispatch (s : System) : s.step (.go .dispatch) = s ∨
    s.step (.go .dispatch) = s.dispatch := by
  simp only [step, advance]
  split
  · exact Or.inr rfl
  · exact Or.inl rfl

theorem issues_callbacks (e : Endpoint) (r : Option Bytes) :
    (e.issues r).filter Event.isCallback = [] := by
  unfold Endpoint.issues
  split
  · split <;> rfl
  · rfl

/-- The callbacks that begin with a move are among its deliveries. -/
theorem step_callbacks (h : s.Sound) (m : Move) :
    History.callbacks (s.step m).endpoint.history =
      History.callbacks s.endpoint.history ++ (s.deliveries m).filter Event.isCallback := by
  have ht := step_tidings h m
  rw [History.callbacks_eq, History.callbacks_eq, ht, List.filter_append, tells,
    List.filter_append, issues_callbacks, List.append_nil]

theorem step_lent (hs : s.Sound) (h : Lent first s) (m : Move) : Lent first (s.step m) := by
  have hc := step_callbacks hs m
  by_cases hm : m = .go .dispatch
  · subst hm
    rcases s.step_dispatch with he | he
    · rw [he]; exact h
    · rw [he] at hc ⊢
      refine dispatch_lent h fun frame hp => ?_
      rw [hc]
      rw [deliveries_calling hp, List.filter_nil, List.append_nil]
  · have hp : (s.step m).phase.loan = s.phase.loan := by
      rcases s.others_phase hm with hp | ⟨hi, hp⟩ | ⟨frame, hc, hp⟩
      · rw [hp]
      · rw [hp, hi]; rfl
      · rw [hp, hc]; rfl
    rw [s.deliveries_of_ne hm, List.filter_nil, List.append_nil] at hc
    exact h.carry hp (s.others_spare hm) hc

end System

end ClusterLink
