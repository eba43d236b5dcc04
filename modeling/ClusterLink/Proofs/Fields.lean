/-
# The fields of a driver

What the fields of a driver have to do with each other, between any two moves
of a run. Only a driver that is connected is running, and its backlog is
empty; what waits does so while the driver is not connected
(`Driver.Coherent`). A driver with a final status left the cluster for good
(`Driver.Left`). And a driver that did not join the cluster was never
running, so that it has neither a pending error nor, if it is a scheduler's,
an identifier (`Endpoint.Offline`).

Each is kept by every turn. Joining keeps the first, since a transport that
connected has an address.

Key definitions: `Driver.Coherent`, `Driver.Left`, `Endpoint.Offline`,
`System.HasJoined`, `System.Fields`.
Key theorems: `Endpoint.Turn.coherent`, `Endpoint.Coherent.enter`,
`System.run_offline`, `System.run_fields`.
-/
import ClusterLink.Proofs.Acknowledgement
import ClusterLink.Proofs.Ending
import ClusterLink.Proofs.SendLog

namespace ClusterLink

open History

namespace Driver

/-- What the state of a driver has to do with its connection and its backlog. -/
structure Coherent (d : Driver) : Prop where
  created : d.state = .created → d.connected = false
  running : d.state = .running → d.connected = true
  connected : d.connected = true → d.backlog = [] ∧ (d.state.isActive = true → d.state = .running)
  waiting : d.backlog ≠ [] → d.state = .started ∨ d.state = .stopped ∨ d.state = .aborted

/-- The driver left the cluster. -/
structure Left (d : Driver) : Prop where
  connected : d.connected = false
  backlog : d.backlog = []
  state : d.state.isShut = true

variable {d : Driver}

/-- A driver may be stopped or aborted in whatever state its connection and its backlog are. -/
theorem Coherent.shut (h : d.Coherent) {l : Lifecycle} (hl : l = .stopped ∨ l = .aborted) :
    Coherent { d with state := l } := by
  have hi : l.isActive = false := by rcases hl with rfl | rfl <;> rfl
  refine ⟨fun hs => ?_, fun hs => ?_, fun hc => ⟨(h.connected hc).1, fun ha => ?_⟩,
    fun _ => Or.inr hl⟩
  · rcases hl with rfl | rfl <;> cases hs
  · rcases hl with rfl | rfl <;> cases hs
  · exact absurd (hi.symm.trans ha) Bool.noConfusion

end Driver

namespace Endpoint

variable {e e' : Endpoint}

/-! ### Coherence -/

/-- A message that an active driver accepts waits if the driver is not connected. -/
theorem push_coherent (h : e.driver.Coherent) (ha : e.driver.state.isActive = true) (m : Message) :
    (e.push m).driver.Coherent := by
  by_cases hc : e.driver.connected = true
  · obtain ⟨b, p, hd⟩ := push_driver e m
    have hb : b = e.driver.backlog := by
      have hb := push_backlog hc m
      rwa [hd] at hb
    rw [hd, hb]
    exact ⟨h.created, h.running, h.connected, h.waiting⟩
  · have hc : e.driver.connected = false := by simpa using hc
    have hs : e.driver.state = .started := by
      have hr : e.driver.state ≠ .running := fun hr =>
        absurd (hc.symm.trans (h.running hr)) Bool.noConfusion
      cases hs : e.driver.state with
      | started => rfl
      | running => exact absurd hs hr
      | _ => rw [hs] at ha; cases ha
    rw [push_of_not_connected hc]
    refine ⟨h.created, h.running, fun hcon => ?_, fun _ => Or.inl hs⟩
    exact absurd (hc.symm.trans hcon) Bool.noConfusion

theorem Deed.coherent (h : Deed e e') (he : e.driver.Coherent) : e'.driver.Coherent := by
  cases h with
  | submit why m h => exact push_coherent (e := e.record (.accepted why m)) he h m
  | halt h hs => exact he.shut hs
  | report h hb => exact he.shut (Or.inr rfl)
  | misuse h hs => exact he.shut (Or.inr rfl)
  | withdraw h hc =>
    refine ⟨fun _ => rfl, fun hr => ?_, fun hcon => ?_, fun hb => absurd rfl hb⟩
    · have hr : e.driver.state = .running := hr
      rw [hr] at h
      cases h
    · exact absurd hcon Bool.noConfusion
  | _ => exact ⟨he.created, he.running, he.connected, he.waiting⟩

theorem Turn.coherent (h : Turn e e') (he : e.driver.Coherent) : e'.driver.Coherent := by
  cases h with
  | deed h => exact h.coherent he
  | launch h =>
    have hc := he.created h
    refine ⟨fun hs => ?_, fun hs => ?_, fun hcon => ?_, fun _ => Or.inl rfl⟩
    · cases hs
    · cases hs
    · exact absurd (hc.symm.trans hcon) Bool.noConfusion
  | release h =>
    refine ⟨fun hs => ?_, fun hs => ?_, fun _ => ⟨rfl, fun ha => ?_⟩, fun hb => absurd rfl hb⟩
    · cases hs
    · cases hs
    · cases ha

/-- After the join nothing waits. -/
theorem flush_backlog (e : Endpoint) (replyTo : String) :
    (e.flush replyTo).driver.backlog = [] := by
  unfold flush
  dsimp only
  refine pushAll_backlog ?_ _
  exact push_connected _ _

/-- With the join the driver is connected, and nothing waits any more. -/
theorem enter_coherent (he : e.driver.Coherent) (hc : e.driver.state ≠ .created)
    (hr : e.driver.state ≠ .running) (ha : e.surroundings.transport.Reachable) :
    e.enter.2.driver.Coherent := by
  rcases e.enter_cases with ⟨hs, h⟩ | ⟨-, f, hf, -⟩ | ⟨-, replyTo, -, h⟩
  · rw [h]
    refine ⟨fun h => absurd h hc, fun h => absurd h hr, fun hcon => ⟨rfl, fun hact => ?_⟩,
      fun hb => absurd rfl hb⟩
    exact (he.connected hcon).2 hact
  · obtain ⟨a, ha⟩ := ha
    rw [ha] at hf
    cases hf
  · obtain ⟨b, p, hd⟩ := e.flush_driver replyTo
    have hcon : (e.flush replyTo).driver.connected = true := by rw [hd]
    have hb := e.flush_backlog replyTo
    rw [h]
    exact ⟨fun hs => (by cases hs), fun _ => hcon, fun _ => ⟨hb, fun _ => rfl⟩,
      fun hw => absurd hb hw⟩

/-! ### Leaving -/

theorem Deed.left (h : Deed e e') (he : e.driver.Left) : e'.driver.Left := by
  have hi := Lifecycle.not_active_of_isShut he.state
  cases h with
  | submit why m h => exact absurd (hi.symm.trans h) Bool.noConfusion
  | halt h => exact absurd (hi.symm.trans h) Bool.noConfusion
  | report h hb => exact absurd (hi.symm.trans h) Bool.noConfusion
  | misuse => exact ⟨he.connected, he.backlog, rfl⟩
  | withdraw => exact ⟨rfl, rfl, he.state⟩
  | _ => exact ⟨he.connected, he.backlog, he.state⟩

/-- A driver that left the cluster does not come back. -/
theorem Turn.left (h : Turn e e') (he : e.driver.Left) : e'.driver.Left := by
  cases h with
  | deed h => exact h.left he
  | launch h =>
    have hs := he.state
    rw [h] at hs
    cases hs
  | release h => exact ⟨he.connected, rfl, rfl⟩

/-! ### Before the join -/

/-- The driver was never connected. -/
structure Offline (e : Endpoint) : Prop where
  connected : e.driver.connected = false
  pendingError : e.driver.pendingError = none
  never : .became .running ∉ e.history

/-- Anything may happen but that the driver runs. -/
theorem Offline.append (h : e.Offline) (new : List Event) (hh : e'.history = new ++ e.history)
    (hn : .became .running ∉ new) (hc : e'.driver.connected = e.driver.connected)
    (hp : e'.driver.pendingError = e.driver.pendingError) : e'.Offline := by
  refine ⟨hc.trans h.connected, hp.trans h.pendingError, fun hm => ?_⟩
  rw [hh] at hm
  rcases List.mem_append.mp hm with hm | hm
  · exact hn hm
  · exact h.never hm

theorem Deed.offline (h : Deed e e') (he : e.Offline) : e'.Offline := by
  cases h with
  | @aside v h =>
    refine he.append [v] rfl (fun hm => ?_) rfl rfl
    obtain rfl := List.mem_singleton.mp hm
    cases h
  | submit why m h =>
    have hr : (e.record (.accepted why m)).Offline := he.append [_] rfl (by simp) rfl rfl
    unfold Endpoint.submit
    rw [push_of_not_connected hr.connected]
    exact ⟨hr.connected, hr.pendingError, hr.never⟩
  | halt h hs => exact he.append [_] rfl (by rcases hs with rfl | rfl <;> simp) rfl rfl
  | begin | act | fall => exact he.append [_] rfl (by simp) rfl rfl
  | report => exact he.append [_, _, _] rfl (by simp) rfl rfl
  | misuse => exact he.append [_, _] rfl (by simp) rfl rfl
  | withdraw => exact ⟨rfl, he.pendingError, he.never⟩
  | _ => exact ⟨he.connected, he.pendingError, he.never⟩

theorem Turn.offline (h : Turn e e') (he : e.Offline) : e'.Offline := by
  cases h with
  | deed h => exact h.offline he
  | launch => exact he.append [_] rfl (by simp) rfl rfl
  | release => exact he.append [_] rfl (by simp) rfl rfl

/-- A driver that was shut down meanwhile does not join. -/
theorem Offline.enter (h : e.Offline) (hs : e.driver.state ≠ .started) : e.enter.2.Offline := by
  rcases e.enter_cases with ⟨-, he⟩ | ⟨hst, -⟩ | ⟨hst, -⟩
  · rw [he]
    exact h.append [_] rfl (by simp) rfl rfl
  · exact absurd hst hs
  · exact absurd hst hs

end Endpoint

namespace System

variable {s : System}

/-- Whether the driver joined the cluster: its dispatch thread had connected, and nobody shut it
down meanwhile. -/
def HasJoined (s : System) (moves : List Move) : Prop :=
  ∃ x, s.joining moves = some x ∧ x.driver.state = .started

/-! ### Runs -/

/-- The driver is coherent, and its transport will have an address if it did not join yet. -/
structure Orderly (s : System) : Prop where
  coherent : s.driver.Coherent
  reachable : s.phase.isLate = true ∨ s.Unjoined

theorem step_orderly (h : s.Sound) (ho : s.Orderly) (m : Move) : (s.step m).Orderly := by
  by_cases hj : s.joins m = true
  · obtain ⟨hd, hl⟩ := step_joins h hj
    obtain ⟨-, hp⟩ := joins_iff.mp hj
    have had := h.admits
    rw [hp] at had
    have hu : s.Unjoined := by
      refine ho.reachable.resolve_left fun hl => ?_
      rw [hp] at hl
      cases hl
    have he := Endpoint.enter_coherent ho.coherent had.1 had.2 (hu.reachable (Or.inr hp))
    exact ⟨hd.turns.keep (P := fun e => e.driver.Coherent) (fun _ _ ht hx => ht.coherent hx) he,
      Or.inl hl⟩
  · have hj : s.joins m = false := by simpa using hj
    refine ⟨(step_turns h hj).keep (P := fun e => e.driver.Coherent)
      (fun _ _ ht hx => ht.coherent hx) ho.coherent, ?_⟩
    rcases ho.reachable with hl | hu
    · exact Or.inl (step_isLate h hl m)
    · exact Or.inr (step_unjoined h hu hj)

/-- The final status is put down when the driver leaves the cluster. -/
theorem step_leaves (h : s.Sound) (hc : s.Concluded) (m : Move) :
    (s.step m).driver.finalStatus = s.driver.finalStatus ∨ (s.step m).driver.Left := by
  by_cases hm : m = .go .dispatch
  · subst hm
    rcases step_concludes hc (.go .dispatch) with hs | ⟨-, cause, hp, -⟩
    · exact Or.inl hs
    · have hstep : (s.step (.go .dispatch)).endpoint = s.endpoint.leave := by
        simp [step, need, dispatchNeed, hp, provides, isLocked, advance, dispatch]
      have hnc : s.endpoint.driver.state ≠ .created :=
        h.admits.ne_created (by rw [hp]; exact Phase.noConfusion)
      obtain ⟨hi, hnc'⟩ := Endpoint.breakOff_state hnc
      refine Or.inr ?_
      unfold driver
      rw [hstep]
      unfold Endpoint.leave
      dsimp only
      rw [Endpoint.closeTransport_driver]
      refine ⟨rfl, rfl, Lifecycle.isShut_of_ne hnc' (fun hs => ?_) fun hs => ?_⟩
      · rw [hs] at hi; cases hi
      · rw [hs] at hi; cases hi
  · exact Or.inl (others_final hm)

/-- A driver with a final status left the cluster, and stays out of it. -/
theorem step_left (h : s.Sound) (hc : s.Concluded)
    (hl : s.driver.finalStatus.isSome = true → s.driver.Left) (m : Move)
    (hf : (s.step m).driver.finalStatus.isSome = true) : (s.step m).driver.Left := by
  rcases step_leaves h hc m with hs | hleft
  · rw [hs] at hf
    have hj : s.joins m = false := by
      by_contra hj
      obtain ⟨-, hp⟩ := joins_iff.mp (by simpa using hj)
      rw [(hc.going (by rw [hp]; rfl)).1] at hf
      cases hf
    exact (step_turns h hj).keep (P := fun e => e.driver.Left) (fun _ _ ht hx => ht.left hx)
      (hl hf)
  · exact hleft

/-- A driver that did not join stays as it was in this. -/
theorem run_offline (h : s.Sound) (ho : s.endpoint.Offline) (moves : List Move)
    (hn : ¬ s.HasJoined moves) : (s.run moves).endpoint.Offline := by
  induction moves generalizing s with
  | nil => exact ho
  | cons m moves ih =>
    have hs' := step_sound h m
    by_cases hj : s.joins m = true
    · obtain ⟨hd, hl⟩ := step_joins h hj
      have hst : s.driver.state ≠ .started := fun hst =>
        hn ⟨s, by rw [joining, if_pos hj], hst⟩
      refine ih hs' (hd.turns.keep (fun _ _ ht hx => ht.offline hx) (ho.enter hst)) ?_
      rintro ⟨x, hx, -⟩
      rw [joining_of_late hs' hl] at hx
      cases hx
    · have ht := step_turns h (by simpa using hj)
      refine ih hs' (ht.keep (fun _ _ ht hx => ht.offline hx) ho) ?_
      rintro ⟨x, hx, hst⟩
      exact hn ⟨x, by rw [joining, if_neg hj]; exact hx, hst⟩

/-- A driver that is running was put in that state. -/
theorem became_of_state {l : Lifecycle} {h : List Event} (hs : state h = l) (hl : l ≠ .created) :
    .became l ∈ h := by
  induction h with
  | nil => exact absurd hs.symm hl
  | cons v h ih =>
    cases hv : v.state? with
    | none =>
      rw [state_cons, hv] at hs
      exact List.mem_cons_of_mem _ (ih hs)
    | some l' =>
      rw [state_cons, hv] at hs
      obtain rfl : l' = l := hs
      cases v <;> cases hv
      exact List.mem_cons_self

/-- A scheduler that was never running took nothing up, and so has no identifier. -/
theorem frameworkId_of_never {bound : Bool} (ha : s.Acknowledges bound)
    (hn : .became .running ∉ s.endpoint.history) : s.driver.frameworkId = [] := by
  have hnil : episodes s.endpoint.history = [] := by
    refine List.eq_nil_iff_forall_not_mem.mpr fun t ht => hn ?_
    have hm := became_of_state (ha.owes.owed.running t ht) Lifecycle.noConfusion
    refine (stretch_of_mem ht).1.subset ?_
    exact List.mem_append_right _ (List.mem_cons_of_mem _ hm)
  have hhandled : handled s.endpoint.history = [] := by rw [handled_eq_episodes, hnil]; rfl
  have hnone : ∀ v ∈ s.endpoint.history, v.registered? = none := fun v hv => by
    refine Event.registered?_of_not_taken ?_
    exact List.filterMap_eq_nil_iff.mp (List.reverse_eq_nil_iff.mp hhandled) v hv
  have hreg := registeredAs_append (h := []) hnone
  rw [List.append_nil] at hreg
  exact ha.owes.registered.trans hreg

/-- The role of the driver is that for which it was made. -/
theorem run_role (h : s.Sound) (moves : List Move) : (s.run moves).driver.role = s.driver.role :=
  run_invariant (P := fun t => t.driver.role = s.driver.role)
    (fun _ m ht hr => (step_same ht m).1.trans hr) h rfl moves

theorem Begins.orderly (h : s.Begins) (ht : s.endpoint.surroundings.transport.Announces) :
    s.Orderly := by
  obtain ⟨a, remote, ha⟩ := h.made
  have hd := Application.driver_new ha
  refine ⟨⟨fun _ => hd.connected, fun hs => ?_, fun hc => ?_, fun hb => absurd hd.backlog hb⟩,
    Or.inr (h.unjoined ht)⟩
  · exact absurd (hd.state.symm.trans hs) Lifecycle.noConfusion
  · exact absurd (hd.connected.symm.trans hc) Bool.noConfusion

theorem Begins.offline (h : s.Begins) : s.endpoint.Offline := by
  obtain ⟨a, remote, ha⟩ := h.made
  have hd := Application.driver_new ha
  refine ⟨hd.connected, hd.pendingError, ?_⟩
  rw [h.history]
  exact List.not_mem_nil

theorem run_orderly (h : s.Begins) (ht : s.endpoint.surroundings.transport.Announces)
    (moves : List Move) : (s.run moves).Orderly :=
  run_invariant (P := Orderly) (fun _ m hs ho => step_orderly hs ho m) h.sound (h.orderly ht) moves

/-- A driver with a final status left the cluster. -/
theorem run_left (h : s.Begins) (moves : List Move)
    (hf : (s.run moves).driver.finalStatus.isSome = true) : (s.run moves).driver.Left := by
  refine (run_invariant (P := fun t => t.Concluded ∧
    (t.driver.finalStatus.isSome = true → t.driver.Left)) ?_ h.sound ⟨h.concluded, ?_⟩ moves).2 hf
  · exact fun t m hs ⟨hc, hl⟩ => ⟨step_concluded hc m, step_left hs hc hl m⟩
  · intro hf
    have hn := (h.concluded.going (by rw [h.phase]; rfl)).1
    rw [hn] at hf
    cases hf

/-- What the fields of a driver have to do with each other, and with whether it joined. -/
structure Fields (joined : Prop) (s : System) : Prop where
  running : s.driver.state = .running → s.driver.connected = true ∧ s.driver.backlog = []
  connected : s.driver.connected = true → s.driver.state.isActive = true →
    s.driver.state = .running
  waiting : s.driver.backlog ≠ [] → s.driver.connected = false ∧ s.driver.done = false ∧
    (s.driver.state = .started ∨ s.driver.state = .stopped ∨ s.driver.state = .aborted)
  done : s.driver.done = true → s.driver.state.isActive = false ∧ s.driver.connected = false ∧
    s.driver.backlog = [] ∧ s.driver.finalStatus.isSome = true ∧ .closed ∈ s.endpoint.history
  failed : s.driver.pendingError.isSome = true → joined
  registered : s.driver.role = .scheduler → s.driver.frameworkId ≠ [] → joined

/-- The fields of a driver agree in every run over a transport that has an address once it
connected. -/
theorem run_fields (h : s.Begins) (ht : s.endpoint.surroundings.transport.Announces)
    (moves : List Move) : (s.run moves).Fields (s.HasJoined moves) := by
  have hco := (run_orderly h ht moves).coherent
  have hc := run_concluded h moves
  have htr := run_tracked h moves
  have hleft := run_left h moves
  have hoff := run_offline h.sound h.offline moves
  refine ⟨fun hs => ?_, fun hcon => (hco.connected hcon).2, fun hb => ?_, fun hd => ?_,
    fun hp => ?_, fun hr hf => ?_⟩
  · have hcon := hco.running hs
    exact ⟨hcon, (hco.connected hcon).1⟩
  · refine ⟨?_, ?_, hco.waiting hb⟩
    · by_contra hcon
      exact hb (hco.connected (by simpa using hcon)).1
    · by_contra hd
      exact hb (hleft (hc.known (by simpa using hd))).backlog
  · have hl := hleft (hc.known hd)
    refine ⟨Lifecycle.not_active_of_isShut hl.state, hl.connected, hl.backlog, hc.known hd, ?_⟩
    exact (closed_mem_iff htr.disciplined).mpr (htr.settled (hc.known hd))
  · by_contra hn
    rw [show (s.run moves).driver.pendingError = none from (hoff hn).pendingError] at hp
    cases hp
  · by_contra hn
    have hr : s.driver.role = .scheduler := (run_role h.sound moves).symm.trans hr
    exact hf (frameworkId_of_never (run_acknowledges h hr moves) (hoff hn).never)

/-- A scheduler that is registered, and whose second send fails. -/
def revived : System := sample [] [] [none, some (.raised "OSError" none)]

def revivedMoves : List Move :=
  [.call .start, .go (.caller 0), .go .dispatch, .go .dispatch, .go .dispatch, .go .dispatch,
    .go .dispatch, .arrive (.messages [.frameworkRegistered [102] []]), .go .dispatch,
    .go .dispatch, .call (.order .reviveOffers), .go (.caller 1)] ++
    List.replicate 8 (.go .dispatch)

theorem revived_fields : revived.Begins ∧ revived.endpoint.surroundings.transport.Announces ∧
    (revived.run revivedMoves).driver.done = true ∧
    (revived.run revivedMoves).driver.pendingError.isSome = true ∧
    (revived.run revivedMoves).driver.frameworkId = [102] ∧
    (revived.run revivedMoves).Fields (revived.HasJoined revivedMoves) :=
  ⟨sample_begins _ _ _, ⟨_, rfl⟩, rfl, rfl, rfl,
    run_fields (sample_begins _ _ _) ⟨_, rfl⟩ revivedMoves⟩

end System

end ClusterLink
