/-
# Joining the cluster

When the driver joins the cluster, its registration goes out, and what
waited in the backlog (`Endpoint.flush`, `Endpoint.enter_cases`). That and
the turns of a driver keep what its being launched says about its state
(`Endpoint.Sound`).

Key definitions: `Endpoint.Sound`, `Endpoint.flush`.
Key theorems: `Endpoint.enter_cases`, `Endpoint.enter_sound`,
`Endpoint.Turns.state_cases`, `Endpoint.Turns.ne_running`.
-/
import ClusterLink.Proofs.Deed

namespace ClusterLink

namespace Endpoint

/-- A driver without a dispatch thread is new or destroyed; one with a dispatch thread is not new,
and attached to its transport until it is destroyed. -/
structure Sound (e : Endpoint) : Prop where
  unlaunched : e.driver.launched = false → e.driver.state = .created ∨ e.driver.state = .destroyed
  launched : e.driver.launched = true →
    e.driver.state ≠ .created ∧ (e.driver.attached = true ∨ e.driver.state = .destroyed)

theorem Deed.sound {e e' : Endpoint} (h : Deed e e') (he : e.Sound) : e'.Sound := by
  obtain ⟨hl, ha⟩ := h.launched
  rcases h.state_cases with hs | ⟨hs, hs'⟩
  · exact ⟨by rw [hl, hs]; exact he.unlaunched, by rw [hl, hs, ha]; exact he.launched⟩
  · refine ⟨fun hf => ?_, fun ht => ⟨?_, ?_⟩⟩
    · rcases he.unlaunched (hl ▸ hf) with hc | hc
      · exact absurd hc hs.1
      · exact absurd hc hs.2
    · rcases hs' with hs' | hs' <;> simp [hs']
    · exact Or.inl (ha.trans ((he.launched (hl ▸ ht)).2.resolve_right hs.2))

theorem Turn.sound {e e' : Endpoint} (h : Turn e e') (he : e.Sound) : e'.Sound := by
  cases h with
  | deed h => exact h.sound he
  | launch h => exact ⟨Bool.noConfusion, fun _ => ⟨Lifecycle.noConfusion, Or.inl rfl⟩⟩
  | release h => exact ⟨fun _ => Or.inr rfl, fun _ => ⟨Lifecycle.noConfusion, Or.inr rfl⟩⟩

/-- Handing messages over touches two fields of the driver. -/
theorem pushAll_driver (e : Endpoint) (ms : List Message) : ∃ b p,
    (e.pushAll ms).driver = { e.driver with backlog := b, pendingError := p } := by
  induction ms generalizing e with
  | nil => exact ⟨e.driver.backlog, e.driver.pendingError, rfl⟩
  | cons m ms ih =>
    obtain ⟨b, p, h⟩ := push_driver e m
    obtain ⟨b', p', h'⟩ := ih (e.push m)
    refine ⟨b', p', ?_⟩
    show ((e.push m).pushAll ms).driver = _
    rw [h', h]

/-- What a driver that joins has to say goes out: its registration, and what waited. -/
def flush (e : Endpoint) (replyTo : String) : Endpoint :=
  let e := { e with driver.connected := true }.push (e.driver.registration replyTo)
  { e with driver.backlog := [] }.pushAll e.driver.backlog

theorem flush_driver (e : Endpoint) (replyTo : String) : ∃ b p,
    (e.flush replyTo).driver =
      { e.driver with connected := true, backlog := b, pendingError := p } := by
  obtain ⟨b, p, h⟩ :=
    push_driver { e with driver.connected := true } (e.driver.registration replyTo)
  unfold flush
  dsimp only
  obtain ⟨b', p', h'⟩ := pushAll_driver _ _
  refine ⟨b', p', ?_⟩
  rw [h', h]

/-- Joining the cluster: too late, without an address, or for good. -/
theorem enter_cases (e : Endpoint) :
    (e.driver.state ≠ .started ∧ e.enter = (.ok (),
      { e.note (.leftEarly e.driver.backlog.length) with driver.backlog := [] })) ∨
    (e.driver.state = .started ∧ ∃ f, e.surroundings.transport.address = .error f ∧
      e.enter = (.error f, { e with driver.connected := true })) ∨
    (e.driver.state = .started ∧ ∃ replyTo, e.surroundings.transport.address = .ok replyTo ∧
      e.enter = (.ok (), ((e.flush replyTo).become .running).note
        (.connected (e.flush replyTo).driver.remote))) := by
  unfold enter
  by_cases hs : e.driver.state = .started
  · rw [if_neg (by simp [hs])]
    cases ha : e.surroundings.transport.address with
    | error f => exact Or.inr (Or.inl ⟨hs, f, rfl, by simp only [ha]⟩)
    | ok replyTo => exact Or.inr (Or.inr ⟨hs, replyTo, rfl, by simp only [ha]; rfl⟩)
  · rw [if_pos hs]
    exact Or.inl ⟨hs, rfl⟩

theorem enter_sound {e : Endpoint} (he : e.Sound) : e.enter.2.Sound := by
  rcases e.enter_cases with ⟨-, h⟩ | ⟨-, f, -, h⟩ | ⟨hs, replyTo, -, h⟩
  · rw [h]; exact ⟨he.unlaunched, he.launched⟩
  · rw [h]; exact ⟨he.unlaunched, he.launched⟩
  · obtain ⟨b, p, hd⟩ := e.flush_driver replyTo
    have hl : e.driver.launched = true := by
      by_contra hl
      rcases he.unlaunched (by simpa using hl) with hc | hc <;> simp [hs] at hc
    have ha := (he.launched hl).2.resolve_right (by simp [hs])
    rw [h]
    refine ⟨fun hf => ?_, fun _ => ⟨Lifecycle.noConfusion, Or.inl ?_⟩⟩
    · have hf : (e.flush replyTo).driver.launched = false := hf
      rw [hd] at hf
      exact absurd (hl.symm.trans hf) Bool.noConfusion
    · show (e.flush replyTo).driver.attached = true
      rw [hd]; exact ha

/-- Handing messages over records that they are passed to the transport, and otherwise asides. -/
theorem pushAll_history (e : Endpoint) (ms : List Message) : ∃ new : List Event,
    (e.pushAll ms).history = new ++ e.history ∧
      ∀ v ∈ new, v.isAside = true ∨ v.passed?.isSome = true := by
  induction ms generalizing e with
  | nil => exact ⟨[], rfl, by simp⟩
  | cons m ms ih =>
    obtain ⟨new, h, hn⟩ := push_history e m
    obtain ⟨new', h', hn'⟩ := ih (e.push m)
    refine ⟨new' ++ new, ?_, fun v hv => ?_⟩
    · show ((e.push m).pushAll ms).history = _
      rw [h', h, List.append_assoc]
    · rcases List.mem_append.mp hv with hv | hv
      · exact hn' v hv
      · exact hn v hv

theorem flush_history (e : Endpoint) (replyTo : String) : ∃ new : List Event,
    (e.flush replyTo).history = new ++ e.history ∧
      ∀ v ∈ new, v.isAside = true ∨ v.passed?.isSome = true := by
  obtain ⟨new, h, hn⟩ :=
    push_history { e with driver.connected := true } (e.driver.registration replyTo)
  unfold flush
  dsimp only
  obtain ⟨new', h', hn'⟩ := pushAll_history _ _
  refine ⟨new' ++ new, ?_, fun v hv => ?_⟩
  · rw [h', h, List.append_assoc]
  · rcases List.mem_append.mp hv with hv | hv
    · exact hn' v hv
    · exact hn v hv

theorem enter_history (e : Endpoint) : e.history <:+ e.enter.2.history := by
  rcases e.enter_cases with ⟨-, h⟩ | ⟨-, f, -, h⟩ | ⟨-, replyTo, -, h⟩
  · rw [h]; exact List.suffix_cons _ _
  · rw [h]
  · obtain ⟨new, hh, -⟩ := e.flush_history replyTo
    rw [h]
    have hs : e.history <:+ (e.flush replyTo).history := by rw [hh]; exact List.suffix_append _ _
    exact (hs.trans (List.suffix_cons _ _)).trans (List.suffix_cons _ _)

theorem enter_launched (e : Endpoint) : e.enter.2.driver.launched = e.driver.launched := by
  rcases e.enter_cases with ⟨-, h⟩ | ⟨-, f, -, h⟩ | ⟨-, replyTo, -, h⟩
  · rw [h]; rfl
  · rw [h]
  · obtain ⟨b, p, hd⟩ := e.flush_driver replyTo
    rw [h]
    show (e.flush replyTo).driver.launched = _
    rw [hd]

/-- A driver that is not new is only ever shut down or destroyed by what callers do. -/
theorem Turns.state_cases {e e' : Endpoint} (h : Turns e e') (hc : e.driver.state ≠ .created) :
    e'.driver.state = e.driver.state ∨ e'.driver.state = .stopped ∨ e'.driver.state = .aborted ∨
      e'.driver.state = .destroyed := by
  induction h with
  | refl => exact Or.inl rfl
  | tail _ ht ih =>
    cases ht with
    | deed hd =>
      rcases hd.state_cases with hs | ⟨-, hs | hs⟩
      · rw [hs]; exact ih
      · exact Or.inr (Or.inl hs)
      · exact Or.inr (Or.inr (Or.inl hs))
    | launch hl => rw [hl] at ih; rcases ih with ih | ih | ih | ih <;> simp_all
    | release => exact Or.inr (Or.inr (Or.inr rfl))

/-- A driver that was shut down stays so. -/
theorem Turns.isShut {e e' : Endpoint} (h : Turns e e') (hs : e.driver.state.isShut = true) :
    e'.driver.state.isShut = true := by
  have hc : e.driver.state ≠ .created := fun hc => by rw [hc] at hs; cases hs
  rcases h.state_cases hc with hx | hx | hx | hx
  · rwa [hx]
  · rw [hx]; rfl
  · rw [hx]; rfl
  · rw [hx]; rfl

/-- Only joining the cluster makes a driver run. -/
theorem Turns.ne_running {e e' : Endpoint} (h : Turns e e') (hr : e.driver.state ≠ .running) :
    e'.driver.state ≠ .running := by
  refine h.keep (P := fun x => x.driver.state ≠ .running) (fun x x' ht hx => ?_) hr
  cases ht with
  | deed hd =>
    rcases hd.state_cases with hs | ⟨-, hs | hs⟩
    · rwa [hs]
    · simp [hs]
    · simp [hs]
  | launch => exact Lifecycle.noConfusion
  | release => exact Lifecycle.noConfusion

theorem Turns.launched {e e' : Endpoint} (h : Turns e e') (hl : e.driver.launched = true) :
    e'.driver.launched = true := by
  refine h.keep (P := fun x => x.driver.launched = true) (fun x x' ht hx => ?_) hl
  cases ht with
  | deed hd => exact hd.launched.1.trans hx
  | launch => rfl
  | release => exact hx

theorem Turns.sound {e e' : Endpoint} (h : Turns e e') (he : e.Sound) : e'.Sound :=
  h.keep (fun _ _ ht hx => ht.sound hx) he

end Endpoint

end ClusterLink
