/-
# Chronicles

Which histories a driver can have. Nearly all that happens leaves the state
of the driver alone and asks something of it (`Event.fits`): messages are
accepted and passed to the transport while the driver is active, callbacks
begin while it is running. The state changes in steps of the documented
machine, but for one more way: a callback that misuses the driver is
followed by the state aborted, whatever it did before.

`History.Grows` is that grammar, and a `Chronicle` is a history that grew
from nothing. Every run of a system writes one (`System.run_recorded`), and
what is said about states, messages and callbacks in `StatePath` and
`Silence` is said about chronicles.

Key definitions: `Event.fits`, `History.Grows`, `Chronicle`,
`Endpoint.Recorded`.
Key theorems: `Endpoint.Turn.recorded`, `System.run_recorded`,
`System.run_chronicle`.
-/
import ClusterLink.Proofs.Course

namespace ClusterLink

/-- Whether the event can happen in a state, which it leaves alone. -/
def Event.fits : Event → Lifecycle → Prop
  | became _, _ => False
  | sent .., s | notSent .., s | accepted .., s => s.isActive = true
  | began slot recorded _ _, s => slot ≠ .error ∧ recorded = .running ∧ s = .running
  | broke _ f, _ => f.isMisuse = false
  | acted op r, s => Tells op r s
  | _, _ => True

theorem Event.fits.state? {v : Event} {s : Lifecycle} (h : v.fits s) : v.state? = none := by
  cases v <;> first | rfl | exact h.elim

theorem Event.fits_of_aside {v : Event} (h : v.isAside = true) (s : Lifecycle) : v.fits s := by
  cases v <;> trivial

theorem Event.fits_of_passed {v : Event} (h : v.passed?.isSome = true) {s : Lifecycle}
    (hs : s.isActive = true) : v.fits s := by
  cases v <;> first | exact hs | cases h

/-- What can become of a history. -/
inductive History.Grows (past : List Event) : List Event → Prop
  | rest : Grows past past
  | happen {v : Event} {h : List Event} (H : Grows past h) (hv : v.fits (state h)) :
    Grows past (v :: h)
  /-- The driver is put in another state, as documented. -/
  | shift {s : Lifecycle} {h : List Event} (H : Grows past h) (hs : (state h).Step s) :
    Grows past (.became s :: h)
  /-- The driver fails, and the error callback begins. -/
  | report {message : WideText} {payload : Datum} {args : List Parameter} {h : List Event}
    (H : Grows past h) (ha : (state h).isActive = true) :
    Grows past (.began .error .aborted payload args :: .became .aborted ::
      .noted (.failed message) :: h)
  /-- A callback misuses the driver. -/
  | misuse {slot : Slot} {f : Failure} {h : List Event} (H : Grows past h)
    (hf : f.isMisuse = true) (hs : state h = .running ∨ state h = .stopped ∨ state h = .aborted) :
    Grows past (.became .aborted :: .broke slot f :: h)

/-- The histories that a driver can have. -/
abbrev Chronicle (h : List Event) : Prop := History.Grows [] h

variable {past : List Event}

/-- What leaves the state alone may happen in a row. -/
theorem History.Grows.append {new h : List Event} (H : Grows past h)
    (hn : ∀ v ∈ new, v.fits (state h)) : Grows past (new ++ h) := by
  induction new with
  | nil => exact H
  | cons v new ih =>
    have hn' : ∀ w ∈ new, w.fits (state h) := fun w hw => hn w (List.mem_cons_of_mem _ hw)
    refine .happen (ih hn') ?_
    show v.fits (state (new ++ h))
    rw [state_append fun w hw => (hn' w hw).state?]
    exact hn v List.mem_cons_self

namespace Endpoint

/-- The history of the driver grew from what it was, and ends in the state that the driver is
in. -/
structure Recorded (past : List Event) (e : Endpoint) : Prop where
  grows : History.Grows past e.history
  state : History.state e.history = e.driver.state

/-- What leaves the state alone is recorded. -/
theorem Recorded.append {e e' : Endpoint} (h : e.Recorded past) (new : List Event)
    (hh : e'.history = new ++ e.history) (hs : e'.driver.state = e.driver.state)
    (hn : ∀ v ∈ new, v.fits e.driver.state) : e'.Recorded past := by
  refine ⟨?_, ?_⟩
  · rw [hh]; exact h.grows.append (by rw [h.state]; exact hn)
  · rw [hh, History.state_append fun v hv => (hn v hv).state?, h.state, hs]

theorem Recorded.happen {e : Endpoint} (h : e.Recorded past) {v : Event}
    (hv : v.fits e.driver.state) : (e.record v).Recorded past :=
  h.append [v] rfl rfl (by simpa using hv)

/-- A documented change of state is recorded. -/
theorem Recorded.become {e : Endpoint} (h : e.Recorded past) {s : Lifecycle}
    (hs : e.driver.state.Step s) : (e.become s).Recorded past :=
  ⟨.shift h.grows (by rw [h.state]; exact hs), rfl⟩

theorem Recorded.push {e : Endpoint} (h : e.Recorded past) (m : Message)
    (ha : e.driver.state.isActive = true) : (e.push m).Recorded past := by
  obtain ⟨new, hh, hn⟩ := push_history e m
  refine h.append new hh (push_state e m) fun v hv => ?_
  rcases hn v hv with hv | hv
  · exact Event.fits_of_aside hv _
  · exact Event.fits_of_passed hv ha

theorem Recorded.pushAll {e : Endpoint} (h : e.Recorded past) (ms : List Message)
    (ha : e.driver.state.isActive = true) : (e.pushAll ms).Recorded past := by
  induction ms generalizing e with
  | nil => exact h
  | cons m ms ih => exact ih (h.push m ha) (by simpa using ha)

theorem Deed.recorded {e e' : Endpoint} (h : Deed e e') (he : e.Recorded past) :
    e'.Recorded past := by
  cases h with
  | aside h => exact he.happen (Event.fits_of_aside h _)
  | submit why m h =>
    have hr : (e.record (.accepted why m)).Recorded past := he.happen h
    exact hr.push m h
  | halt h hs =>
    rcases hs with rfl | rfl
    · exact he.become (.stop h)
    · exact he.become (.abort h)
  | begin args h hs => exact he.happen ⟨hs, rfl, h⟩
  | act h => exact he.happen h
  | report h hb => exact ⟨.report he.grows (by rw [he.state]; exact h), rfl⟩
  | fall h => exact he.happen h
  | misuse h hs => exact ⟨.misuse he.grows h (by rw [he.state]; exact hs), rfl⟩
  | _ => exact ⟨he.grows, he.state⟩

theorem Turn.recorded {e e' : Endpoint} (h : Turn e e') (he : e.Recorded past) :
    e'.Recorded past := by
  cases h with
  | deed h => exact h.recorded he
  | launch h =>
    have hr :
        ({ e with driver.attached := true, driver.launched := true } : Endpoint).Recorded past :=
      ⟨he.grows, he.state⟩
    exact hr.become (h ▸ .start)
  | release h =>
    have hr :
        ({ e with driver.attached := false, driver.backlog := [] } : Endpoint).Recorded past :=
      ⟨he.grows, he.state⟩
    exact hr.become (.destroy _)

theorem Recorded.flush {e : Endpoint} (h : e.Recorded past) (replyTo : String)
    (hs : e.driver.state = .started) : (e.flush replyTo).Recorded past := by
  have hc : ({ e with driver.connected := true } : Endpoint).Recorded past := ⟨h.grows, h.state⟩
  have hp := hc.push (e.driver.registration replyTo) (by simp [hs, Lifecycle.isActive])
  have hq : ({ ({ e with driver.connected := true } : Endpoint).push
      (e.driver.registration replyTo) with driver.backlog := [] } : Endpoint).Recorded past :=
    ⟨hp.grows, hp.state⟩
  exact hq.pushAll _ (by simp [hs, Lifecycle.isActive])

theorem flush_state (e : Endpoint) (replyTo : String) :
    (e.flush replyTo).driver.state = e.driver.state := by
  obtain ⟨b, p, h⟩ := e.flush_driver replyTo
  rw [h]

theorem Recorded.enter {e : Endpoint} (he : e.Recorded past) : e.enter.2.Recorded past := by
  rcases e.enter_cases with ⟨-, h⟩ | ⟨-, f, -, h⟩ | ⟨hs, replyTo, -, h⟩
  · rw [h]
    have hn : (e.note (.leftEarly e.driver.backlog.length)).Recorded past := he.happen trivial
    exact ⟨hn.grows, hn.state⟩
  · rw [h]; exact ⟨he.grows, he.state⟩
  · rw [h]
    have hr := (he.flush replyTo hs).become
      (by rw [flush_state, hs]; exact Lifecycle.Step.connect)
    exact hr.happen (v := .noted _) trivial

end Endpoint

namespace System

theorem Begins.recorded {s : System} (h : s.Begins) : s.endpoint.Recorded [] := by
  obtain ⟨a, remote, ha⟩ := h.made
  refine ⟨by rw [h.history]; exact .rest, ?_⟩
  rw [h.history]
  exact (Application.driver_new ha).state.symm

/-- Every run continues the history as it may be continued. -/
theorem run_recorded {s : System} (h : s.Sound) (hr : s.endpoint.Recorded past)
    (moves : List Move) : (s.run moves).endpoint.Recorded past :=
  run_keeps (fun _ _ ht he => ht.recorded he) (fun _ _ he => he.enter) h hr moves

/-- Every run writes a chronicle. -/
theorem run_chronicle {s : System} (h : s.Begins) (moves : List Move) :
    (s.run moves).endpoint.Recorded [] := run_recorded h.sound h.recorded moves

end System

end ClusterLink
