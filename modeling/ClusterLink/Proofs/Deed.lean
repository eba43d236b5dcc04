/-
# Deeds

Everything that a driver does while its lock is held is a row of deeds:
small changes of an endpoint, each with the condition under which the driver
does it. The conditions are what the guards of the operations come to: a
message is accepted only while the driver is active, a callback begins only
while it is running, and so on. What holds after every deed whose condition
was met holds after every operation.

A driver is launched and released once in its life, by calls from outside;
with these a deed is a turn. Joining the cluster is neither
(`Endpoint.enter`), as it sends a message that was not accepted.

Key definitions: `Endpoint.Deed`, `Endpoint.Deeds`, `Endpoint.Turn`.
Key theorems: `Endpoint.order_deeds`, `Endpoint.region_turns`,
`Endpoint.conduct_deeds`.
-/
import ClusterLink.Proofs.Answers
import ClusterLink.Proofs.History
import ClusterLink.Proofs.Reach
import Mathlib.Logic.Relation

namespace ClusterLink

namespace Endpoint

/-! ### Handing messages over -/

/-- Handing over a message touches two fields of the driver. -/
theorem push_driver (e : Endpoint) (m : Message) : ∃ b p,
    (e.push m).driver = { e.driver with backlog := b, pendingError := p } := by
  unfold push
  split
  · exact ⟨_, e.driver.pendingError, rfl⟩
  · split
    · exact ⟨e.driver.backlog, e.driver.pendingError, rfl⟩
    · unfold transmit
      dsimp only
      split
      · exact ⟨e.driver.backlog, e.driver.pendingError, rfl⟩
      · exact ⟨e.driver.backlog, _, rfl⟩

/-- Handing a message over takes time, if at all. -/
theorem push_clock (e : Endpoint) (m : Message) :
    e.surroundings.clock ≤ (e.push m).surroundings.clock := by
  have hlag : ∀ x : Endpoint, x.surroundings.clock ≤ x.lag.surroundings.clock := fun x =>
    Int.le_add_of_nonneg_right (Int.natCast_nonneg _)
  unfold push
  split
  · exact Int.le_refl _
  split
  · exact Int.le_refl _
  · unfold transmit
    dsimp only
    split <;> exact hlag _

theorem submit_clock (e : Endpoint) (why : Cause) (m : Message) :
    e.surroundings.clock ≤ (e.submit why m).surroundings.clock :=
  push_clock (e.record (.accepted why m)) m

@[simp] theorem push_state (e : Endpoint) (m : Message) :
    (e.push m).driver.state = e.driver.state := by
  obtain ⟨b, p, h⟩ := push_driver e m
  rw [h]

@[simp] theorem push_connected (e : Endpoint) (m : Message) :
    (e.push m).driver.connected = e.driver.connected := by
  obtain ⟨b, p, h⟩ := push_driver e m
  rw [h]

/-- Once the driver is connected, what is handed over does not wait. -/
theorem push_backlog {e : Endpoint} (hc : e.driver.connected = true) (m : Message) :
    (e.push m).driver.backlog = e.driver.backlog := by
  rw [push, if_neg (by simp [hc])]
  split
  · rfl
  · unfold transmit
    dsimp only
    split <;> rfl

theorem pushAll_backlog {e : Endpoint} (hc : e.driver.connected = true) (ms : List Message) :
    (e.pushAll ms).driver.backlog = e.driver.backlog := by
  induction ms generalizing e with
  | nil => rfl
  | cons m ms ih => exact (ih ((push_connected e m).trans hc)).trans (push_backlog hc m)

@[simp] theorem submit_state (e : Endpoint) (why : Cause) (m : Message) :
    (e.submit why m).driver.state = e.driver.state := push_state _ m

theorem useTransport_history {α : Type} (e : Endpoint)
    (f : Transport → Except Failure α × Transport) :
    ∃ cs : List LibraryCall, (e.useTransport f).2.history = cs.map .called ++ e.history :=
  ⟨_, rfl⟩

/-- A message that is given to the transport goes out, or its failure is kept. -/
theorem transmit_history (e : Endpoint) (m : Message) : ∃ cs : List LibraryCall,
    (∃ b d, (e.transmit m).history = .sent m b d :: (cs.map .called ++ e.history) ∧
      (e.transmit m).driver.pendingError = e.driver.pendingError) ∨
    (∃ f b d, (e.transmit m).history =
        .noted (.sendFailed m) :: .notSent m f b d :: (cs.map .called ++ e.history) ∧
      (e.transmit m).driver.pendingError = some f) := by
  unfold transmit
  dsimp only
  split
  · exact ⟨_, Or.inl ⟨_, _, rfl, rfl⟩⟩
  · exact ⟨_, Or.inr ⟨_, _, _, rfl, rfl⟩⟩

theorem isAside_of_mem_called {cs : List LibraryCall} {v : Event}
    (hv : v ∈ cs.map Event.called) : v.isAside = true := by
  obtain ⟨c, -, rfl⟩ := List.mem_map.mp hv
  rfl

/-- Handing a message over records that it is passed to the transport, and otherwise asides. -/
theorem push_history (e : Endpoint) (m : Message) : ∃ new : List Event,
    (e.push m).history = new ++ e.history ∧
      ∀ v ∈ new, v.isAside = true ∨ v.passed?.isSome = true := by
  unfold push
  split
  · exact ⟨[], rfl, by simp⟩
  split
  · exact ⟨[.noted (.withheld m)], rfl, by simp [Event.isAside]⟩
  obtain ⟨cs, ⟨b, d, h, -⟩ | ⟨f, b, d, h, -⟩⟩ := transmit_history (e.note (.sending m)) m
  · refine ⟨.sent m b d :: (cs.map .called ++ [.noted (.sending m)]), ?_, fun v hv => ?_⟩
    · rw [h]; simp [note, record]
    · simp only [List.mem_cons, List.mem_append, List.not_mem_nil, or_false] at hv
      rcases hv with rfl | hv | rfl
      · exact Or.inr rfl
      · exact Or.inl (isAside_of_mem_called hv)
      · exact Or.inl rfl
  · refine ⟨.noted (.sendFailed m) :: .notSent m f b d ::
      (cs.map .called ++ [.noted (.sending m)]), ?_, fun v hv => ?_⟩
    · rw [h]; simp [note, record]
    · simp only [List.mem_cons, List.mem_append, List.not_mem_nil, or_false] at hv
      rcases hv with rfl | rfl | hv | rfl
      · exact Or.inl rfl
      · exact Or.inr rfl
      · exact Or.inl (isAside_of_mem_called hv)
      · exact Or.inl rfl

/-- What can be told about the transport's address can be told after a message was handed over. -/
theorem push_keeps (e : Endpoint) (m : Message) :
    e.surroundings.transport.Keeps (e.push m).surroundings.transport := by
  unfold push
  split
  · exact .refl _
  split
  · exact .refl _
  unfold transmit
  dsimp only
  split <;> exact Transport.keeps_send m _

/-! ### Deeds -/

/-- The driver is launched. -/
def launch (e : Endpoint) : Endpoint :=
  { e with driver.attached := true, driver.launched := true }.become .started

/-- The driver is released. -/
def release (e : Endpoint) : Endpoint :=
  { e with driver.attached := false, driver.backlog := [] }.become .destroyed

/-- One thing that a driver does while its lock is held. -/
inductive Deed : Endpoint → Endpoint → Prop
  /-- Something happens that has no part in the states, messages and callbacks of the driver. -/
  | aside {e : Endpoint} {v : Event} (h : v.isAside = true) : Deed e (e.record v)
  | surround {e : Endpoint} {w : Surroundings}
      (h : e.surroundings.transport.Keeps w.transport) : Deed e { e with surroundings := w }
  | ledger {e : Endpoint} (l : Ledger) : Deed e { e with driver.inflight := l }
  | identify {e : Endpoint} (f : Bytes) : Deed e { e with driver.frameworkId := f }
  | submit {e : Endpoint} (why : Cause) (m : Message) (h : e.driver.state.isActive = true) :
    Deed e (e.submit why m)
  /-- The driver is stopped or aborted. -/
  | halt {e : Endpoint} {s : Lifecycle} (h : e.driver.state.isActive = true)
      (hs : s = .stopped ∨ s = .aborted) : Deed e (e.become s)
  | begin {e : Endpoint} {slot : Slot} (args : List Parameter) (h : e.driver.state = .running)
      (hs : slot ≠ .error) : Deed e (e.record (.began slot .running e.driver.payload args))
  /-- The driver fails, and the error callback begins. -/
  | report {e : Endpoint} {message : WideText} {b : Bytes} (h : e.driver.state.isActive = true)
      (hb : message.utf8? = some b) :
    Deed e (((e.note (.failed message)).become .aborted).record
      (.began .error .aborted e.driver.payload [.envelope b]))
  /-- A callback made a call. -/
  | act {e : Endpoint} {op : String} {r : Except Failure Answer} (h : Tells op r e.driver.state) :
    Deed e (e.record (.acted op r))
  /-- A callback fails in an ordinary way. -/
  | fall {e : Endpoint} {slot : Slot} {f : Failure} (h : f.isMisuse = false) :
    Deed e (e.record (.broke slot f))
  /-- A callback misuses the driver. -/
  | misuse {e : Endpoint} {slot : Slot} {f : Failure} (h : f.isMisuse = true)
      (hs : e.driver.state = .running ∨ e.driver.state = .stopped ∨ e.driver.state = .aborted) :
    Deed e ((e.record (.broke slot f)).become .aborted)
  /-- A driver that is shut down leaves the cluster. -/
  | withdraw {e : Endpoint} (h : e.driver.state.isActive = false) (hc : e.driver.state ≠ .created) :
    Deed e { e with driver.connected := false, driver.backlog := [] }
  | conclude {e : Endpoint} (s : Status) : Deed e { e with driver.finalStatus := some s }
  | signal {e : Endpoint} : Deed e { e with driver.done := true }

/-- A row of deeds. -/
abbrev Deeds : Endpoint → Endpoint → Prop := Relation.ReflTransGen Deed

/-- A deed, or the launch or the release of the driver. -/
inductive Turn : Endpoint → Endpoint → Prop
  | deed {e e' : Endpoint} (h : Deed e e') : Turn e e'
  | launch {e : Endpoint} (h : e.driver.state = .created) : Turn e e.launch
  | release {e : Endpoint} (h : e.driver.state ≠ .destroyed) : Turn e e.release

/-- A row of turns. -/
abbrev Turns : Endpoint → Endpoint → Prop := Relation.ReflTransGen Turn

theorem Deed.one {e e' : Endpoint} (h : Deed e e') : Deeds e e' := .single h

theorem Turn.one {e e' : Endpoint} (h : Turn e e') : Turns e e' := .single h

theorem Deeds.turns {e e' : Endpoint} (h : Deeds e e') : Turns e e' :=
  Relation.ReflTransGen.mono (fun _ _ => Turn.deed) _ _ h

/-- A property that every turn keeps is kept by a row of them. -/
theorem Turns.keep {P : Endpoint → Prop} (hP : ∀ e e', Turn e e' → P e → P e')
    {e e' : Endpoint} (h : Turns e e') (he : P e) : P e' := by
  induction h with
  | refl => exact he
  | tail _ ht ih => exact hP _ _ ht ih

/-- Deeds neither launch nor release a driver. -/
theorem Deed.launched {e e' : Endpoint} (h : Deed e e') :
    e'.driver.launched = e.driver.launched ∧ e'.driver.attached = e.driver.attached := by
  cases h with
  | submit why m h =>
    obtain ⟨b, p, hp⟩ := push_driver (e.record (.accepted why m)) m
    unfold Endpoint.submit
    rw [hp]
    exact ⟨rfl, rfl⟩
  | _ => exact ⟨rfl, rfl⟩

/-- Deeds only ever shut a driver down. -/
theorem Deed.state_cases {e e' : Endpoint} (h : Deed e e') :
    e'.driver.state = e.driver.state ∨
      (e.driver.state ≠ .created ∧ e.driver.state ≠ .destroyed) ∧
        (e'.driver.state = .stopped ∨ e'.driver.state = .aborted) := by
  cases h with
  | submit why m h => exact Or.inl (submit_state e why m)
  | halt h hs =>
    exact Or.inr ⟨by constructor <;> intro hc <;> simp [hc, Lifecycle.isActive] at h, hs⟩
  | report h hb =>
    exact Or.inr ⟨by constructor <;> intro hc <;> simp [hc, Lifecycle.isActive] at h, Or.inr rfl⟩
  | misuse h hs =>
    exact Or.inr ⟨by rcases hs with hs | hs | hs <;> simp [hs], Or.inr rfl⟩
  | _ => exact Or.inl rfl

/-- A property that every deed keeps is kept by a row of them. -/
theorem Deeds.keep {P : Endpoint → Prop} (hP : ∀ e e', Deed e e' → P e → P e')
    {e e' : Endpoint} (h : Deeds e e') (he : P e) : P e' := by
  induction h with
  | refl => exact he
  | tail _ hd ih => exact hP _ _ hd ih

theorem Deeds.launched {e e' : Endpoint} (h : Deeds e e') :
    e'.driver.launched = e.driver.launched ∧ e'.driver.attached = e.driver.attached :=
  h.keep
    (P := fun x => x.driver.launched = e.driver.launched ∧ x.driver.attached = e.driver.attached)
    (fun _ _ hd hx => ⟨hd.launched.1.trans hx.1, hd.launched.2.trans hx.2⟩) ⟨rfl, rfl⟩

theorem Deeds.state_cases {e e' : Endpoint} (h : Deeds e e') :
    e'.driver.state = e.driver.state ∨
      (e.driver.state ≠ .created ∧ e.driver.state ≠ .destroyed) ∧
        (e'.driver.state = .stopped ∨ e'.driver.state = .aborted) := by
  induction h with
  | refl => exact Or.inl rfl
  | tail _ hd ih =>
    rcases hd.state_cases with hs | ⟨hs, hs'⟩
    · rw [hs]; exact ih
    · rcases ih with ih | ⟨ih, -⟩
      · exact Or.inr ⟨by rwa [ih] at hs, hs'⟩
      · exact Or.inr ⟨ih, hs'⟩

/-- The history only grows. -/
theorem Deed.history {e e' : Endpoint} (h : Deed e e') : e.history <:+ e'.history := by
  cases h with
  | submit why m h =>
    obtain ⟨new, hh, -⟩ := push_history (e.record (.accepted why m)) m
    unfold Endpoint.submit
    rw [hh]
    exact (List.suffix_cons _ _).trans (List.suffix_append _ _)
  | report h hb =>
    exact ((List.suffix_cons _ _).trans (List.suffix_cons _ _)).trans (List.suffix_cons _ _)
  | misuse h hs => exact (List.suffix_cons _ _).trans (List.suffix_cons _ _)
  | aside | halt | begin | act | fall => exact List.suffix_cons _ _
  | _ => exact List.suffix_refl _

theorem Turn.history {e e' : Endpoint} (h : Turn e e') : e.history <:+ e'.history := by
  cases h with
  | deed h => exact h.history
  | launch h => exact List.suffix_cons _ _
  | release h => exact List.suffix_cons _ _

theorem Turns.history {e e' : Endpoint} (h : Turns e e') : e.history <:+ e'.history :=
  h.keep (P := fun x => e.history <:+ x.history) (fun _ _ ht hx => hx.trans ht.history)
    (List.suffix_refl _)

/-- What can be told about the transport's address can be told later. -/
theorem Deed.keeps {e e' : Endpoint} (h : Deed e e') :
    e.surroundings.transport.Keeps e'.surroundings.transport := by
  cases h with
  | surround h => exact h
  | submit why m h => exact push_keeps (e.record (.accepted why m)) m
  | _ => exact .refl _

theorem Turns.keeps {e e' : Endpoint} (h : Turns e e') :
    e.surroundings.transport.Keeps e'.surroundings.transport := by
  refine h.keep (P := fun x => e.surroundings.transport.Keeps x.surroundings.transport)
    (fun x x' ht hx => hx.trans ?_) (.refl _)
  cases ht with
  | deed h => exact h.keeps
  | launch => exact .refl _
  | release => exact .refl _

theorem note_deeds (e : Endpoint) (n : Note) : Deeds e (e.note n) := (Deed.aside rfl).one

/-- A row of asides. -/
theorem asides_deeds (e : Endpoint) {vs : List Event} (h : ∀ v ∈ vs, v.isAside = true) :
    Deeds e { e with history := vs ++ e.history } := by
  induction vs with
  | nil => exact .refl
  | cons v vs ih =>
    exact (ih fun w hw => h w (List.mem_cons_of_mem _ hw)).tail (.aside (h v List.mem_cons_self))

/-- Using the transport. -/
theorem useTransport_deeds {α : Type} (e : Endpoint)
    (f : Transport → Except Failure α × Transport)
    (hf : e.surroundings.transport.Keeps (f e.surroundings.transport).2) :
    Deeds e (e.useTransport f).2 := by
  have h1 : Deed e { e with surroundings.transport := (f e.surroundings.transport).2 } :=
    .surround hf
  exact h1.one.trans (asides_deeds _ fun v hv => isAside_of_mem_called hv)

/-! ### Commands and lifecycle calls -/

theorem enroll_deeds (e : Endpoint) (status : Bytes) : Deeds e (e.enroll status) := by
  have h1 : Deed e { e with surroundings.drawn := e.surroundings.drawn + 1 } :=
    .surround (.refl _)
  exact h1.one.tail (.ledger _)

theorem issue_deeds {e : Endpoint} (c : Command) (h : e.driver.state.isActive = true) :
    Deeds e (e.issue c) := by
  cases c with
  | updateStatus s => exact (enroll_deeds e s).tail (.submit _ _ h)
  | _ => exact (Deed.submit _ _ h).one

theorem order_deeds (e : Endpoint) (c : Command) : Deeds e (e.order c).2 := by
  unfold order
  split
  · exact .refl
  split
  · exact note_deeds _ _
  · exact issue_deeds c (by simp_all)

/-- An active driver is stopped or aborted, and that is noted. -/
theorem halt_note_deeds {e : Endpoint} {s : Lifecycle} (n : Note)
    (h : e.driver.state.isActive = true) (hs : s = .stopped ∨ s = .aborted) :
    Deeds e ((e.become s).note n) :=
  (Deed.halt h hs).one.trans (note_deeds _ _)

theorem stop_deeds (e : Endpoint) (failover : Bool) : Deeds e (e.stop failover).2 := by
  unfold stop
  split
  · exact .refl
  split
  · exact note_deeds _ _
  rename_i h
  have h : e.driver.state.isActive = true := by simpa using h
  dsimp only
  split
  · rename_i m _
    exact (Deed.submit .farewell m h).one.trans
      (halt_note_deeds _ (by simpa using h) (Or.inl rfl))
  · exact halt_note_deeds _ h (Or.inl rfl)

theorem abort_deeds (e : Endpoint) : Deeds e e.abort.2 := by
  unfold abort
  split
  · exact .refl
  split
  · exact note_deeds _ _
  · exact halt_note_deeds _ (by simp_all) (Or.inr rfl)

theorem breakOff_deeds (e : Endpoint) : Deeds e e.breakOff := by
  unfold breakOff
  split
  · rename_i h
    exact (Deed.halt h (Or.inr rfl)).one
  · exact .refl

theorem condemn_deeds (e : Endpoint) : Deeds e e.condemn := by
  unfold condemn
  split
  · rename_i h
    exact (note_deeds _ _).tail (.halt h (Or.inr rfl))
  · exact .refl

/-- A driver that is not new is not started. -/
theorem start_deeds {e : Endpoint} (h : e.driver.state ≠ .created) : Deeds e e.start.2 := by
  unfold start
  by_cases hd : e.driver.state = .destroyed
  · rw [if_pos hd]
  · rw [if_neg hd, if_pos h]
    exact note_deeds _ _

/-- Making a transport takes one outcome off the list. -/
theorem making_deeds (e : Endpoint) (fs : List (Option Failure)) :
    Deeds e { e with surroundings.making := fs } := by
  have h1 : Deed e { e with surroundings := { e.surroundings with making := fs } } :=
    .surround (.refl _)
  exact h1.one

theorem start_turns (e : Endpoint) : Turns e e.start.2 := by
  by_cases h : e.driver.state = .created
  · unfold start
    rw [if_neg (by rw [h]; decide), if_neg (by simp [h])]
    have h1 := making_deeds e e.surroundings.making.tail
    dsimp only
    split
    · exact h1.turns
    · let made := { e with surroundings.making := e.surroundings.making.tail }.record
        (.transportMade e.driver.remote)
      have h2 : Deeds e made := h1.tail (.aside rfl)
      have hm : made.driver.state = .created := h
      have h3 : Turns made (made.launch.note (.started e.driver.remote)) :=
        (Turn.launch hm).one.trans (note_deeds _ _).turns
      exact h2.turns.trans h3
  · exact (start_deeds h).turns

theorem destroy_turns (e : Endpoint) : Turns e e.destroy.2 := by
  unfold destroy
  split
  · exact .refl
  · rename_i h
    exact (Turn.release h).one.trans (note_deeds _ _).turns

/-! ### Regions -/

/-- Whether a start is followed by a join has no part in what it does. -/
theorem region_start (e : Endpoint) (inside thenJoin : Bool) :
    (e.region inside (.start thenJoin)).2 = e.start.2 := by
  simp only [region]
  split
  · rename_i h
    rw [h]
    split <;> rfl
  · rfl

theorem region_join (e : Endpoint) (inside : Bool) : (e.region inside .join).2 = e := by
  simp only [region]
  split
  · rfl
  split
  · rfl
  split <;> rfl

theorem region_condemn_deeds (e : Endpoint) (inside : Bool) :
    Deeds e (e.region inside .condemn).2 := by
  simp only [region]
  split
  · exact .refl
  split
  · exact .refl
  · exact condemn_deeds e

theorem region_turnDown_deeds (e : Endpoint) (inside : Bool) (op : String) :
    Deeds e (e.region inside (.turnDown op)).2 := by
  simp only [region]
  split
  · exact .refl
  · exact note_deeds _ _

/-- What is done in a region, but for starting a new driver and for the end of destruction. -/
theorem region_deeds {e : Endpoint} (inside : Bool) {r : Region}
    (hs : e.driver.state = .created → ∀ thenJoin, r ≠ .start thenJoin) (hr : r ≠ .destroy) :
    Deeds e (e.region inside r).2 := by
  cases r with
  | start thenJoin =>
    rw [region_start]
    exact start_deeds fun h => hs h thenJoin rfl
  | stop failover => exact stop_deeds e failover
  | abort => exact abort_deeds e
  | join => rw [region_join]
  | condemn => exact region_condemn_deeds e inside
  | destroy => exact absurd rfl hr
  | give c => exact order_deeds e c
  | turnDown op => exact region_turnDown_deeds e inside op
  | state => exact .refl
  | status => exact .refl

theorem region_turns (e : Endpoint) (inside : Bool) (r : Region) :
    Turns e (e.region inside r).2 := by
  by_cases hd : r = .destroy
  · subst hd
    exact destroy_turns e
  by_cases hs : ∃ thenJoin, r = .start thenJoin
  · obtain ⟨thenJoin, rfl⟩ := hs
    rw [region_start]
    exact start_turns e
  · exact (region_deeds inside (fun _ j hj => hs ⟨j, hj⟩) hd).turns

/-- A region is followed by another one only on starting a new driver, and on the way to the end
of destruction, which is not taken inside. -/
theorem region_region {e e' : Endpoint} {r r' : Region}
    (h : e.region true r = (.region r', e')) : e.driver.state = .created := by
  cases r with
  | start thenJoin =>
    by_contra hc
    unfold region start at h
    by_cases hd : e.driver.state = .destroyed
    · simp [hd, reported] at h
    · simp [hd, hc, refuse, reported] at h
  | join =>
    simp only [region] at h
    split at h
    · simp at h
    · split at h <;> simp at h
  | condemn =>
    simp only [region] at h
    split at h <;> simp at h
  | turnDown op =>
    simp only [region] at h
    split at h <;> simp at h
  | _ => simp [region, reported] at h

/-- What a callback's call does: it neither launches nor releases the driver. -/
theorem conduct_deeds {e : Endpoint} {errand : Errand} (h : e.driver.state ≠ .created)
    (hr : errand ≠ .region .destroy) : Deeds e (e.conduct errand).2 := by
  cases errand with
  | region r =>
    have h1 := region_deeds true (fun hc => absurd hc h) (e := e) (r := r)
      (by rintro rfl; exact hr rfl)
    unfold conduct
    dsimp only
    split
    · rename_i hreg
      exact absurd (region_region hreg) h
    · rename_i hreg
      rw [hreg] at h1
      exact h1
  | _ => exact .refl

/-! ### The dispatch thread -/

/-- An update that can be announced is noted, and that is all. -/
theorem announce_eq {e x : Endpoint} {u : Update} (h : e.announce u = .ok x) :
    x = e.note (.resending u.uuid (e.surroundings.clock - u.stamp)) := by
  unfold announce at h
  dsimp only at h
  split at h
  · cases h
  · exact (Except.ok.inj h).symm

/-- An update that is due is handed over and stamped, perhaps after a note; one that has to be
announced and cannot be is the end. -/
theorem resendFrom_due (e : Endpoint) {due : Update → Bool} (announced : Bool) {u : Update}
    (us : Ledger) (hu : due u = true) :
    (announced = true ∧ ∃ f, e.announce u = .error f ∧
      e.resendFrom due announced (u :: us) = (.error f, e, u :: us)) ∨
    ∃ x, (x = e ∨ ∃ n, x = e.note n) ∧
      e.resendFrom due announced (u :: us) =
        (((x.submit .resend u.message).resendFrom due announced us).1,
          ((x.submit .resend u.message).resendFrom due announced us).2.1,
          { u with stamp := (x.submit .resend u.message).surroundings.clock } ::
            ((x.submit .resend u.message).resendFrom due announced us).2.2) := by
  cases announced with
  | false =>
    refine Or.inr ⟨e, Or.inl rfl, ?_⟩
    simp only [resendFrom, hu, if_true, Bool.false_eq_true, if_false]
  | true =>
    cases ha : e.announce u with
    | error f => exact Or.inl ⟨rfl, f, rfl, by simp only [resendFrom, hu, if_true, ha]⟩
    | ok x =>
      refine Or.inr ⟨x, Or.inr ⟨_, announce_eq ha⟩, ?_⟩
      simp only [resendFrom, hu, if_true, ha]

theorem resendFrom_not_due (e : Endpoint) {due : Update → Bool} (announced : Bool) {u : Update}
    (us : Ledger) (hu : ¬ due u = true) : e.resendFrom due announced (u :: us) =
      ((e.resendFrom due announced us).1, (e.resendFrom due announced us).2.1,
        u :: (e.resendFrom due announced us).2.2) := by
  simp only [resendFrom, hu, Bool.false_eq_true, if_false]

/-- What notes and handing updates over keep is kept in sending them again. -/
theorem resendFrom_keeps {P : Endpoint → Prop} (hnote : ∀ x n, P x → P (x.note n))
    (hsubmit : ∀ x (u : Update), P x → P (x.submit .resend u.message)) {e : Endpoint}
    (due : Update → Bool) (announced : Bool) (us : Ledger) (h : P e) :
    P (e.resendFrom due announced us).2.1 := by
  induction us generalizing e with
  | nil => exact h
  | cons u us ih =>
    by_cases hu : due u = true
    · rcases e.resendFrom_due announced us hu with ⟨-, f, -, he⟩ | ⟨x, hx, he⟩ <;> rw [he]
      · exact h
      · refine ih (hsubmit x u ?_)
        rcases hx with rfl | ⟨n, rfl⟩
        · exact h
        · exact hnote e n h
    · rw [e.resendFrom_not_due announced us hu]
      exact ih h

/-- Sending again leaves the state of an active driver alone. -/
theorem resendFrom_deeds {e : Endpoint} (due : Update → Bool) (announced : Bool) (us : Ledger)
    (h : e.driver.state.isActive = true) : Deeds e (e.resendFrom due announced us).2.1 ∧
      (e.resendFrom due announced us).2.1.driver.state = e.driver.state :=
  resendFrom_keeps (P := fun x => Deeds e x ∧ x.driver.state = e.driver.state)
    (fun x n ⟨hd, hs⟩ => ⟨hd.trans (note_deeds x n), hs⟩)
    (fun x u ⟨hd, hs⟩ => ⟨hd.tail (.submit .resend u.message (by rw [hs]; exact h)),
      (submit_state x _ _).trans hs⟩) due announced us ⟨.refl, rfl⟩

theorem resend_deeds {e : Endpoint} (due : Update → Bool) (announced : Bool)
    (h : e.driver.state.isActive = true) : Deeds e (e.resend due announced).2 ∧
      (e.resend due announced).2.driver.state = e.driver.state := by
  obtain ⟨hd, hs⟩ := resendFrom_deeds due announced e.driver.inflight h
  exact ⟨hd.tail (.ledger _), hs⟩

theorem tick_deeds {e : Endpoint} (h : e.driver.state.isActive = true) : Deeds e e.tick.2 := by
  unfold tick
  split
  · exact .refl
  split
  · exact .refl
  · exact (resend_deeds _ _ h).1

theorem prepare_deeds {e : Endpoint} (m : Message) (h : e.driver.state.isActive = true) :
    Deeds e (e.prepare m) ∧ (e.prepare m).driver.state = e.driver.state := by
  unfold prepare
  split
  · exact ⟨(Deed.identify _).one, rfl⟩
  · exact resend_deeds _ _ h
  · exact ⟨.refl, rfl⟩

theorem conclude_deeds (e : Endpoint) (m : Message) : Deeds e (e.conclude m) := by
  unfold conclude
  split
  · split
    · rename_i h
      exact (Deed.submit _ _ h.2).one
    · exact .refl
  · split
    · exact abort_deeds e
    · exact .refl
  · exact .refl

theorem settle_deeds (e : Endpoint) (uuid : Bytes) : Deeds e (e.settle uuid) := by
  unfold settle
  split
  · exact (Deed.ledger _).one
  · exact note_deeds _ _

theorem connectStart_deeds (e : Endpoint) : Deeds e e.connectStart.2 := by
  have h1 : Deed e (e.record .connecting) := .aside rfl
  exact h1.one.trans (useTransport_deeds _ _ (Transport.keeps_connectStart _))

theorem connectEnd_deeds (e : Endpoint) : Deeds e e.connectEnd.2 := by
  have h1 := useTransport_deeds e Transport.connectEnd (Transport.keeps_connectEnd _)
  unfold connectEnd
  dsimp only
  split
  · exact h1
  · split
    · exact h1.tail (.aside rfl)
    · exact (h1.tail (.aside rfl)).tail (.aside rfl)

@[simp] theorem connectEnd_driver (e : Endpoint) : e.connectEnd.2.driver = e.driver := by
  unfold connectEnd
  dsimp only
  split
  · rfl
  · split <;> rfl

theorem closeTransport_deeds (e : Endpoint) : Deeds e e.closeTransport := by
  have h1 := useTransport_deeds e Transport.close (Transport.keeps_close _)
  unfold closeTransport
  dsimp only
  split
  · exact h1.tail (.aside rfl)
  · exact (h1.tail (.aside rfl)).tail (.aside rfl)

@[simp] theorem closeTransport_driver (e : Endpoint) : e.closeTransport.driver = e.driver := by
  unfold closeTransport
  dsimp only
  split <;> rfl

/-- Breaking off leaves no driver active. -/
theorem breakOff_inactive (e : Endpoint) : e.breakOff.driver.state.isActive = false := by
  unfold breakOff
  split
  · rfl
  · rename_i h
    simpa using h

/-- Breaking off touches no new driver. -/
theorem breakOff_state {e : Endpoint} (h : e.driver.state ≠ .created) :
    e.breakOff.driver.state.isActive = false ∧ e.breakOff.driver.state ≠ .created := by
  refine ⟨e.breakOff_inactive, ?_⟩
  unfold breakOff
  split
  · exact Lifecycle.noConfusion
  · exact h

theorem leave_deeds {e : Endpoint} (h : e.driver.state ≠ .created) : Deeds e e.leave := by
  obtain ⟨hi, hc⟩ := breakOff_state h
  have h1 := ((breakOff_deeds e).tail (.withdraw hi hc)).tail
    (.conclude e.breakOff.driver.state.status)
  exact h1.trans (closeTransport_deeds _)

theorem leave_state (e : Endpoint) : e.leave.driver.state = e.breakOff.driver.state := by
  simp [leave]

theorem signal_deeds (e : Endpoint) : Deeds e e.signal :=
  (Deed.signal.one).trans (note_deeds _ _)

end Endpoint

end ClusterLink
