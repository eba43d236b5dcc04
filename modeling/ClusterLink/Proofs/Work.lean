/-
# Work

What a driver does under its lock, told more closely than by its deeds
(`Deed`): which message is handed over and why, and what becomes of the
ledger of status updates. A status update that is sent again is in the
ledger, and no other message that work hands over is a status update.

Work issues no status updates, takes up no messages, begins no callbacks and
neither connects nor closes the transport, and it leaves the driver's role,
callbacks and payload alone (`Endpoint.Continues`). Joining the cluster, issuing
an update and settling an acknowledgement do that as well, but are no work: what
they change in the ledger or hand over is not told by a single condition.

Key definitions: `Event.isWork`, `Endpoint.Continues`, `Endpoint.Work`,
`Endpoint.Works`.
Key theorems: `Endpoint.Works.continues`, `Endpoint.region_works`,
`Endpoint.prepare_works`, `Endpoint.tick_works`.
-/
import ClusterLink.Proofs.Entry

namespace ClusterLink

/-! ### What work records -/

namespace Event

/-- Whether the event is noted by the way: a note, a call of the library, or that a transport is
made. -/
def isChore : Event → Bool
  | noted _ | called _ | transportMade _ => true
  | _ => false

/-- The status update that is issued, with its identifier first. -/
def issued? : Event → Option (Bytes × Bytes)
  | accepted .command (.statusUpdate status uuid) => some (uuid, status)
  | _ => none

/-- Whether the event is a part of work. -/
def isWork : Event → Bool
  | accepted .command (.statusUpdate ..) => false
  | became _ | accepted .. | sent .. | notSent .. => true
  | v => v.isChore

theorem isWork_of_chore {v : Event} (h : v.isChore = true) : v.isWork = true := by
  cases v <;> first | rfl | cases h

theorem isWork_of_passed {v : Event} {x : Message × Bool} (h : v.passed? = some x) :
    v.isWork = true := by
  cases v <;> first | rfl | cases h

/-- Everything that is accepted is a part of work, but for status updates that are issued. -/
theorem isWork_accepted {why : Cause} {m : Message}
    (h : why = .resend ∨ ∀ status uuid, m ≠ .statusUpdate status uuid) :
    (accepted why m).isWork = true := by
  cases why with
  | command =>
    cases m with
    | statusUpdate status uuid => exact (h.resolve_left Cause.noConfusion status uuid rfl).elim
    | _ => rfl
  | _ => rfl

theorem isChore.passed? {v : Event} (h : v.isChore = true) : v.passed? = none := by
  cases v <;> first | rfl | cases h

end Event

/-- An update without the time at which it was last handed over. -/
def Update.entry (u : Update) : Bytes × Bytes := (u.uuid, u.status)

namespace Endpoint

/-- The driver goes on as the one that it is, and records nothing but work. -/
structure Continues (e e' : Endpoint) : Prop where
  role : e'.driver.role = e.driver.role
  table : e'.driver.table = e.driver.table
  payload : e'.driver.payload = e.driver.payload
  history : ∃ new : List Event, e'.history = new ++ e.history ∧ ∀ v ∈ new, v.isWork = true

namespace Continues

variable {e e' e'' : Endpoint}

theorem refl (e : Endpoint) : Continues e e := ⟨rfl, rfl, rfl, [], rfl, by simp⟩

theorem trans (h : Continues e e') (h' : Continues e' e'') : Continues e e'' := by
  obtain ⟨new, hn, hw⟩ := h.history
  obtain ⟨new', hn', hw'⟩ := h'.history
  refine ⟨h'.role.trans h.role, h'.table.trans h.table, h'.payload.trans h.payload, new' ++ new,
    ?_, fun v hv => ?_⟩
  · rw [hn', hn, List.append_assoc]
  · rcases List.mem_append.mp hv with hv | hv
    · exact hw' v hv
    · exact hw v hv

theorem record {v : Event} (hv : v.isWork = true) : Continues e (e.record v) :=
  ⟨rfl, rfl, rfl, [v], rfl, by simpa using hv⟩

end Continues

/-! ### Handing messages over -/

/-- A message that is handed over waits, is dropped, or is passed to the transport. -/
theorem push_cases (e : Endpoint) (m : Message) :
    (e.driver.connected = false ∧
      e.push m = { e with driver.backlog := e.driver.backlog ++ [m] }) ∨
    (e.driver.connected = true ∧ (e.push m).driver.backlog = e.driver.backlog ∧
      ∃ new : List Event, (e.push m).history = new ++ e.history ∧
        ∀ v ∈ new, v.isChore = true ∨ ∃ ok, v.passed? = some (m, ok)) := by
  cases hconn : e.driver.connected with
  | false => exact Or.inl ⟨rfl, by simp [push, hconn]⟩
  | true =>
  refine Or.inr ⟨rfl, push_backlog hconn m, ?_⟩
  rw [push, if_neg (by simp [hconn])]
  split
  · exact ⟨[.noted (.withheld m)], rfl, by simp [Event.isChore]⟩
  have hcalled : ∀ {cs : List LibraryCall} {v : Event}, v ∈ cs.map Event.called →
      v.isChore = true := by
    intro cs v hv
    obtain ⟨c, -, rfl⟩ := List.mem_map.mp hv
    rfl
  obtain ⟨cs, ⟨b, d, h, -⟩ | ⟨f, b, d, h, -⟩⟩ := transmit_history (e.note (.sending m)) m
  · refine ⟨.sent m b d :: (cs.map .called ++ [.noted (.sending m)]), ?_, fun v hv => ?_⟩
    · rw [h]; simp [note, Endpoint.record]
    · simp only [List.mem_cons, List.mem_append, List.not_mem_nil, or_false] at hv
      rcases hv with rfl | hv | rfl
      · exact Or.inr ⟨true, rfl⟩
      · exact Or.inl (hcalled hv)
      · exact Or.inl rfl
  · refine ⟨.noted (.sendFailed m) :: .notSent m f b d ::
      (cs.map .called ++ [.noted (.sending m)]), ?_, fun v hv => ?_⟩
    · rw [h]; simp [note, Endpoint.record]
    · simp only [List.mem_cons, List.mem_append, List.not_mem_nil, or_false] at hv
      rcases hv with rfl | rfl | hv | rfl
      · exact Or.inl rfl
      · exact Or.inr ⟨false, rfl⟩
      · exact Or.inl (hcalled hv)
      · exact Or.inl rfl

/-- Handing a message over draws no identifier. -/
theorem push_ids (e : Endpoint) (m : Message) :
    (e.push m).surroundings.ids = e.surroundings.ids ∧
      (e.push m).surroundings.drawn = e.surroundings.drawn := by
  unfold push
  split
  · exact ⟨rfl, rfl⟩
  split
  · exact ⟨rfl, rfl⟩
  · unfold transmit
    dsimp only
    split <;> exact ⟨rfl, rfl⟩

theorem push_continues (e : Endpoint) (m : Message) : Continues e (e.push m) := by
  obtain ⟨b, p, hd⟩ := push_driver e m
  refine ⟨by rw [hd], by rw [hd], by rw [hd], ?_⟩
  rcases push_cases e m with ⟨-, h⟩ | ⟨-, -, new, hh, hn⟩
  · rw [h]
    exact ⟨[], rfl, by simp⟩
  · refine ⟨new, hh, fun v hv => ?_⟩
    rcases hn v hv with hv | ⟨ok, hv⟩
    · exact Event.isWork_of_chore hv
    · exact Event.isWork_of_passed hv

theorem submit_continues (e : Endpoint) {why : Cause} {m : Message}
    (h : why = .resend ∨ ∀ status uuid, m ≠ .statusUpdate status uuid) :
    Continues e (e.submit why m) := by
  have h1 : Continues e (e.record (.accepted why m)) := .record (Event.isWork_accepted h)
  exact h1.trans (push_continues _ m)

theorem pushAll_continues (e : Endpoint) (ms : List Message) : Continues e (e.pushAll ms) := by
  induction ms generalizing e with
  | nil => exact .refl e
  | cons m ms ih => exact (push_continues e m).trans (ih (e.push m))

/-! ### Sending again -/

/-- Handing a message over leaves the ledger alone. -/
theorem submit_inflight (e : Endpoint) (why : Cause) (m : Message) :
    (e.submit why m).driver.inflight = e.driver.inflight := by
  obtain ⟨b, p, h⟩ := push_driver (e.record (.accepted why m)) m
  unfold submit
  rw [h]
  rfl

/-- The endpoint with another ledger. -/
def withLedger (e : Endpoint) (l : Ledger) : Endpoint := { e with driver.inflight := l }

/-- An update in flight, with these in front of it and those behind it in the ledger, is sent again
and stamped. -/
def again (e : Endpoint) (us : Ledger) (u : Update) (vs : Ledger) : Endpoint :=
  let e := e.submit .resend u.message
  e.withLedger (us ++ { u with stamp := e.surroundings.clock } :: vs)

theorem again_continues (e : Endpoint) (us : Ledger) (u : Update) (vs : Ledger) :
    Continues e (e.again us u vs) := by
  have h : Continues e (e.submit .resend u.message) := e.submit_continues (Or.inl rfl)
  exact ⟨h.role, h.table, h.payload, h.history⟩

/-- The update is to be sent again, as it was not acknowledged in time. -/
def Overdue (e : Endpoint) (u : Update) : Prop :=
  ∃ age, e.resendAge = .ok age ∧ u.stamp < e.surroundings.clock - age

/-- The agent came back, and of what was in flight then these updates were sent since. -/
def Recalls (e : Endpoint) (us : Ledger) : Prop :=
  ∃ (new : List Event) (x : Bytes) (t : List Event),
    e.history = new ++ .taken (.executorReregistered x) :: t ∧
      ∀ v ∈ new, ∀ m ok, v.passed? = some (m, ok) → m ∈ us.map Update.message

/-! ### Pieces of work -/

/-- One thing that a driver does under its lock. -/
inductive Work : Endpoint → Endpoint → Prop
  | chore {e : Endpoint} {v : Event} (h : v.isChore = true) : Work e (e.record v)
  /-- What the driver works with changes, but not the time. -/
  | surround {e : Endpoint} {w : Surroundings} (hi : w.ids = e.surroundings.ids)
    (hd : w.drawn = e.surroundings.drawn) (hc : w.clock = e.surroundings.clock) :
    Work e { e with surroundings := w }
  | attach {e : Endpoint} (launched attached : Bool) :
    Work e { e with driver.launched := launched, driver.attached := attached }
  /-- The driver is put in a state, but not by joining the cluster. -/
  | become {e : Endpoint} {s : Lifecycle} (h : s ≠ .running) : Work e (e.become s)
  /-- A scheduler is told its identifier. -/
  | identify {e : Endpoint} (f : Bytes) (hr : e.driver.role = .scheduler) :
    Work e { e with driver.frameworkId := f }
  /-- A message is handed over that is no status update. -/
  | submit {e : Endpoint} (why : Cause) {m : Message} (h : e.driver.state.isActive = true)
    (hm : ∀ status uuid, m ≠ .statusUpdate status uuid) : Work e (e.submit why m)
  /-- A status update in flight is sent again by a driver that is running, since it is overdue or
  the agent came back. -/
  | again {e : Endpoint} {us vs : Ledger} {u : Update} (h : e.driver.state = .running)
    (hl : e.driver.inflight = us ++ u :: vs) (hw : e.Overdue u ∨ e.Recalls us) :
    Work e (e.again us u vs)
  /-- What waits is dropped. -/
  | forget {e : Endpoint} (connected : Bool) (h : e.driver.state ≠ .running) :
    Work e { e with driver.connected := connected, driver.backlog := [] }

/-- A row of pieces of work. -/
abbrev Works : Endpoint → Endpoint → Prop := Relation.ReflTransGen Work

theorem Work.one {e e' : Endpoint} (h : Work e e') : Works e e' := .single h

theorem Work.continues {e e' : Endpoint} (h : Work e e') : Continues e e' := by
  cases h with
  | chore h => exact .record (Event.isWork_of_chore h)
  | become h => exact ⟨rfl, rfl, rfl, [_], rfl, by simp [Event.isWork]⟩
  | submit why h hm => exact submit_continues _ (Or.inr hm)
  | again h hl hw => exact again_continues _ _ _ _
  | _ => exact ⟨rfl, rfl, rfl, [], rfl, by simp⟩

/-- What every piece of work keeps is kept by a row of them. -/
theorem Works.keep {P : Endpoint → Prop} (hP : ∀ e e', Work e e' → P e → P e')
    {e e' : Endpoint} (h : Works e e') (he : P e) : P e' := by
  induction h with
  | refl => exact he
  | tail _ hw ih => exact hP _ _ hw ih

theorem Works.continues {e e' : Endpoint} (h : Works e e') : Continues e e' :=
  h.keep (P := fun x => Continues e x) (fun _ _ hw hx => hx.trans hw.continues) (.refl e)

theorem note_works (e : Endpoint) (n : Note) : Works e (e.note n) := (Work.chore rfl).one

theorem become_note_works (e : Endpoint) {s : Lifecycle} (n : Note) (h : s ≠ .running) :
    Works e ((e.become s).note n) :=
  (Work.become h).one.trans (note_works _ _)

theorem chores_works (e : Endpoint) {vs : List Event} (h : ∀ v ∈ vs, v.isChore = true) :
    Works e { e with history := vs ++ e.history } := by
  induction vs with
  | nil => exact .refl
  | cons v vs ih =>
    have hrest := ih fun w hw => h w (List.mem_cons_of_mem _ hw)
    exact hrest.tail (.chore (h v List.mem_cons_self))

theorem useTransport_works {α : Type} (e : Endpoint)
    (f : Transport → Except Failure α × Transport) : Works e (e.useTransport f).2 := by
  have h1 : Work e { e with surroundings.transport := (f e.surroundings.transport).2 } :=
    .surround rfl rfl rfl
  refine h1.one.trans (chores_works _ fun v hv => ?_)
  obtain ⟨c, -, rfl⟩ := List.mem_map.mp hv
  rfl

/-! ### Commands and lifecycle calls -/

/-- Only the command for it gives a status update. -/
theorem order_ne_statusUpdate (d : Driver) {c : Command} (hc : ∀ s, c ≠ .updateStatus s)
    (uuid status uuid' : Bytes) : d.order uuid c ≠ .statusUpdate status uuid' := by
  cases c with
  | updateStatus s => exact absurd rfl (hc s)
  | _ => exact Message.noConfusion

/-- Any other command is given. -/
theorem order_works (e : Endpoint) {c : Command} (hc : ∀ s, c ≠ .updateStatus s) :
    Works e (e.order c).2 := by
  unfold order
  split
  · exact .refl
  split
  · exact note_works _ _
  · rename_i h
    have hi : e.issue c = e.submit .command (e.driver.order [] c) := by
      cases c with
      | updateStatus s => exact absurd rfl (hc s)
      | _ => rfl
    dsimp only
    rw [hi]
    exact (Work.submit .command (by simpa using h) (order_ne_statusUpdate _ hc [])).one

theorem start_works (e : Endpoint) : Works e e.start.2 := by
  unfold start
  split
  · exact .refl
  split
  · exact note_works _ _
  · have h1 : Work e { e with surroundings.making := e.surroundings.making.tail } :=
      .surround (w := { e.surroundings with making := e.surroundings.making.tail }) rfl rfl rfl
    dsimp only
    split
    · exact h1.one
    · have h2 := h1.one.tail (.chore (v := .transportMade e.driver.remote) rfl)
      have h3 := h2.tail (.attach true true)
      exact h3.trans (become_note_works _ _ Lifecycle.noConfusion)

theorem farewell_ne_statusUpdate {d : Driver} {failover : Bool} {m : Message}
    (h : d.farewell failover = some m) (status uuid : Bytes) : m ≠ .statusUpdate status uuid := by
  unfold Driver.farewell at h
  split at h
  · split at h
    · cases h
    · obtain rfl := Option.some.inj h
      exact Message.noConfusion
  · cases h

theorem stop_works (e : Endpoint) (failover : Bool) : Works e (e.stop failover).2 := by
  unfold stop
  split
  · exact .refl
  split
  · exact note_works _ _
  rename_i h
  have h : e.driver.state.isActive = true := by simpa using h
  dsimp only
  split
  · rename_i m hm
    have h1 := Work.submit .farewell h (farewell_ne_statusUpdate hm)
    exact h1.one.trans (become_note_works _ _ Lifecycle.noConfusion)
  · exact become_note_works _ _ Lifecycle.noConfusion

theorem abort_works (e : Endpoint) : Works e e.abort.2 := by
  unfold abort
  split
  · exact .refl
  split
  · exact note_works _ _
  · exact become_note_works _ _ Lifecycle.noConfusion

theorem breakOff_works (e : Endpoint) : Works e e.breakOff := by
  unfold breakOff
  split
  · exact (Work.become Lifecycle.noConfusion).one
  · exact .refl

theorem condemn_works (e : Endpoint) : Works e e.condemn := by
  unfold condemn
  split
  · exact (note_works _ _).tail (.become Lifecycle.noConfusion)
  · exact .refl

theorem destroy_works (e : Endpoint) : Works e e.destroy.2 := by
  unfold destroy
  split
  · exact .refl
  · -- once the driver is destroyed, nothing waits any more
    have h1 : Work e (e.become .destroyed) := .become Lifecycle.noConfusion
    have h2 := h1.one.tail (.forget e.driver.connected Lifecycle.noConfusion)
    have h3 := h2.tail (.attach e.driver.launched false)
    exact h3.trans (note_works _ _)

/-- Everything that is done in a region is work, but for issuing a status update. -/
theorem region_works (e : Endpoint) (inside : Bool) {r : Region}
    (hr : ∀ status, r ≠ .give (.updateStatus status)) : Works e (e.region inside r).2 := by
  cases r with
  | start thenJoin =>
    rw [region_start]
    exact start_works e
  | stop failover => exact stop_works e failover
  | abort => exact abort_works e
  | join => rw [region_join]
  | condemn =>
    simp only [region]
    split
    · exact .refl
    split
    · exact .refl
    · exact condemn_works e
  | destroy => exact destroy_works e
  | give c => exact order_works e fun status hc => hr status (by rw [hc])
  | turnDown op =>
    simp only [region]
    split
    · exact .refl
    · exact note_works _ _
  | state => exact .refl
  | status => exact .refl

/-! ### The dispatch thread -/

/-- The ledger has no part in handing a message over. -/
theorem submit_withLedger (e : Endpoint) (l : Ledger) (why : Cause) (m : Message) :
    (e.withLedger l).submit why m = (e.submit why m).withLedger l := by
  have htransmit : ∀ e : Endpoint, (e.withLedger l).transmit m = (e.transmit m).withLedger l := by
    intro e
    have huse : (e.withLedger l).useTransport (Transport.send m) =
        ((e.useTransport (Transport.send m)).1,
          (e.useTransport (Transport.send m)).2.withLedger l) := rfl
    unfold transmit
    rw [huse]
    dsimp only
    cases (e.useTransport (Transport.send m)).1 <;> rfl
  have hpush : ∀ e : Endpoint, (e.withLedger l).push m = (e.push m).withLedger l := by
    intro e
    unfold push
    have hd : (e.withLedger l).driver.connected = e.driver.connected ∧
        (e.withLedger l).driver.pendingError = e.driver.pendingError := ⟨rfl, rfl⟩
    rw [hd.1, hd.2]
    split
    · rfl
    split
    · rfl
    · exact htransmit (e.note (.sending m))
  exact hpush (e.record (.accepted why m))

/-- So it has none in sending updates again. -/
theorem resendFrom_withLedger (e : Endpoint) (l : Ledger) (due : Update → Bool) (announced : Bool)
    (us : Ledger) : (e.withLedger l).resendFrom due announced us =
      ((e.resendFrom due announced us).1, (e.resendFrom due announced us).2.1.withLedger l,
        (e.resendFrom due announced us).2.2) := by
  induction us generalizing e with
  | nil => rfl
  | cons u us ih =>
    by_cases hdue : due u = true
    · have hgo : ∀ x : Endpoint, (x.withLedger l).submit .resend u.message =
          (x.submit .resend u.message).withLedger l := fun x => x.submit_withLedger l _ _
      cases announced with
      | false =>
        simp only [resendFrom, hdue, if_true, Bool.false_eq_true, if_false, hgo, ih]
        rfl
      | true =>
        have hann : (e.withLedger l).announce u = (e.announce u).map fun x => x.withLedger l := by
          have hs : (e.withLedger l).surroundings = e.surroundings := rfl
          unfold announce
          rw [hs]
          dsimp only
          split <;> rfl
        simp only [resendFrom, hdue, if_true, hann]
        cases e.announce u with
        | error f => rfl
        | ok x =>
          simp only [Except.map, hgo, ih]
          rfl
    · simp only [resendFrom, hdue, Bool.false_eq_true, if_false, ih]

/-- Whatever is sent again from now on is overdue, or the agent came back. -/
def Warrants (e : Endpoint) (due : Update → Bool) (us : Ledger) : Prop :=
  (∃ age, e.resendAge = .ok age ∧ ∀ u, due u = true → u.stamp < e.surroundings.clock - age) ∨
    e.Recalls us

/-- Time and what follows in the history, in which updates in front are sent, take nothing away. -/
theorem Warrants.later {e e' : Endpoint} {due : Update → Bool} {us us' : Ledger}
    (h : e.Warrants due us) (hs : e'.driver.settings = e.driver.settings)
    (hc : e.surroundings.clock ≤ e'.surroundings.clock)
    (hus : us.map Update.message ⊆ us'.map Update.message)
    (hh : ∃ new : List Event, e'.history = new ++ e.history ∧
      ∀ v ∈ new, ∀ m ok, v.passed? = some (m, ok) → m ∈ us'.map Update.message) :
    e'.Warrants due us' := by
  obtain ⟨more, hmore, hsent⟩ := hh
  rcases h with ⟨age, ha, hdue⟩ | ⟨new, x, t, hnew, hn⟩
  · refine Or.inl ⟨age, ?_, fun u hu => ?_⟩
    · unfold resendAge at ha ⊢
      rwa [hs]
    · have := hdue u hu
      omega
  · refine Or.inr ⟨more ++ new, x, t, by rw [hmore, hnew, List.append_assoc],
      fun v hv m ok hp => ?_⟩
    rcases List.mem_append.mp hv with hv | hv
    · exact hsent v hv m ok hp
    · exact hus (hn v hv m ok hp)

/-- What is recorded when an update is sent again. -/
theorem submit_sends (e : Endpoint) (why : Cause) (m : Message) :
    ∃ new : List Event, (e.submit why m).history = new ++ e.history ∧
      ∀ v ∈ new, ∀ m' ok, v.passed? = some (m', ok) → m' = m := by
  have hacc : ∀ m' ok, (Event.accepted why m).passed? = some (m', ok) → m' = m :=
    fun m' ok h => by cases h
  rcases push_cases (e.record (.accepted why m)) m with ⟨-, hp⟩ | ⟨-, -, new, hh, hn⟩
  · refine ⟨[.accepted why m], ?_, by simpa using hacc⟩
    unfold submit
    rw [hp]
    rfl
  · refine ⟨new ++ [.accepted why m], ?_, fun v hv m' ok hp => ?_⟩
    · unfold submit
      rw [hh, List.append_assoc]
      rfl
    · rcases List.mem_append.mp hv with hv | hv
      · rcases hn v hv with hc | ⟨ok', hp'⟩
        · rw [Event.isChore.passed? hc] at hp
          cases hp
        · exact (Prod.mk.inj (Option.some.inj (hp'.symm.trans hp))).1.symm
      · obtain rfl := List.mem_singleton.mp hv
        exact hacc m' ok hp

theorem Warrants.warrant {e : Endpoint} {due : Update → Bool} {us : Ledger} {u : Update}
    (h : e.Warrants due us) (hdue : due u = true) : e.Overdue u ∨ e.Recalls us := by
  rcases h with ⟨age, ha, hall⟩ | hback
  · exact Or.inl ⟨age, ha, hall u hdue⟩
  · exact Or.inr hback

/-- Once an update was sent again and stamped, the next one may be. -/
theorem Warrants.again {e : Endpoint} {due : Update → Bool} {us : Ledger} (h : e.Warrants due us)
    (u : Update) (vs : Ledger) : (e.again us u vs).Warrants due
      (us ++ [{ u with stamp := (e.submit .resend u.message).surroundings.clock }]) := by
  obtain ⟨new, hh, hn⟩ := e.submit_sends .resend u.message
  obtain ⟨b, p, hdriver⟩ := push_driver (e.record (.accepted .resend u.message)) u.message
  refine h.later ?_ (e.submit_clock _ _) ?_ ⟨new, hh, ?_⟩
  · show (e.submit .resend u.message).driver.settings = _
    unfold submit
    rw [hdriver]
    rfl
  · rw [List.map_append]
    exact List.subset_append_left _ _
  · intro v hv m ok hp
    rw [hn v hv m ok hp, List.map_append]
    exact List.mem_append_right _ List.mem_cons_self

/-- Updates in flight are sent again, and keep their places in the ledger. -/
theorem resendFrom_works {e : Endpoint} (due : Update → Bool) (announced : Bool) (us vs : Ledger)
    (h : e.driver.state = .running) (hl : e.driver.inflight = us ++ vs)
    (hw : e.Warrants due us) :
    Works e ((e.resendFrom due announced vs).2.1.withLedger
      (us ++ (e.resendFrom due announced vs).2.2)) := by
  induction vs generalizing e us with
  | nil =>
    have he : e.withLedger (us ++ []) = e := by rw [← hl]; rfl
    simp only [resendFrom, he]
    exact .refl
  | cons u vs ih =>
    by_cases hdue : due u = true
    · -- what follows from where the update is handed over
      have hgo : ∀ x : Endpoint, x.driver = e.driver → x.driver.state = .running →
          x.Warrants due us →
            Works x (((x.submit .resend u.message).resendFrom due announced vs).2.1.withLedger
              (us ++ { u with stamp := (x.submit .resend u.message).surroundings.clock } ::
                ((x.submit .resend u.message).resendFrom due announced vs).2.2)) := by
        intro x hd hrun hwx
        have hone : Work x (x.again us u vs) := .again hrun (by rw [hd, hl]) (hwx.warrant hdue)
        have hrunning : (x.again us u vs).driver.state = .running :=
          (submit_state x .resend u.message).trans hrun
        have hledger : (x.again us u vs).driver.inflight =
            us ++ [{ u with stamp := (x.submit .resend u.message).surroundings.clock }] ++ vs :=
          (List.append_cons us _ vs)
        have hrest := ih _ hrunning hledger (hwx.again u vs)
        rw [again, resendFrom_withLedger, List.append_assoc] at hrest
        exact hone.one.trans hrest
      rcases e.resendFrom_due announced vs hdue with ⟨-, f, -, he⟩ | ⟨x, hx, he⟩ <;> rw [he]
      · have hsame : e.withLedger (us ++ u :: vs) = e := by rw [← hl]; rfl
        show Works e (e.withLedger (us ++ u :: vs))
        rw [hsame]
      · rcases hx with rfl | ⟨n, rfl⟩
        · exact hgo _ rfl h hw
        · have hnoted : (e.note n).Warrants due us := hw.later rfl (Int.le_refl _)
            (List.Subset.refl _) ⟨[.noted n], rfl, by simp [Event.passed?]⟩
          exact (note_works e n).trans (hgo _ rfl h hnoted)
    · have hskip : e.Warrants due (us ++ [u]) := hw.later rfl (Int.le_refl _)
        (by rw [List.map_append]; exact List.subset_append_left _ _) ⟨[], rfl, by simp⟩
      have hrest := ih (us ++ [u]) h (by rw [hl, List.append_assoc]; rfl) hskip
      rw [e.resendFrom_not_due announced vs hdue]
      rwa [List.append_assoc] at hrest

theorem resend_works {e : Endpoint} (due : Update → Bool) (announced : Bool)
    (h : e.driver.state = .running) (hw : e.Warrants due []) : Works e (e.resend due announced).2 :=
  resendFrom_works due announced [] e.driver.inflight h rfl hw

theorem tick_works {e : Endpoint} (h : e.driver.state = .running) : Works e e.tick.2 := by
  unfold tick
  split
  · exact .refl
  split
  · exact .refl
  · rename_i age ha
    exact resend_works _ _ h (Or.inl ⟨age, ha, fun u hu => by simpa using hu⟩)

/-- A message is taken up that may change something before its callback. -/
theorem prepare_works {e : Endpoint} (m : Message) (h : e.driver.state = .running) :
    Works (e.record (.taken m)) ((e.record (.taken m)).prepare m) := by
  unfold prepare
  split
  · exact (Work.identify _ ‹_›).one
  · rename_i x _
    exact resend_works _ _ h (Or.inr ⟨[], x, e.history, rfl, by simp⟩)
  · exact .refl

/-! What notes, handing updates over and stamping them keep is kept in sending them again, whatever
the state of the driver. -/

section Keeps

variable {P : Endpoint → Prop} {e : Endpoint}

theorem resend_keeps (hnote : ∀ x n, P x → P (x.note n))
    (hsubmit : ∀ x (u : Update), P x → P (x.submit .resend u.message))
    (hledger : ∀ x l, P x → P (x.withLedger l)) (due : Update → Bool) (announced : Bool)
    (h : P e) : P (e.resend due announced).2 :=
  hledger _ _ (resendFrom_keeps hnote hsubmit due announced _ h)

theorem tick_keeps (hnote : ∀ x n, P x → P (x.note n))
    (hsubmit : ∀ x (u : Update), P x → P (x.submit .resend u.message))
    (hledger : ∀ x l, P x → P (x.withLedger l)) (h : P e) : P e.tick.2 := by
  unfold tick
  split
  · exact h
  split
  · exact h
  · exact resend_keeps hnote hsubmit hledger _ _ h

theorem prepare_keeps (hnote : ∀ x n, P x → P (x.note n))
    (hsubmit : ∀ x (u : Update), P x → P (x.submit .resend u.message))
    (hledger : ∀ x l, P x → P (x.withLedger l))
    (hidentify : ∀ (x : Endpoint) f, P x → P { x with driver.frameworkId := f }) (m : Message)
    (h : P e) : P (e.prepare m) := by
  unfold prepare
  split
  · exact hidentify e _ h
  · exact resend_keeps hnote hsubmit hledger _ _ h
  · exact h

end Keeps

theorem tick_continues (e : Endpoint) : Continues e e.tick.2 :=
  tick_keeps (P := fun x => Continues e x) (fun _ _ h => h.trans (.record rfl))
    (fun x _ h => h.trans (x.submit_continues (Or.inl rfl)))
    (fun _ _ h => ⟨h.role, h.table, h.payload, h.history⟩) (.refl e)

theorem prepare_continues (e : Endpoint) (m : Message) : Continues e (e.prepare m) :=
  prepare_keeps (P := fun x => Continues e x) (fun _ _ h => h.trans (.record rfl))
    (fun x _ h => h.trans (x.submit_continues (Or.inl rfl)))
    (fun _ _ h => ⟨h.role, h.table, h.payload, h.history⟩)
    (fun _ _ h => ⟨h.role, h.table, h.payload, h.history⟩) m (.refl e)

theorem conclude_works (e : Endpoint) (m : Message) : Works e (e.conclude m) := by
  unfold conclude
  split
  · split
    · rename_i h
      exact (Work.submit .acknowledgement h.2 fun _ _ => Message.noConfusion).one
    · exact .refl
  · split
    · exact abort_works e
    · exact .refl
  · exact .refl

/-! ### Joining and settling -/

theorem flush_continues (e : Endpoint) (replyTo : String) : Continues e (e.flush replyTo) := by
  have h1 : Continues e { e with driver.connected := true } := ⟨rfl, rfl, rfl, [], rfl, by simp⟩
  have h2 := h1.trans (push_continues _ (e.driver.registration replyTo))
  have h3 : ∀ x : Endpoint, Continues x { x with driver.backlog := [] } :=
    fun _ => ⟨rfl, rfl, rfl, [], rfl, by simp⟩
  exact (h2.trans (h3 _)).trans (pushAll_continues _ _)

theorem enter_continues (e : Endpoint) : Continues e e.enter.2 := by
  rcases e.enter_cases with ⟨-, h⟩ | ⟨-, f, -, h⟩ | ⟨-, replyTo, -, h⟩
  · rw [h]
    exact ⟨rfl, rfl, rfl, [_], rfl, by simp [Event.isWork, Event.isChore]⟩
  · rw [h]
    exact ⟨rfl, rfl, rfl, [], rfl, by simp⟩
  · rw [h]
    have h1 : Continues (e.flush replyTo) ((e.flush replyTo).become .running) :=
      ⟨rfl, rfl, rfl, [_], rfl, by simp [Event.isWork]⟩
    exact ((flush_continues e replyTo).trans h1).trans (.record rfl)

/-- A status update is entered in the ledger, and handed over. -/
theorem issue_history (e : Endpoint) (status : Bytes) : ∃ new : List Event,
    (e.issue (.updateStatus status)).history = new ++ .accepted .command
      (.statusUpdate status (e.surroundings.ids (e.surroundings.drawn + 1))) :: e.history ∧
      ∀ v ∈ new, v.isWork = true := by
  obtain ⟨-, -, -, new, hh, hn⟩ := push_continues
    ((e.enroll status).record (.accepted .command
      (.statusUpdate status (e.surroundings.ids (e.surroundings.drawn + 1)))))
    (.statusUpdate status (e.surroundings.ids (e.surroundings.drawn + 1)))
  exact ⟨new, hh, hn⟩

/-- Issuing a status update touches three fields of the driver. -/
theorem issue_driver (e : Endpoint) (status : Bytes) : ∃ b p,
    (e.issue (.updateStatus status)).driver =
      { (e.enroll status).driver with backlog := b, pendingError := p } :=
  push_driver _ _

theorem settle_continues (e : Endpoint) (uuid : Bytes) : Continues e (e.settle uuid) := by
  unfold settle
  split
  · exact ⟨rfl, rfl, rfl, [], rfl, by simp⟩
  · exact .record rfl

end Endpoint

end ClusterLink
