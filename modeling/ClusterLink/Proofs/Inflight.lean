/-
# Status updates in flight

The ledger of an executor against what its history tells: in flight are
exactly the outstanding updates, in the order in which they were issued, and
every status update that is passed to the transport is outstanding at that
time (`Endpoint.Accounted`). What waits in the backlog is outstanding as
well: an acknowledgement is only taken up while the driver runs, and then
nothing waits.

A passage of the driver keeps that, provided that no identifier is drawn
twice (`Endpoint.Distinct`).

Key definitions: `Message.Covered`, `Endpoint.Accounted`,
`Endpoint.Distinct`.
Key theorems: `Endpoint.Accounted.work`, `Endpoint.Passage.accounted`.
-/
import ClusterLink.Proofs.Outstanding
import Mathlib.Data.List.Nodup

namespace ClusterLink

open History

theorem Event.isWork.neutral {v : Event} (h : v.isWork = true) : v.Neutral :=
  Event.neutral_of_not_tiding (Event.isWork.not_tiding h)

theorem Event.isTale.passed? {v : Event} (h : v.isTale = true) : v.passed? = none := by
  cases v <;> first | rfl | cases h

theorem Event.isTiding.passed? {v : Event} (h : v.isTiding = true) : v.passed? = none := by
  cases v <;> first | rfl | cases h

/-- Whatever status update is passed to the transport is outstanding then. -/
def History.Covered (h : List Event) : Prop :=
  Always (fun v t => ∀ status uuid ok, v.passed? = some (.statusUpdate status uuid, ok) →
    (uuid, status) ∈ outstanding t) h

/-- Messages that may be passed on after a history. -/
def Message.Covered (h : List Event) (m : Message) : Prop :=
  ∀ status uuid, m = .statusUpdate status uuid → (uuid, status) ∈ outstanding h

theorem Message.covered_of_ne {h : List Event} {m : Message}
    (hm : ∀ status uuid, m ≠ .statusUpdate status uuid) : m.Covered h :=
  fun status uuid he => absurd he (hm status uuid)

/-- What is not passed to the transport may follow. -/
theorem History.Covered.cons {h : List Event} {v : Event} (H : Covered h)
    (hv : v.passed? = none) : Covered (v :: h) := by
  refine ⟨fun status uuid ok hp => ?_, H⟩
  rw [hv] at hp
  cases hp

/-- Notes and messages that are covered may follow. -/
theorem History.Covered.append {h new : List Event} (H : Covered h)
    (hn : ∀ v ∈ new, v.Neutral ∧ ∀ m ok, v.passed? = some (m, ok) → m.Covered h) :
    Covered (new ++ h) := by
  induction new with
  | nil => exact H
  | cons v new ih =>
    have hn' := fun w hw => hn w (List.mem_cons_of_mem v hw)
    refine ⟨fun status uuid ok hv => ?_, ih hn'⟩
    show (uuid, status) ∈ outstanding (new ++ h)
    rw [outstanding_append_of_neutral fun w hw => (hn' w hw).1]
    exact (hn v List.mem_cons_self).2 _ ok hv status uuid rfl

namespace Endpoint

/-- The ledger of an executor accords with its history; `first` identifiers were drawn at the
beginning. -/
structure Accounted (ids : Nat → Bytes) (first : Nat) (e : Endpoint) : Prop where
  role : e.driver.role = .executor
  supply : e.surroundings.ids = ids
  drawn : first ≤ e.surroundings.drawn
  /-- Every identifier that was drawn was used for one update. -/
  used : (issued e.history).map Prod.fst =
    (List.range' (first + 1) (e.surroundings.drawn - first)).map ids
  ledger : e.driver.inflight.map Update.entry = outstanding e.history
  waiting : ∀ m ∈ e.driver.backlog, m.Covered e.history
  /-- While the driver runs, nothing waits. -/
  ready : e.driver.state = .running → e.driver.connected = true ∧ e.driver.backlog = []
  sends : Covered e.history

variable {ids : Nat → Bytes} {first : Nat} {e e' : Endpoint}

/-- What is covered stays so while nothing is issued or acknowledged. -/
theorem covered_append {h new : List Event} (hn : ∀ v ∈ new, v.Neutral) {m : Message}
    (hm : m.Covered h) : m.Covered (new ++ h) := by
  intro status uuid he
  rw [outstanding_append_of_neutral hn]
  exact hm status uuid he

namespace Accounted

/-- Something happens that issues and acknowledges nothing, and passes on what is covered. -/
theorem extend (h : e.Accounted ids first) (new : List Event)
    (hh : e'.history = new ++ e.history)
    (hn : ∀ v ∈ new, v.Neutral ∧ ∀ m ok, v.passed? = some (m, ok) → m.Covered e.history)
    (hs : e'.surroundings.ids = e.surroundings.ids ∧
      e'.surroundings.drawn = e.surroundings.drawn)
    (hr : e'.driver.role = e.driver.role)
    (hl : e'.driver.inflight.map Update.entry = e.driver.inflight.map Update.entry)
    (hb : ∀ m ∈ e'.driver.backlog, m.Covered e.history)
    (hready : e'.driver.state = .running →
      e'.driver.connected = true ∧ e'.driver.backlog = []) : e'.Accounted ids first := by
  have hq : ∀ v ∈ new, v.Neutral := fun v hv => (hn v hv).1
  refine ⟨hr.trans h.role, hs.1.trans h.supply, by rw [hs.2]; exact h.drawn, ?_, ?_, ?_, hready, ?_⟩
  · rw [hh, issued_append_of_neutral hq, hs.2]
    exact h.used
  · rw [hh, outstanding_append_of_neutral hq, hl]
    exact h.ledger
  · rw [hh]
    exact fun m hm => covered_append hq (hb m hm)
  · rw [hh]
    exact h.sends.append hn

/-- An event that issues, acknowledges and passes on nothing. -/
theorem record (h : e.Accounted ids first) {v : Event} (hv : v.Neutral)
    (hp : v.passed? = none) : (e.record v).Accounted ids first := by
  refine h.extend [v] rfl (fun w hw => ?_) ⟨rfl, rfl⟩ rfl rfl h.waiting h.ready
  obtain rfl := List.mem_singleton.mp hw
  exact ⟨hv, fun m ok hm => by rw [hp] at hm; cases hm⟩

/-- A message that is covered is handed over. -/
theorem push (h : e.Accounted ids first) {m : Message} (hm : m.Covered e.history) :
    (e.push m).Accounted ids first := by
  obtain ⟨b, p, hd⟩ := push_driver e m
  have hids := push_ids e m
  have hr : (e.push m).driver.role = e.driver.role := by rw [hd]
  have hl : (e.push m).driver.inflight = e.driver.inflight := by rw [hd]
  have hst : (e.push m).driver.state = e.driver.state := push_state e m
  have hcn : (e.push m).driver.connected = e.driver.connected := push_connected e m
  rcases push_cases e m with ⟨hc, hpush⟩ | ⟨hc, hback, new, hh, hn⟩
  · -- it waits; so the driver is not running
    refine h.extend [] (by rw [hpush]; rfl) (by simp) hids hr (by rw [hl]) ?_ ?_
    · rw [hpush]
      intro x hx
      rcases List.mem_append.mp hx with hx | hx
      · exact h.waiting x hx
      · obtain rfl := List.mem_singleton.mp hx
        exact hm
    · rw [hst]
      intro hrun
      rw [(h.ready hrun).1] at hc
      cases hc
  · refine h.extend new hh (fun v hv => ?_) hids hr (by rw [hl]) ?_ ?_
    · rcases hn v hv with hv | ⟨ok, hv⟩
      · refine ⟨Event.isWork.neutral (Event.isWork_of_chore hv), fun x ok hx => ?_⟩
        rw [Event.isChore.passed? hv] at hx
        cases hx
      · refine ⟨Event.isWork.neutral (Event.isWork_of_passed hv), fun x ok' hx => ?_⟩
        obtain ⟨rfl, -⟩ := Prod.mk.inj (Option.some.inj (hv.symm.trans hx))
        exact hm
    · rw [hback]
      exact h.waiting
    · rw [hst, hcn, hback]
      exact h.ready

theorem pushAll (h : e.Accounted ids first) {ms : List Message}
    (hms : ∀ m ∈ ms, m.Covered e.history) : (e.pushAll ms).Accounted ids first := by
  induction ms generalizing e with
  | nil => exact h
  | cons m ms ih =>
    refine ih (h.push (hms m List.mem_cons_self)) fun x hx => ?_
    obtain ⟨-, -, -, new, hh, hn⟩ := push_continues e m
    rw [hh]
    exact covered_append (fun v hv => Event.isWork.neutral (hn v hv))
      (hms x (List.mem_cons_of_mem m hx))

theorem submit (h : e.Accounted ids first) {why : Cause} {m : Message}
    (hw : why = .resend ∨ ∀ status uuid, m ≠ .statusUpdate status uuid)
    (hm : m.Covered e.history) : (e.submit why m).Accounted ids first := by
  have hn : (Event.accepted why m).Neutral := Event.isWork.neutral (Event.isWork_accepted hw)
  have hall : ∀ v ∈ [Event.accepted why m], v.Neutral := by simpa using hn
  exact (h.record hn rfl).push (covered_append hall hm)

/-- An update in flight is covered. -/
theorem covered_message (h : e.Accounted ids first) {u : Update} (hu : u ∈ e.driver.inflight) :
    u.message.Covered e.history := by
  intro status uuid he
  obtain ⟨rfl, rfl⟩ := Message.statusUpdate.inj he
  rw [← h.ledger]
  exact List.mem_map_of_mem hu

theorem work (h : e.Accounted ids first) (hw : Work e e') : e'.Accounted ids first := by
  cases hw with
  | chore hv =>
    exact h.record (Event.isWork.neutral (Event.isWork_of_chore hv)) (Event.isChore.passed? hv)
  | surround hi hd _ => exact h.extend [] rfl (by simp) ⟨hi, hd⟩ rfl rfl h.waiting h.ready
  | attach l a => exact h.extend [] rfl (by simp) ⟨rfl, rfl⟩ rfl rfl h.waiting h.ready
  | @become s hs =>
    refine h.extend [.became s] rfl (fun v hv => ?_) ⟨rfl, rfl⟩ rfl rfl h.waiting
      fun hrun => absurd hrun hs
    obtain rfl := List.mem_singleton.mp hv
    exact ⟨⟨rfl, rfl⟩, fun m ok hm => by cases hm⟩
  | identify f => exact h.extend [] rfl (by simp) ⟨rfl, rfl⟩ rfl rfl h.waiting h.ready
  | submit why ha hm => exact h.submit (Or.inr hm) (Message.covered_of_ne hm)
  | @again us vs u _ hl _ =>
    have hu : u ∈ e.driver.inflight := by simp [hl]
    have hs : (e.submit .resend u.message).Accounted ids first :=
      h.submit (Or.inl rfl) (h.covered_message hu)
    refine hs.extend [] rfl (by simp) ⟨rfl, rfl⟩ rfl ?_ hs.waiting hs.ready
    rw [submit_inflight, hl]
    simp [again, withLedger, Update.entry]
  | forget connected hs =>
    exact h.extend [] rfl (by simp) ⟨rfl, rfl⟩ rfl rfl (by simp) fun hrun => absurd hrun hs

/-- The identifiers in use are among those that were drawn. -/
theorem not_holds (h : e.Accounted ids first) {uuid : Bytes}
    (hu : uuid ∉ (issued e.history).map Prod.fst) : e.driver.inflight.holds uuid = false := by
  refine Ledger.holds_eq_false_iff.mpr fun u hm he => ?_
  have hmem : u.entry ∈ outstanding e.history := by
    rw [← h.ledger]
    exact List.mem_map_of_mem hm
  have hi := (outstanding_sublist e.history).subset hmem
  exact hu (he ▸ List.mem_map_of_mem hi)

/-- A status update is issued under an identifier that was not used before. -/
theorem issue (h : e.Accounted ids first) (status : Bytes)
    (hfresh : e.surroundings.ids (e.surroundings.drawn + 1) ∉ (issued e.history).map Prod.fst) :
    (e.issue (.updateStatus status)).Accounted ids first := by
  have hput : (e.enroll status).driver.inflight = e.driver.inflight ++
      [⟨e.surroundings.ids (e.surroundings.drawn + 1), status, e.surroundings.clock⟩] :=
    Ledger.put_of_not_holds (h.not_holds hfresh)
  have hout : outstanding (.accepted .command (.statusUpdate status
      (e.surroundings.ids (e.surroundings.drawn + 1))) :: e.history) = outstanding e.history ++
        [(e.surroundings.ids (e.surroundings.drawn + 1), status)] := by
    simp [outstanding, Event.acknowledged?, Event.issued?]
  have hcov : ∀ m : Message, m.Covered e.history → m.Covered (.accepted .command (.statusUpdate
      status (e.surroundings.ids (e.surroundings.drawn + 1))) :: e.history) := by
    intro m hm st uuid he
    rw [hout]
    exact List.mem_append_left _ (hm st uuid he)
  have hcount : e.surroundings.drawn + 1 - first = e.surroundings.drawn - first + 1 := by
    have := h.drawn
    omega
  have hnext : first + 1 + (e.surroundings.drawn - first) = e.surroundings.drawn + 1 := by
    have := h.drawn
    omega
  have hentered : ((e.enroll status).record (.accepted .command (.statusUpdate status
      (e.surroundings.ids (e.surroundings.drawn + 1))))).Accounted ids first := by
    refine ⟨h.role, h.supply, Nat.le_succ_of_le h.drawn, ?_, ?_,
      fun m hm => hcov m (h.waiting m hm), h.ready, h.sends.cons rfl⟩
    · show (issued (_ :: e.history)).map Prod.fst =
        (List.range' (first + 1) (e.surroundings.drawn + 1 - first)).map ids
      rw [issued_cons, List.map_append, h.used, hcount, List.range'_1_concat, List.map_append,
        hnext, h.supply]
      rfl
    · show (e.enroll status).driver.inflight.map Update.entry = outstanding (_ :: e.history)
      rw [hput, hout, List.map_append, h.ledger]
      rfl
  refine hentered.push fun st uuid he => ?_
  obtain ⟨rfl, rfl⟩ := Message.statusUpdate.inj he
  show (_, status) ∈ outstanding (_ :: e.history)
  rw [hout]
  exact List.mem_append_right _ (List.mem_singleton.mpr rfl)

/-- An acknowledgement is taken up by a running driver, and settled. -/
theorem settle (h : e.Accounted ids first) (hs : e.driver.state = .running) (f uuid : Bytes) :
    ((e.record (.taken (.statusUpdateAcknowledgement f uuid))).settle uuid).Accounted ids
      first := by
  have hb := (h.ready hs).2
  have hout : outstanding (.taken (.statusUpdateAcknowledgement f uuid) :: e.history) =
      (e.driver.inflight.filter fun u => u.uuid ≠ uuid).map Update.entry := by
    have hp : (fun u : Update => decide (u.uuid ≠ uuid)) =
        (fun x => decide (some uuid ≠ some x.1)) ∘ Update.entry := by
      funext u
      have hiff : u.uuid ≠ uuid ↔ some uuid ≠ some u.uuid := by
        rw [Ne, Ne, Option.some.injEq, eq_comm]
      exact decide_eq_decide.mpr hiff
    rw [hp, ← List.filter_map, h.ledger]
    exact List.append_nil _
  have hsettled : ({ e.record (.taken (.statusUpdateAcknowledgement f uuid)) with
      driver.inflight := e.driver.inflight.filter fun u => u.uuid ≠ uuid } :
        Endpoint).Accounted ids first := by
    refine ⟨h.role, h.supply, h.drawn, ?_, hout.symm, fun m hm => ?_, h.ready,
      h.sends.cons rfl⟩
    · show (issued (_ :: e.history)).map Prod.fst = _
      rw [issued_cons]
      exact (congrArg (List.map Prod.fst) (List.append_nil _)).trans h.used
    · -- nothing waits, as the driver is running
      have hm : m ∈ e.driver.backlog := hm
      rw [hb] at hm
      cases hm
  unfold Endpoint.settle
  cases hr : (e.record (.taken (.statusUpdateAcknowledgement f uuid))).driver.inflight.remove?
      uuid with
  | some ledger =>
    have hl : ledger = e.driver.inflight.filter fun u => u.uuid ≠ uuid :=
      Ledger.eq_filter_of_remove? hr
    rw [hl]
    exact hsettled
  | none =>
    have hn : ∀ u ∈ e.driver.inflight, u.uuid ≠ uuid :=
      Ledger.holds_eq_false_iff.mp (Ledger.remove?_eq_none_iff.mp hr)
    have hsame : (e.driver.inflight.filter fun u => u.uuid ≠ uuid) = e.driver.inflight :=
      List.filter_eq_self.mpr fun u hu => by simpa using hn u hu
    rw [hsame] at hsettled
    exact hsettled.record ⟨rfl, rfl⟩ rfl

/-- The registration goes out, and what waited. -/
theorem flush (h : e.Accounted ids first) (hs : e.driver.state ≠ .running) (replyTo : String) :
    (e.flush replyTo).Accounted ids first ∧ (e.flush replyTo).driver.connected = true ∧
      (e.flush replyTo).driver.backlog = [] := by
  have hreg : ∀ status uuid, e.driver.registration replyTo ≠ .statusUpdate status uuid := by
    intro status uuid
    unfold Driver.registration
    split <;> exact Message.noConfusion
  have h1 : ({ e with driver.connected := true } : Endpoint).Accounted ids first :=
    h.extend [] rfl (by simp) ⟨rfl, rfl⟩ rfl rfl h.waiting fun hrun => absurd hrun hs
  have h2 := h1.push (Message.covered_of_ne hreg)
  have hs2 : (({ e with driver.connected := true } : Endpoint).push
      (e.driver.registration replyTo)).driver.state ≠ .running := by
    rw [push_state]
    exact hs
  have hc2 : (({ e with driver.connected := true } : Endpoint).push
      (e.driver.registration replyTo)).driver.connected = true := push_connected _ _
  have h3 : ({ ({ e with driver.connected := true } : Endpoint).push
      (e.driver.registration replyTo) with driver.backlog := [] } : Endpoint).Accounted ids first :=
    h2.extend [] rfl (by simp) ⟨rfl, rfl⟩ rfl rfl (by simp) fun hrun => absurd hrun hs2
  have hb := Endpoint.pushAll_backlog (e := { ({ e with driver.connected := true } : Endpoint).push
      (e.driver.registration replyTo) with driver.backlog := [] }) hc2
    (({ e with driver.connected := true } : Endpoint).push
      (e.driver.registration replyTo)).driver.backlog
  refine ⟨h3.pushAll h2.waiting, ?_, hb⟩
  obtain ⟨b, p, hd⟩ := e.flush_driver replyTo
  rw [hd]

/-- The driver joins the cluster. -/
theorem enter (h : e.Accounted ids first) (hs : e.driver.state ≠ .running) :
    e.enter.2.Accounted ids first := by
  rcases e.enter_cases with ⟨-, he⟩ | ⟨-, f, -, he⟩ | ⟨-, replyTo, -, he⟩
  · rw [he]
    refine h.extend [.noted _] rfl (fun v hv => ?_) ⟨rfl, rfl⟩ rfl rfl (by simp)
      fun hrun => absurd hrun hs
    obtain rfl := List.mem_singleton.mp hv
    exact ⟨⟨rfl, rfl⟩, fun m ok hm => by cases hm⟩
  · rw [he]
    exact h.extend [] rfl (by simp) ⟨rfl, rfl⟩ rfl rfl h.waiting fun hrun => absurd hrun hs
  · obtain ⟨hf, hc, hb⟩ := h.flush hs replyTo
    have hrun : ((e.flush replyTo).become .running).Accounted ids first := by
      refine hf.extend [.became .running] rfl (fun v hv => ?_) ⟨rfl, rfl⟩ rfl rfl hf.waiting
        fun _ => ⟨hc, hb⟩
      obtain rfl := List.mem_singleton.mp hv
      exact ⟨⟨rfl, rfl⟩, fun m ok hm => by cases hm⟩
    rw [he]
    exact hrun.record ⟨rfl, rfl⟩ rfl

end Accounted

/-! ### Identifiers -/

/-- Work draws no identifiers. -/
theorem Work.draws {e e' : Endpoint} (h : Work e e') :
    e'.surroundings.ids = e.surroundings.ids ∧ e'.surroundings.drawn = e.surroundings.drawn := by
  cases h with
  | surround hi hd _ => exact ⟨hi, hd⟩
  | submit why ha hm => exact push_ids (e.record _) _
  | again _ _ _ => exact push_ids (e.record _) _
  | _ => exact ⟨rfl, rfl⟩

theorem settle_ids (e : Endpoint) (uuid : Bytes) :
    (e.settle uuid).surroundings = e.surroundings := by
  unfold Endpoint.settle
  split <;> rfl

theorem pushAll_ids (e : Endpoint) (ms : List Message) :
    (e.pushAll ms).surroundings.ids = e.surroundings.ids ∧
      (e.pushAll ms).surroundings.drawn = e.surroundings.drawn := by
  induction ms generalizing e with
  | nil => exact ⟨rfl, rfl⟩
  | cons m ms ih =>
    obtain ⟨hi, hd⟩ := push_ids e m
    obtain ⟨hi', hd'⟩ := ih (e.push m)
    exact ⟨hi'.trans hi, hd'.trans hd⟩

theorem enter_ids (e : Endpoint) : e.enter.2.surroundings.ids = e.surroundings.ids ∧
    e.enter.2.surroundings.drawn = e.surroundings.drawn := by
  rcases e.enter_cases with ⟨-, he⟩ | ⟨-, f, -, he⟩ | ⟨-, replyTo, -, he⟩
  · rw [he]; exact ⟨rfl, rfl⟩
  · rw [he]; exact ⟨rfl, rfl⟩
  · rw [he]
    obtain ⟨hi, hd⟩ := push_ids { e with driver.connected := true } (e.driver.registration replyTo)
    obtain ⟨hi', hd'⟩ := pushAll_ids
      { ({ e with driver.connected := true } : Endpoint).push (e.driver.registration replyTo) with
        driver.backlog := [] }
      (({ e with driver.connected := true } : Endpoint).push
        (e.driver.registration replyTo)).driver.backlog
    exact ⟨hi'.trans hi, hd'.trans hd⟩

/-- Issuing a status update draws one. -/
theorem issue_ids (e : Endpoint) (status : Bytes) :
    (e.issue (.updateStatus status)).surroundings.ids = e.surroundings.ids ∧
      (e.issue (.updateStatus status)).surroundings.drawn = e.surroundings.drawn + 1 :=
  push_ids ((e.enroll status).record _) _

/-- From one number on, up to another one, no identifier is drawn twice. -/
def Distinct (ids : Nat → Bytes) (first last : Nat) : Prop :=
  ∀ i j, first < i → i < j → j ≤ last → ids i ≠ ids j

theorem Distinct.mono {ids : Nat → Bytes} {first m n : Nat} (h : Distinct ids first n)
    (hmn : m ≤ n) : Distinct ids first m :=
  fun i j hi hij hj => h i j hi hij (Nat.le_trans hj hmn)

namespace Accounted

variable {ids : Nat → Bytes} {first last : Nat} {e : Endpoint}

/-- No two updates are issued under one identifier. -/
theorem nodup (h : e.Accounted ids first) (hd : Distinct ids first e.surroundings.drawn) :
    ((issued e.history).map Prod.fst).Nodup := by
  rw [h.used]
  refine List.Nodup.map_on (fun i hi j hj he => ?_) List.nodup_range'
  have hi := List.mem_range'_1.mp hi
  have hj := List.mem_range'_1.mp hj
  rcases Nat.lt_trichotomy i j with hlt | heq | hlt
  · exact absurd he (hd i j (by omega) hlt (by omega))
  · exact heq
  · exact absurd he.symm (hd j i (by omega) hlt (by omega))

/-- Nor are two in flight under one. -/
theorem ledger_nodup (h : e.Accounted ids first)
    (hd : Distinct ids first e.surroundings.drawn) :
    (e.driver.inflight.map Update.uuid).Nodup := by
  have hsub := ((outstanding_sublist e.history).map Prod.fst)
  rw [← h.ledger, List.map_map] at hsub
  exact (h.nodup hd).sublist hsub

/-- The identifier that is drawn next was not used. -/
theorem fresh (h : e.Accounted ids first) (hd : Distinct ids first last)
    (hl : e.surroundings.drawn + 1 ≤ last) :
    e.surroundings.ids (e.surroundings.drawn + 1) ∉ (issued e.history).map Prod.fst := by
  intro hmem
  rw [h.used, h.supply] at hmem
  obtain ⟨i, hi, he⟩ := List.mem_map.mp hmem
  have hi := List.mem_range'_1.mp hi
  exact hd i (e.surroundings.drawn + 1) (by omega) (by omega) hl he

end Accounted

/-- Identifiers are drawn one after the other, one for each update that is issued. -/
theorem Passage.drawn {e x : Endpoint} {told : List Event} (h : Passage e told x) :
    x.surroundings.drawn = e.surroundings.drawn + (told.filterMap Event.issued?).length := by
  induction h with
  | rest => rfl
  | work _ hw ih => rw [hw.draws.2]; exact ih
  | tale _ _ ih => exact ih
  | @tell told x v _ _ hi _ ih =>
    rw [List.filterMap_append, List.filterMap_cons_none hi]
    exact ih.trans (by simp)
  | settle _ f u _ _ ih =>
    rw [settle_ids, List.filterMap_append]
    exact ih.trans (by simp [Event.issued?])
  | issue _ status _ ih =>
    rw [(issue_ids _ status).2, List.filterMap_append, List.length_append, ih]
    rfl
  | enter _ _ ih => rw [(enter_ids _).2]; exact ih
  | finish _ _ _ ih => exact ih

/-- The ledger accords with the history as long as no identifier is drawn twice. -/
theorem Passage.accounted {ids : Nat → Bytes} {first last : Nat} {e x : Endpoint}
    {told : List Event} (hd : Distinct ids first last) (h : Passage e told x)
    (he : e.Accounted ids first) (hl : x.surroundings.drawn ≤ last) :
    x.Accounted ids first := by
  induction h with
  | rest => exact he
  | work _ hw ih =>
    rw [hw.draws.2] at hl
    exact (ih hl).work hw
  | tale _ hv ih =>
    refine (ih hl).record (Event.neutral_of_not_tiding (Event.isTale.not_tiding hv)) ?_
    exact Event.isTale.passed? hv
  | tell _ hv hi ha ih =>
    have hx := ih hl
    exact hx.record ⟨hi, ha hx.role⟩ (Event.isTiding.passed? hv)
  | settle _ f u hr hs ih =>
    rw [settle_ids] at hl
    exact (ih hl).settle hs f u
  | @issue told x _ status _ ih =>
    rw [(issue_ids _ status).2] at hl
    have hx := ih (Nat.le_of_succ_le hl)
    exact hx.issue status (hx.fresh hd hl)
  | enter _ hs ih =>
    rw [(enter_ids _).2] at hl
    exact (ih hl).enter hs
  | finish _ done final ih =>
    have hx := ih hl
    exact hx.extend [] rfl (by simp) ⟨rfl, rfl⟩ rfl rfl hx.waiting hx.ready

end Endpoint

end ClusterLink
