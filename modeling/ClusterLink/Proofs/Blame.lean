/-
# Why drivers are aborted

A driver is aborted by a call, by a callback that fails, by misuse that
leaves the dispatch loop, or because it failed itself (`History.Blame`). In
the last case its error callback begins, and is told what the trouble was
(`History.Trouble`): an error of the remote side, the first send that failed,
or a failure that left the dispatch loop.

`Endpoint.Blames` relates a driver to what becomes of it when all that is
accounted for. It composes, and every piece of work of a driver is an
instance of it.

Key definitions: `History.Blame`, `History.Trouble`, `History.Alarm`,
`Endpoint.Blames`.
Key theorems: `Endpoint.region_blames`, `Endpoint.leave_blames`.
-/
import ClusterLink.Proofs.Passage
import ClusterLink.Proofs.Silence

namespace ClusterLink

namespace Event

/-- The failure of a message's send. -/
def failure? : Event → Option Failure
  | notSent _ f _ _ => some f
  | _ => none

/-- Whether a callback failed, or the driver's own failure was told to it. -/
def isGrave : Event → Bool
  | broke .. | began .error .. => true
  | _ => false

theorem isWork.not_grave {v : Event} (h : v.isWork = true) : v.isGrave = false := by
  cases v <;> first | rfl | cases h

theorem isAside.failure? {v : Event} (h : v.isAside = true) : v.failure? = none := by
  cases v <;> first | rfl | cases h

end Event

namespace History

/-- The failures of sends, in order. -/
def failures (h : List Event) : List Failure := (h.filterMap Event.failure?).reverse

/-- An abort succeeded, of a caller or after the order to shut down, or an active driver was
destroyed. -/
def Called (h : List Event) : Prop :=
  .noted .aborted ∈ h ∨ .noted .destroyingActive ∈ h

/-- Misuse left the dispatch loop, or a callback misused the driver. -/
def Misused (h : List Event) : Prop :=
  ∃ f, f.isMisuse = true ∧ (.escaped f ∈ h ∨ ∃ slot, .broke slot f ∈ h)

/-- Why a driver is aborted. If the driver itself failed, the error callback began, unless there is
none, or the remote side told an error whose text has no UTF-8 bytes. -/
inductive Blame (bound : Bool) (h : List Event) : Prop
  | call (hc : Called h)
  | callback {slot : Slot} {f : Failure} (hb : .broke slot f ∈ h)
    (hf : slot ≠ .error ∨ f.isMisuse = true)
  | misuse {f : Failure} (he : .escaped f ∈ h) (hf : f.isMisuse = true)
  | alarm (ha : bound = true → .error ∈ begun h)
  | untold {text : WideText} (hm : .taken (.error text) ∈ h) (ht : text.utf8? = none)

/-- What the error callback is told of: the remote side's error, the first send that failed, or a
failure that left the dispatch loop. -/
inductive Trouble (h : List Event) (text : String) : Prop
  | remote (hm : .taken (.error text) ∈ h)
  | send {f : Failure} (hf : (failures h).head? = some f) (ht : text = f.shown)
  | loop {f : Failure} (he : .escaped f ∈ h) (hf : f.isMisuse = false) (ht : text = f.shown)

/-- An error callback that begins after a history, and what it gets. No callback failed before. -/
structure Alarm (payload : Datum) (l : Lifecycle) (data : Datum) (args : List Parameter)
    (t : List Event) : Prop where
  state : l = .aborted
  payload : data = payload
  trouble : ∃ text, args = [.envelope (Bytes.ofText text)] ∧ Trouble t text
  unbroken : ∀ slot f, .broke slot f ∉ t

variable {h h' : List Event}

theorem begun_mono {slot : Slot} (hs : h <:+ h') (hb : slot ∈ begun h) : slot ∈ begun h' := by
  obtain ⟨l, payload, args, t, ht⟩ := mem_begun.mp hb
  exact mem_begun.mpr ⟨l, payload, args, t, ht.trans hs⟩

theorem failures_append (new h : List Event) :
    failures (new ++ h) = failures h ++ failures new := by
  simp [failures]

/-- The first send that failed remains the first. -/
theorem failures_mono {f : Failure} (hs : h <:+ h') (hf : (failures h).head? = some f) :
    (failures h').head? = some f := by
  obtain ⟨new, rfl⟩ := hs
  rw [failures_append, List.head?_append, hf]
  rfl

theorem Called.mono (hs : h <:+ h') (hc : Called h) : Called h' :=
  hc.imp (fun hm => hs.mem hm) fun hm => hs.mem hm

theorem Misused.mono (hs : h <:+ h') : Misused h → Misused h'
  | ⟨f, hf, hm⟩ => ⟨f, hf, hm.imp (fun hm => hs.mem hm) fun ⟨slot, hm⟩ => ⟨slot, hs.mem hm⟩⟩

theorem Blame.mono {bound : Bool} (hs : h <:+ h') (hb : Blame bound h) : Blame bound h' := by
  cases hb with
  | call hc => exact .call (hc.mono hs)
  | callback hm hf => exact .callback (hs.mem hm) hf
  | misuse hm hf => exact .misuse (hs.mem hm) hf
  | alarm ha => exact .alarm fun hb => begun_mono hs (ha hb)
  | untold hm ht => exact .untold (hs.mem hm) ht

theorem Trouble.mono {text : String} (hs : h <:+ h') (ht : Trouble h text) : Trouble h' text := by
  cases ht with
  | remote hm => exact .remote (hs.mem hm)
  | send hf ht => exact .send (failures_mono hs hf) ht
  | loop he hf ht => exact .loop (hs.mem he) hf ht

/-- What is not in an addition happened before. -/
theorem suffix_of_not_mem (new : List Event) {v : Event} {t : List Event} (hn : v ∉ new)
    (ht : v :: t <:+ new ++ h) : v :: t <:+ h := by
  induction new with
  | nil => exact ht
  | cons w new ih =>
    rcases List.suffix_cons_iff.mp ht with heq | ht
    · exact absurd (List.mem_cons.mpr (Or.inl (List.cons.inj heq).1)) hn
    · exact ih (fun hm => hn (List.mem_cons_of_mem _ hm)) ht

end History

open History

namespace Endpoint

variable {e e' e'' : Endpoint}

/-- What becomes of a driver is accounted for. If it is aborted meanwhile, it is known why; if a
callback fails, the driver is shut down; and if the error callback begins, there was trouble. -/
structure Blames (e e' : Endpoint) : Prop where
  history : e.history <:+ e'.history
  table : e'.driver.table = e.driver.table
  payload : e'.driver.payload = e.driver.payload
  shut : e.driver.state.isShut = true → e'.driver.state.isShut = true
  broke : ∀ slot f, .broke slot f ∈ e'.history →
    .broke slot f ∈ e.history ∨ e'.driver.state.isShut = true
  reason : e'.driver.state = .aborted →
    e.driver.state = .aborted ∨ Blame (e'.driver.table.binds .error) e'.history
  alarms : ∀ l data args t, .began .error l data args :: t <:+ e'.history →
    .began .error l data args :: t <:+ e.history ∨ Alarm e'.driver.payload l data args t

namespace Blames

theorem refl (e : Endpoint) : Blames e e :=
  ⟨List.suffix_refl _, rfl, rfl, id, fun _ _ => Or.inl, Or.inl, fun _ _ _ _ => Or.inl⟩

theorem trans (h : Blames e e') (h' : Blames e' e'') : Blames e e'' := by
  refine ⟨h.history.trans h'.history, h'.table.trans h.table, h'.payload.trans h.payload,
    h'.shut ∘ h.shut, fun slot f hb => ?_, fun hs => ?_, fun l data args t ht => ?_⟩
  · rcases h'.broke slot f hb with hb | hs
    · exact (h.broke slot f hb).imp_right h'.shut
    · exact Or.inr hs
  · rcases h'.reason hs with hs | hr
    · refine (h.reason hs).imp_right fun hr => ?_
      rw [h'.table]
      exact hr.mono h'.history
    · exact Or.inr hr
  · rcases h'.alarms l data args t ht with ht | ha
    · rw [h'.payload]
      exact h.alarms l data args t ht
    · exact Or.inr ha

/-- Things happen that are not grave, and the driver is aborted only for a reason. -/
theorem of_reason (new : List Event) (hh : e'.history = new ++ e.history)
    (hn : ∀ v ∈ new, v.isGrave = false) (ht : e'.driver.table = e.driver.table)
    (hp : e'.driver.payload = e.driver.payload)
    (hs : e.driver.state.isShut = true → e'.driver.state.isShut = true)
    (hr : e'.driver.state = .aborted →
      e.driver.state = .aborted ∨ Blame (e'.driver.table.binds .error) e'.history) :
    Blames e e' := by
  have hnew : ∀ {v : Event}, v.isGrave = true → v ∉ new := fun hv hm =>
    absurd ((hn _ hm).symm.trans hv) Bool.noConfusion
  refine ⟨by rw [hh]; exact List.suffix_append _ _, ht, hp, hs, fun slot f hb => Or.inl ?_, hr,
    fun l data args t hb => Or.inl ?_⟩
  · rw [hh] at hb
    exact (List.mem_append.mp hb).resolve_left (hnew rfl)
  · rw [hh] at hb
    exact suffix_of_not_mem new (hnew rfl) hb

/-- Things happen that are not grave, and leave the state alone. -/
theorem extend (new : List Event) (hh : e'.history = new ++ e.history)
    (hn : ∀ v ∈ new, v.isGrave = false) (ht : e'.driver.table = e.driver.table)
    (hp : e'.driver.payload = e.driver.payload) (hs : e'.driver.state = e.driver.state) :
    Blames e e' :=
  of_reason new hh hn ht hp (fun hx => by rwa [hs]) fun hx => Or.inl (hs.symm.trans hx)

theorem record {v : Event} (hv : v.isGrave = false) : Blames e (e.record v) :=
  extend [v] rfl (by simpa using hv) rfl rfl rfl

theorem note (n : Note) : Blames e (e.note n) := record rfl

/-- Work that aborts the driver for a reason. -/
theorem of_works (ht : Turns e e') (hc : Continues e e')
    (hr : e'.driver.state = .aborted →
      e.driver.state = .aborted ∨ Blame (e'.driver.table.binds .error) e'.history) :
    Blames e e' := by
  obtain ⟨new, hh, hw⟩ := hc.history
  exact of_reason new hh (fun v hv => Event.isWork.not_grave (hw v hv)) hc.table hc.payload
    ht.isShut hr

/-- Work that leaves the state alone. -/
theorem of_state (ht : Turns e e') (hc : Continues e e')
    (hs : e'.driver.state = e.driver.state) : Blames e e' :=
  of_works ht hc fun ha => Or.inl (hs.symm.trans ha)

end Blames

/-! ### Regions -/

theorem issue_state (e : Endpoint) (c : Command) :
    (e.issue c).driver.state = e.driver.state := by
  cases c with
  | updateStatus s => exact submit_state _ _ _
  | _ => exact submit_state _ _ _

theorem order_state (e : Endpoint) (c : Command) :
    (e.order c).2.driver.state = e.driver.state := by
  unfold order
  split
  · rfl
  split
  · rfl
  · exact issue_state e c

theorem abort_called (e : Endpoint) (hs : e.abort.2.driver.state = .aborted) :
    e.driver.state = .aborted ∨ Called e.abort.2.history := by
  unfold abort at hs ⊢
  split at hs <;> rename_i hd
  · exact Or.inl hs
  rw [if_neg hd]
  split at hs <;> rename_i ha
  · exact Or.inl hs
  · rw [if_neg ha]
    exact Or.inr (Or.inl List.mem_cons_self)

theorem condemn_called (e : Endpoint) (hs : e.condemn.driver.state = .aborted) :
    e.driver.state = .aborted ∨ Called e.condemn.history := by
  unfold condemn at hs ⊢
  split at hs <;> rename_i ha
  · refine Or.inr (Or.inr ?_)
    rw [if_pos ha]
    exact List.mem_cons_of_mem _ List.mem_cons_self
  · exact Or.inl hs

theorem start_aborted (e : Endpoint) (hs : e.start.2.driver.state = .aborted) :
    e.driver.state = .aborted := by
  unfold start at hs
  split at hs
  · exact hs
  split at hs
  · exact hs
  · dsimp only at hs
    split at hs
    · exact hs
    · cases hs

theorem stop_aborted (e : Endpoint) (failover : Bool)
    (hs : (e.stop failover).2.driver.state = .aborted) : e.driver.state = .aborted := by
  unfold stop at hs
  split at hs
  · exact hs
  split at hs
  · exact hs
  · cases hs

/-- Only a call to abort or to destroy the driver aborts it. -/
theorem region_called (e : Endpoint) (inside : Bool) (r : Region)
    (hs : (e.region inside r).2.driver.state = .aborted) :
    e.driver.state = .aborted ∨ Called (e.region inside r).2.history := by
  cases r with
  | start thenJoin =>
    rw [region_start] at hs
    exact Or.inl (e.start_aborted hs)
  | stop failover => exact Or.inl (e.stop_aborted failover hs)
  | abort => exact abort_called e hs
  | join =>
    rw [region_join] at hs
    exact Or.inl hs
  | condemn =>
    simp only [region] at hs ⊢
    split at hs <;> rename_i hd
    · exact Or.inl hs
    rw [if_neg hd]
    split at hs <;> rename_i hi
    · exact Or.inl hs
    rw [if_neg hi]
    exact e.condemn_called hs
  | destroy =>
    refine Or.inl ?_
    simp only [region, destroy] at hs
    split at hs
    · exact hs
    · cases hs
  | give c =>
    refine Or.inl ?_
    rw [← order_state e c]
    exact hs
  | turnDown op =>
    refine Or.inl ?_
    simp only [region] at hs
    split at hs <;> exact hs
  | state => exact Or.inl hs
  | status => exact Or.inl hs

theorem region_blames (e : Endpoint) (inside : Bool) (r : Region) :
    Blames e (e.region inside r).2 := by
  have hreason : (e.region inside r).2.driver.state = .aborted → e.driver.state = .aborted ∨
      Blame ((e.region inside r).2.driver.table.binds .error) (e.region inside r).2.history :=
    fun hs => (region_called e inside r hs).imp_right .call
  by_cases hr : ∃ status, r = .give (.updateStatus status)
  · obtain ⟨status, rfl⟩ := hr
    have ht := e.region_turns inside (.give (.updateStatus status))
    obtain ⟨-, htable, hpayload⟩ := (e.region_passage inside (.give (.updateStatus status))).same
    have hnew : ∃ new, (e.region inside (.give (.updateStatus status))).2.history =
        new ++ e.history ∧ ∀ v ∈ new, v.isGrave = false := by
      simp only [region, reported, order]
      split
      · exact ⟨[], rfl, by simp⟩
      split
      · exact ⟨[_], rfl, fun v hv => by rw [List.mem_singleton.mp hv]; rfl⟩
      · obtain ⟨new, hh, hn⟩ := e.issue_history status
        refine ⟨new ++ [_], by rw [hh, List.append_assoc]; rfl, fun v hv => ?_⟩
        rcases List.mem_append.mp hv with hv | hv
        · exact Event.isWork.not_grave (hn v hv)
        · rw [List.mem_singleton.mp hv]; rfl
    obtain ⟨new, hh, hn⟩ := hnew
    exact .of_reason new hh hn htable hpayload ht.isShut hreason
  · exact .of_works (e.region_turns inside r)
      (region_works e inside fun status hs => hr ⟨status, hs⟩).continues hreason

/-- What a callback's call does. -/
theorem conduct_blames (e : Endpoint) (errand : Errand) : Blames e (e.conduct errand).2 := by
  cases errand with
  | region r =>
    have h1 := region_blames e true r
    unfold conduct
    dsimp only
    split
    · rename_i r' e' hreg
      rw [hreg] at h1
      exact h1.trans (region_blames e' true r')
    · rename_i hreg
      rw [hreg] at h1
      exact h1
  | _ => exact .refl e

/-! ### The dispatch thread -/

theorem conclude_blames (e : Endpoint) (m : Message) : Blames e (e.conclude m) := by
  refine .of_works (e.conclude_deeds m).turns (e.conclude_works m).continues fun hs => ?_
  unfold conclude at hs ⊢
  split at hs
  · split at hs
    · rw [submit_state] at hs
      exact Or.inl hs
    · exact Or.inl hs
  · split at hs
    · rename_i ha
      rw [if_pos ha]
      exact (abort_called e hs).imp_right .call
    · exact Or.inl hs
  · exact Or.inl hs

theorem settle_blames (e : Endpoint) (uuid : Bytes) : Blames e (e.settle uuid) := by
  refine .of_state (e.settle_deeds uuid).turns (e.settle_continues uuid) ?_
  unfold settle
  split <;> rfl

theorem prepare_blames {e : Endpoint} (m : Message) (ha : e.driver.state.isActive = true) :
    Blames e (e.prepare m) := by
  obtain ⟨hd, hs⟩ := prepare_deeds m ha
  exact .of_state hd.turns (prepare_continues e m) hs

theorem tick_blames {e : Endpoint} (ha : e.driver.state.isActive = true) : Blames e e.tick.2 := by
  refine .of_state (tick_deeds ha).turns (tick_continues e) ?_
  unfold tick
  split
  · rfl
  split
  · rfl
  · exact (resend_deeds _ _ ha).2

theorem useTransport_blames {α : Type} (e : Endpoint)
    (f : Transport → Except Failure α × Transport) : Blames e (e.useTransport f).2 := by
  obtain ⟨cs, hcs⟩ := useTransport_history e f
  refine .extend _ hcs (fun v hv => ?_) rfl rfl rfl
  obtain ⟨c, -, rfl⟩ := List.mem_map.mp hv
  rfl

theorem connectStart_blames (e : Endpoint) : Blames e e.connectStart.2 :=
  (Blames.record rfl).trans (useTransport_blames _ _)

theorem connectEnd_blames (e : Endpoint) : Blames e e.connectEnd.2 := by
  have h1 := useTransport_blames e Transport.connectEnd
  have h2 : Blames e ((e.useTransport Transport.connectEnd).2.record .connected) :=
    h1.trans (.record rfl)
  unfold connectEnd
  dsimp only
  split
  · exact h1
  · split
    · exact h2
    · exact h2.trans (.note _)

theorem enter_blames (e : Endpoint) : Blames e e.enter.2 := by
  have hc := e.enter_continues
  have hstate : e.enter.2.driver.state = e.driver.state ∨
      e.driver.state = .started ∧ e.enter.2.driver.state = .running := by
    rcases e.enter_cases with ⟨-, he⟩ | ⟨-, f, -, he⟩ | ⟨hs, replyTo, -, he⟩
    · exact Or.inl (by rw [he]; rfl)
    · exact Or.inl (by rw [he])
    · exact Or.inr ⟨hs, by rw [he]; rfl⟩
  obtain ⟨new, hh, hw⟩ := hc.history
  refine .of_reason new hh (fun v hv => Event.isWork.not_grave (hw v hv)) hc.table hc.payload
    (fun hs => ?_) fun hs => ?_
  · rcases hstate with hx | ⟨hx, -⟩
    · rwa [hx]
    · rw [hx] at hs; cases hs
  · rcases hstate with hx | ⟨-, hx⟩
    · exact Or.inl (hx.symm.trans hs)
    · rw [hx] at hs; cases hs

/-- The driver leaves the cluster; it is active then only after misuse. -/
theorem leave_blames {e : Endpoint}
    (hm : e.driver.state.isActive = true → Misused e.history) : Blames e e.leave := by
  have hb : Blames e e.breakOff := by
    refine .of_works (breakOff_deeds e).turns (breakOff_works e).continues fun hs => ?_
    by_cases ha : e.driver.state.isActive = true
    · obtain ⟨f, hf, hm⟩ := hm ha
      have hh : e.history <:+ e.breakOff.history := (breakOff_deeds e).turns.history
      rcases hm with hm | ⟨slot, hm⟩
      · exact Or.inr (.misuse (hh.mem hm) hf)
      · exact Or.inr (.callback (hh.mem hm) (Or.inr hf))
    · have hsame : e.breakOff = e := by rw [breakOff, if_neg ha]
      rw [hsame] at hs
      exact Or.inl hs
  have hclose : ∀ x : Endpoint, Blames x x.closeTransport := by
    intro x
    have h1 : Blames x ((x.useTransport Transport.close).2.record .closed) :=
      (useTransport_blames x _).trans (.record rfl)
    unfold closeTransport
    dsimp only
    split
    · exact h1
    · exact h1.trans (.note _)
  refine (hb.trans ?_).trans (hclose _)
  exact .extend [] rfl (by simp) rfl rfl rfl

theorem signal_blames (e : Endpoint) : Blames e e.signal := by
  have h1 : Blames e { e with driver.done := true } :=
    .extend [] rfl (by simp) rfl rfl rfl
  exact h1.trans (.note _)

end Endpoint

end ClusterLink
