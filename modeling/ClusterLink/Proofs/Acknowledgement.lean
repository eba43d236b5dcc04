/-
# The acknowledgement of status updates

A scheduler acknowledges a status update implicitly, once its callback is
done, if it carries an identifier and the callback left the driver active.
The messages that its driver accepts for that are, one each and in order,
those that are due in the episodes of its history (`History.episodes`), and
each is accepted where it has to be: next when the callback is done.

When a callback returns, or a message is taken up that has none, an
acknowledgement may be due for a moment; it is accepted in the same move
(`Endpoint.Owes.conclude`). Between moves nothing is due.

Key definitions: `Endpoint.Owes`, `Frame.Attends`, `System.Acknowledges`,
`System.Acknowledgement`.
Key theorems: `Endpoint.Owes.unmarked`, `Endpoint.Owes.take`,
`Endpoint.Owes.returned`, `System.step_acknowledges`,
`System.run_acknowledgement`.
-/
import ClusterLink.Proofs.Route
import ClusterLink.Proofs.Unmarked

namespace ClusterLink

open History

/-- Nothing is due in the episode any more, or the acknowledgement is due right now. -/
def Episode.Settles (bound : Bool) (t : Episode) : Option Message → Prop
  | none => t.Placed bound
  | some a => t.acknowledgement? bound = some a ∧
    ∃ during, t.slot? bound = some during ∧ t.events = upTo bound during

/-- Of the acknowledgements in the episodes, the last one first, all were accepted, but for one at
most that is due now. -/
structure Owed (bound : Bool) (due : Option Message) (accepted : List Message)
    (ts : List Episode) : Prop where
  running : ∀ t ∈ ts, state t.before = .running
  exact : accepted ++ due.toList = Episode.dues bound ts
  past : ∀ t ∈ ts.tail, t.Placed bound
  last : ∀ t ∈ ts.head?, t.Settles bound due

namespace Owed

variable {bound : Bool} {a : Message} {due : Option Message} {acks : List Message}
  {t : Episode} {ts : List Episode} {new : List Event}

theorem placed (h : Owed bound none acks ts) : ∀ t ∈ ts, t.Placed bound := by
  intro t ht
  cases ts with
  | nil => cases ht
  | cons u us =>
    rcases List.mem_cons.mp ht with rfl | ht
    · exact h.last t rfl
    · exact h.past t ht

/-- The last episode may be another one if it began in the same state. -/
theorem replace {due' : Option Message} {acks' : List Message} {t' : Episode}
    (h : Owed bound due acks (t :: ts)) (hb : t'.before = t.before)
    (hex : acks' ++ due'.toList = Episode.dues bound (t' :: ts)) (hs : t'.Settles bound due') :
    Owed bound due' acks' (t' :: ts) := by
  refine ⟨fun u hu => ?_, hex, h.past, fun u hu => ?_⟩
  · rcases List.mem_cons.mp hu with rfl | hu
    · rw [hb]
      exact h.running t List.mem_cons_self
    · exact h.running u (List.mem_cons_of_mem _ hu)
  · obtain rfl := Option.some.inj hu
    exact hs

/-- What has no part in it may happen when nothing is due. -/
theorem grow (h : Owed bound none acks ts) (hn : ∀ v ∈ new, v.isReturn = false) :
    Owed bound none acks (ts.modifyHead (Episode.grow new)) := by
  cases ts with
  | nil => exact h
  | cons u us =>
    refine h.replace rfl ?_ ((h.placed u List.mem_cons_self).grow hn)
    rw [h.exact, Episode.dues_cons, Episode.dues_cons, Episode.acknowledgement?_grow hn]

/-- A message is taken up; if no callback is bound for it, it may be due to acknowledge it. -/
theorem take (h : Owed bound none acks ts) (hr : state t.before = .running)
    (ht : t.events = []) : Owed bound (t.acknowledgement? bound) acks (t :: ts) := by
  refine ⟨fun u hu => ?_, ?_, h.placed, fun u hu => ?_⟩
  · rcases List.mem_cons.mp hu with rfl | hu
    · exact hr
    · exact h.running u hu
  · rw [Episode.dues_cons, ← h.exact, Option.toList_none, List.append_nil]
  · obtain rfl := Option.some.inj hu
    cases ha : t.acknowledgement? bound with
    | none => exact fun a' ha' => absurd (ha.symm.trans ha') (by simp)
    | some a =>
      refine ⟨ha, ?_⟩
      cases bound with
      | false => exact ⟨[], rfl, ht⟩
      | true =>
        have hnone : t.slot? true = none := Episode.slot?_of_none (by simp [ht])
        simp [Episode.acknowledgement?, hnone] at ha

/-- The callback for a status update returns; it may be due to acknowledge it. -/
theorem returned (h : Owed true none acks (t :: ts)) (hn : ∀ v ∈ t.events, v.isReturn = false) :
    Owed true ((t.grow [.ended .statusUpdate]).acknowledgement? true) acks
      (t.grow [.ended .statusUpdate] :: ts) := by
  have hnone : t.acknowledgement? true = none := by
    simp [Episode.acknowledgement?, Episode.slot?_of_none hn]
  refine h.replace rfl ?_ ?_
  · have hex := h.exact
    rw [Episode.dues_cons, hnone, Option.toList_none, List.append_nil, List.append_nil] at hex
    rw [Episode.dues_cons, hex]
  · cases ha : (t.grow [.ended .statusUpdate]).acknowledgement? true with
    | none => exact fun a' ha' => absurd (ha.symm.trans ha') (by simp)
    | some a => exact ⟨ha, t.events, Episode.slot?_of_return rfl, rfl⟩

/-- The acknowledgement that is due is accepted. -/
theorem pay (h : Owed bound (some a) acks (t :: ts)) :
    Owed bound none (acks ++ [a]) (t.grow [.accepted .acknowledgement a] :: ts) := by
  obtain ⟨hack, during, hslot, hevents⟩ := h.last t rfl
  have hn : ∀ v ∈ [Event.accepted .acknowledgement a], v.isReturn = false := by
    simp [Event.isReturn]
  have hack' := (Episode.acknowledgement?_grow hn).trans hack
  refine h.replace rfl ?_ fun a' ha' => ?_
  · rw [Episode.dues_cons, hack', Option.toList_none, List.append_nil]
    exact h.exact.trans ((Episode.dues_cons t ts).trans (by rw [hack]))
  · obtain rfl := Option.some.inj (hack'.symm.trans ha')
    exact ⟨[], during, (Episode.slot?_grow hn).trans hslot, congrArg (_ :: ·) hevents⟩

end Owed

namespace Endpoint

/-- The acknowledgements that were due were accepted, but for one at most that is due now. -/
structure Owes (bound : Bool) (due : Option Message) (e : Endpoint) : Prop where
  registered : e.driver.frameworkId = registeredAs e.history
  owed : Owed bound due (acknowledgements e.history) (episodes e.history)

variable {e e' : Endpoint} {bound : Bool} {due : Option Message} {m : Message}

/-- What does not bear on acknowledgements leaves nothing due. -/
theorem Owes.unmarked (h : e.Owes bound none) (hu : Unmarked e e') : e'.Owes bound none := by
  obtain ⟨-, hf, new, hh, hn⟩ := hu
  refine ⟨?_, ?_⟩
  · rw [hf, hh, registeredAs_append fun v hv => Event.registered?_of_not_mark (hn v hv)]
    exact h.registered
  · rw [hh, acknowledgements_append hn,
      episodes_append fun v hv => Event.taken?_of_not_mark (hn v hv)]
    exact h.owed.grow fun v hv => Event.isReturn_of_not_mark (hn v hv)

/-- What a scheduler's driver makes of a message before its callback is the identifier that the
framework is registered with. -/
theorem prepare_scheduler (hr : e.driver.role = .scheduler) (m : Message) :
    (e.prepare m).history = e.history ∧ (e.prepare m).driver.state = e.driver.state ∧
      (e.prepare m).driver.role = .scheduler ∧
      (e.prepare m).driver.frameworkId =
        ((Event.taken m).registered?).getD e.driver.frameworkId := by
  unfold prepare
  rw [hr]
  cases m <;> exact ⟨rfl, rfl, hr, rfl⟩

/-- A message is taken up by a scheduler that is running. -/
theorem Owes.take (h : e.Owes bound none) (hr : e.driver.role = .scheduler)
    (hs : state e.history = .running) (m : Message) :
    ((e.record (.taken m)).prepare m).Owes bound
      (Episode.acknowledgement? bound ⟨e.history, m, []⟩) := by
  obtain ⟨hhist, -, -, hf⟩ := prepare_scheduler (e := e.record (.taken m)) hr m
  have hhist : ((e.record (.taken m)).prepare m).history = .taken m :: e.history := hhist
  refine ⟨?_, ?_⟩
  · rw [hhist, hf]
    cases hreg : (Event.taken m).registered? with
    | some f => simp [registeredAs, hreg]
    | none =>
      exact h.registered.trans (registeredAs_cons hreg).symm
  · have ha : acknowledgements (.taken m :: e.history) = acknowledgements e.history := by
      simp [acknowledgements, Event.accepted?]
    rw [hhist, episodes_taken, ha]
    exact h.owed.take hs rfl

/-- The callback for a status update returns. -/
theorem Owes.returned (h : e.Owes true none) {t : Episode} {ts : List Episode}
    (ht : episodes e.history = t :: ts) (hn : ∀ v ∈ t.events, v.isReturn = false) :
    (e.record (.ended .statusUpdate)).Owes true
      ((t.grow [.ended .statusUpdate]).acknowledgement? true) := by
  have hep : episodes (e.record (.ended .statusUpdate)).history =
      t.grow [.ended .statusUpdate] :: ts := by
    have hnone : ∀ v ∈ [Event.ended .statusUpdate], v.taken? = none := by simp [Event.taken?]
    exact (episodes_append hnone).trans (by rw [ht]; rfl)
  have ha : acknowledgements (e.record (.ended .statusUpdate)).history =
      acknowledgements e.history := by
    simp [acknowledgements, Endpoint.record, Event.accepted?]
  have howed := h.owed
  rw [ht] at howed
  refine ⟨h.registered.trans (registeredAs_cons rfl).symm, ?_⟩
  rw [hep, ha]
  exact howed.returned hn

/-- A scheduler that has something to acknowledge does so after the callback. -/
theorem conclude_of_due (hr : e.driver.role = .scheduler) {a : Message}
    (h : e.acknowledges m = [a]) :
    a.isAcknowledgement = true ∧ e.conclude m = e.submit .acknowledgement a := by
  unfold acknowledges at h
  unfold conclude
  rw [hr] at h ⊢
  cases m with
  | statusUpdate status uuid =>
    by_cases hc : uuid ≠ [] ∧ e.driver.state.isActive = true
    · simp only [true_and, if_pos hc] at h
      obtain rfl := (List.cons.inj h).1
      exact ⟨rfl, if_pos hc⟩
    · simp only [true_and, if_neg hc] at h
      cases h
  | _ => cases h

/-- The driver accepts what is due. -/
theorem Owes.conclude (h : e.Owes bound due) (hr : e.driver.role = .scheduler)
    (hd : e.acknowledges m = due.toList) : (e.conclude m).Owes bound none := by
  cases due with
  | none =>
    rw [conclude_of_nil hr hd]
    exact h
  | some a =>
    obtain ⟨hack, hc⟩ := conclude_of_due hr hd
    have hnone : ∀ v ∈ [Event.accepted .acknowledgement a], v.taken? = none := by
      simp [Event.taken?]
    have hpay : (e.record (.accepted .acknowledgement a)).Owes bound none := by
      refine ⟨h.registered.trans (registeredAs_cons rfl).symm, ?_⟩
      have hep := episodes_append (h := e.history) hnone
      have ha : acknowledgements (.accepted .acknowledgement a :: e.history) =
          acknowledgements e.history ++ [a] := by
        simp [acknowledgements, Event.accepted?, hack]
      have howed := h.owed
      cases ht : episodes e.history with
      | nil =>
        -- there would be no episode that it is due in
        have hex := howed.exact
        rw [ht] at hex
        simp [Episode.dues] at hex
      | cons t ts =>
        rw [ht] at howed hep
        show Owed bound none (acknowledgements (.accepted .acknowledgement a :: e.history))
          (episodes ([.accepted .acknowledgement a] ++ e.history))
        rw [hep, ha]
        exact howed.pay
    rw [hc]
    exact hpay.unmarked (push_unmarked _ a)

/-- When the callback for a status update is done, the driver has to acknowledge what is due. -/
theorem acknowledges_eq {t : Episode} {during : List Event} (hr : e.driver.role = .scheduler)
    (hf : e.driver.frameworkId = registeredAs t.before)
    (hs : state (during ++ .taken t.message :: t.before) = e.driver.state)
    (hslot : t.slot? bound = some during) :
    e.acknowledges t.message = (t.acknowledgement? bound).toList := by
  obtain ⟨before, m, events⟩ := t
  cases m with
  | statusUpdate status uuid =>
    simp only [acknowledges, Episode.acknowledgement?, hslot, hs, hr, hf, true_and]
    by_cases hc : uuid ≠ [] ∧ e.driver.state.isActive = true
    · rw [if_pos hc, if_pos hc]
      rfl
    · rw [if_neg hc, if_neg hc]
      rfl
  | _ => rfl

/-- A message was just taken up, and no callback is bound for it. -/
theorem acknowledges_taken (h : e.driver.frameworkId = registeredAs e.history)
    (hs : state e.history = e.driver.state) (hr : e.driver.role = .scheduler) (m : Message) :
    ((e.record (.taken m)).prepare m).acknowledges m =
      (Episode.acknowledgement? false ⟨e.history, m, []⟩).toList := by
  obtain ⟨-, hst, hrole, hf⟩ := prepare_scheduler (e := e.record (.taken m)) hr m
  cases hreg : (Event.taken m).registered? with
  | some f =>
    cases m with
    | statusUpdate => cases hreg
    | _ => rfl
  | none =>
    rw [hreg] at hf
    have hnow : state ([] ++ .taken m :: e.history) =
        ((e.record (.taken m)).prepare m).driver.state := hs.trans hst.symm
    exact acknowledges_eq (t := ⟨e.history, m, []⟩) hrole (hf.trans h) hnow rfl

/-- The callback for a status update just returned. -/
theorem acknowledges_returned (h : e.driver.frameworkId = registeredAs e.history)
    (hs : state e.history = e.driver.state) (hr : e.driver.role = .scheduler) {t : Episode}
    {ts : List Episode} {status uuid : Bytes} (ht : episodes e.history = t :: ts)
    (hm : t.message = .statusUpdate status uuid) :
    (e.record (.ended .statusUpdate)).acknowledges t.message =
      ((t.grow [.ended .statusUpdate]).acknowledgement? true).toList := by
  obtain ⟨hh, hn, -⟩ := episodes_eq_cons ht
  have hreg : registeredAs e.history = registeredAs t.before := by
    rw [hh, registeredAs_append fun v hv => Event.registered?_of_not_taken (hn v hv), hm]
    exact registeredAs_taken fun _ _ => Message.noConfusion
  have hnow : state (t.events ++ .taken t.message :: t.before) = e.driver.state := by
    rw [← hh, hs]
  exact acknowledges_eq (t := t.grow [.ended .statusUpdate])
    (e := e.record (.ended .statusUpdate)) hr (h.trans hreg) hnow (Episode.slot?_of_return rfl)

end Endpoint

/-! ### Callbacks for status updates -/

/-- A callback of the slot for status updates is one for the status update that was taken up last,
and did not return yet. -/
structure Frame.Attends (bound : Bool) (h : List Event) (frame : Frame) : Prop where
  slot : frame.slot = .statusUpdate →
    ∃ status uuid rest, frame.after = .message (.statusUpdate status uuid) rest
  update : ∀ status uuid rest, frame.after = .message (.statusUpdate status uuid) rest →
    frame.slot = .statusUpdate ∧ bound = true ∧ ∃ t ts, episodes h = t :: ts ∧
      t.message = .statusUpdate status uuid ∧ ∀ v ∈ t.events, v.isReturn = false

/-- It attends to the status update as long as nothing bears on acknowledgements. -/
theorem Frame.Attends.unmarked {bound : Bool} {frame frame' : Frame} {e e' : Endpoint}
    (h : frame.Attends bound e.history) (hs : frame'.slot = frame.slot)
    (ha : frame'.after = frame.after) (hu : Endpoint.Unmarked e e') :
    frame'.Attends bound e'.history := by
  obtain ⟨-, -, new, hh, hn⟩ := hu
  refine ⟨fun hslot => ?_, fun status uuid rest hafter => ?_⟩
  · rw [ha]
    exact h.slot (hs.symm.trans hslot)
  · obtain ⟨hslot, hb, t, ts, ht, hm, hret⟩ := h.update status uuid rest (ha.symm.trans hafter)
    refine ⟨hs.trans hslot, hb, t.grow new, ts, ?_, hm, fun v hv => ?_⟩
    · rw [hh, episodes_append fun v hv => Event.taken?_of_not_mark (hn v hv), ht]
      rfl
    · rcases List.mem_append.mp hv with hv | hv
      · exact Event.isReturn_of_not_mark (hn v hv)
      · exact hret v hv

theorem After.phase_ne_calling (after : After) (frame : Frame) : after.phase ≠ .calling frame := by
  cases after with
  | message m rest => cases rest <;> exact Phase.noConfusion
  | _ => exact Phase.noConfusion

theorem Phase.Leads.ne_calling {p p' : Phase} (h : p.Leads p') (frame : Frame) :
    p' ≠ .calling frame := by
  cases h with
  | gather ms => cases ms <;> exact Phase.noConfusion
  | drop m rest => cases rest <;> exact Phase.noConfusion
  | _ => exact Phase.noConfusion

namespace System

variable {s : System} {frame : Frame} {bound : Bool}

theorem invoke_calling {slot : Slot} {args : List Parameter} {after : After}
    (h : (s.invoke slot args after).phase = .calling frame) :
    s.driver.table.binds slot = true ∧ frame.slot = slot ∧ frame.after = after := by
  unfold invoke at h
  by_cases hb : s.driver.table.binds slot = true
  · rw [if_pos hb] at h
    obtain rfl := Phase.calling.inj h
    exact ⟨hb, rfl, rfl⟩
  · rw [if_neg hb, resume_phase] at h
    exact absurd h (after.phase_ne_calling frame)

theorem fail_calling {message : WideText} {after : After}
    (h : (s.fail message after).phase = .calling frame) :
    frame.slot = .error ∧ frame.after = after := by
  rcases s.fail_cases message after with ⟨-, b, -, he⟩ | ⟨-, -, he⟩ | ⟨-, he⟩ <;> rw [he] at h
  · exact (invoke_calling h).2
  · exact absurd h (escape_ne_calling _ _ frame)
  · rw [resume_phase] at h
    exact absurd h (after.phase_ne_calling frame)

/-- A callback that runs after a move of the dispatch thread did so before, unless a message was
taken up, or is the error callback for a failure of the driver itself. -/
theorem dispatch_calling (hm : ¬ s.Marking) (h : s.dispatch.phase = .calling frame) :
    (∃ g, s.phase = .calling g ∧ frame.slot = g.slot ∧ frame.after = g.after) ∨
      frame.slot = .error ∧ frame.after.isAlarm = true := by
  cases s.dispatch_next with
  | stay hp => exact Or.inl ⟨frame, hp.symm.trans h, rfl, rfl⟩
  | lead hp => exact absurd h (hp.ne_calling frame)
  | quit _ hp' _ => rw [h] at hp'; cases hp'
  | fault _ hp' _ => rw [h] at hp'; cases hp'
  | resume _ hp' _ => exact absurd (hp'.symm.trans h) (After.phase_ne_calling _ frame)
  | escape _ hp' _ =>
    rw [h] at hp'
    split at hp' <;> cases hp'
  | misuse _ hp' _ _ => rw [h] at hp'; cases hp'
  | act hp hp' ha hs =>
    obtain rfl := Phase.calling.inj (h.symm.trans hp')
    exact Or.inl ⟨_, hp, hs, ha⟩
  | begin hc ha hp' _ _ =>
    obtain rfl := Phase.calling.inj (h.symm.trans hp')
    refine Or.inr ?_
    cases hp : s.phase with
    | handling ms =>
      -- a driver that is not active takes nothing up
      cases ms with
      | nil => rw [hp] at ha; cases ha
      | cons m rest =>
        have hi : ¬ s.driver.state.isActive = true := fun hact => hm (Or.inl ⟨m, rest, hp, hact⟩)
        simp only [dispatch, hp, handle, if_neg hi] at h
        cases rest <;> cases h
    | reporting f | escaped f =>
      simp only [dispatch, hp] at h
      obtain ⟨hslot, hafter⟩ := fail_calling h
      exact ⟨hslot, by rw [hafter]; rfl⟩
    | calling g => exact absurd hp (hc g)
    | _ => rw [hp] at ha; cases ha

/-- All acknowledgements that were due were accepted, and a callback that runs attends to the
status update that it is for. -/
structure Attentive (bound : Bool) (s : System) : Prop where
  owes : s.endpoint.Owes bound none
  attends : ∀ frame, s.phase = .calling frame → frame.Attends bound s.endpoint.history

/-- That is so of a scheduler between moves. -/
structure Acknowledges (bound : Bool) (s : System) : Prop extends Attentive bound s where
  role : s.driver.role = .scheduler
  table : s.driver.table.binds .statusUpdate = bound

/-- The driver stays what it is. -/
theorem acknowledges_of_attentive (h : s.Sound) {m : Move} (ha : s.Acknowledges bound)
    (hs : (s.step m).Attentive bound) : (s.step m).Acknowledges bound := by
  obtain ⟨hr, ht, -⟩ := step_same h m
  refine ⟨hs, hr.trans ha.role, ?_⟩
  rw [ht]
  exact ha.table

/-! ### Most moves -/

/-- Most moves do not bear on acknowledgements. -/
theorem step_attentive_unmarked (ha : s.Acknowledges bound) {m : Move}
    (hm : m = .go .dispatch → ¬ s.Marking) : (s.step m).Attentive bound := by
  have hu := step_unmarked ha.role hm
  refine ⟨ha.owes.unmarked hu, fun frame hp => ?_⟩
  have hkeep : (∃ g, s.phase = .calling g ∧ frame.slot = g.slot ∧ frame.after = g.after) ∨
      frame.slot = .error ∧ frame.after.isAlarm = true := by
    by_cases hd : m = .go .dispatch
    · subst hd
      rcases s.step_dispatch with he | he
      · rw [he] at hp
        exact Or.inl ⟨frame, hp, rfl, rfl⟩
      · rw [he] at hp
        exact dispatch_calling (hm rfl) hp
    · rcases s.others_phase hd with hp' | ⟨-, hp'⟩ | ⟨g, hg, hp'⟩
      · exact Or.inl ⟨frame, hp'.symm.trans hp, rfl, rfl⟩
      · rw [hp'] at hp; cases hp
      · obtain rfl := Phase.calling.inj (hp.symm.trans hp')
        exact Or.inl ⟨g, hg, rfl, rfl⟩
  rcases hkeep with ⟨g, hg, hslot, hafter⟩ | ⟨hslot, halarm⟩
  · exact (ha.attends g hg).unmarked hslot hafter hu
  · refine ⟨fun hs => ?_, fun status uuid rest hafter => ?_⟩
    · rw [hslot] at hs; cases hs
    · rw [hafter] at halarm; cases halarm

/-! ### Taking a message up -/

/-- The callback of the slot for status updates is for these only. -/
theorem reaction_statusUpdate {d : Driver} (hr : d.role = .scheduler) {m : Message} {slot : Slot}
    {args : List Parameter} (h : d.reaction m = .invoke slot args) :
    slot = .statusUpdate ↔ ∃ status uuid, m = .statusUpdate status uuid := by
  unfold Driver.reaction at h
  rw [hr] at h
  cases m with
  | statusUpdate status uuid =>
    obtain ⟨rfl, -⟩ := Reaction.invoke.inj h
    exact ⟨fun _ => ⟨status, uuid, rfl⟩, fun _ => rfl⟩
  | _ =>
    refine ⟨?_, by simp⟩
    rintro rfl
    cases h

/-- A message for which no callback is to begin is no status update. -/
theorem ne_statusUpdate_of_reaction {d : Driver} (hr : d.role = .scheduler) {m : Message}
    (h : ∀ slot args, d.reaction m ≠ .invoke slot args) (status uuid : Bytes) :
    m ≠ .statusUpdate status uuid := by
  rintro rfl
  refine h .statusUpdate [.envelope status] ?_
  unfold Driver.reaction
  rw [hr]
  rfl

/-- The system when a message was just taken up, after that history. -/
structure Faces (bound : Bool) (h : List Event) (m : Message) (s : System) : Prop where
  role : s.driver.role = .scheduler
  table : s.driver.table.binds .statusUpdate = bound
  history : s.endpoint.history = .taken m :: h
  owes : s.endpoint.Owes bound (Episode.acknowledgement? bound ⟨h, m, []⟩)
  /-- What the driver has to acknowledge if there is no callback. -/
  due : s.endpoint.acknowledges m = (Episode.acknowledgement? false ⟨h, m, []⟩).toList

theorem facing_faces (hrec : s.endpoint.Recorded []) (ha : s.Acknowledges bound) (m : Message)
    (hrun : s.driver.state = .running) : (s.facing m).Faces bound s.endpoint.history m := by
  have hact : s.driver.state.isActive = true := by rw [hrun]; rfl
  obtain ⟨hr, ht, -⟩ := (facing_driver m hact).1
  refine ⟨hr.trans ha.role, ?_, ?_, ?_, ?_⟩
  · rw [ht]
    exact ha.table
  · exact (Endpoint.prepare_scheduler (e := s.endpoint.record (.taken m)) ha.role m).1
  · exact ha.owes.take ha.role (hrec.state.trans hrun) m
  · exact Endpoint.acknowledges_taken ha.owes.registered hrec.state ha.role m

namespace Faces

variable {h : List Event} {m : Message} {rest : List Message}

/-- Nothing is due at once, unless the slot for status updates is not bound. -/
theorem none_due (hf : s.Faces bound h m)
    (hm : bound = true ∨ ∀ status uuid, m ≠ .statusUpdate status uuid) :
    s.endpoint.Owes bound none := by
  have hdue : Episode.acknowledgement? bound ⟨h, m, []⟩ = none := by
    rcases hm with rfl | hne
    · have hslot := Episode.slot?_of_none (t := ⟨h, m, []⟩) (by simp)
      simp [Episode.acknowledgement?, hslot]
    · exact Episode.acknowledgement?_of_ne hne
  have howes := hf.owes
  rwa [hdue] at howes

/-- The callback for the message begins. -/
theorem begin (hf : s.Faces bound h m) {slot : Slot} (args : List Parameter)
    (hslot : slot = .statusUpdate ↔ ∃ status uuid, m = .statusUpdate status uuid)
    (hb : s.driver.table.binds slot = true) :
    (s.invoke slot args (.message m rest)).Attentive bound := by
  have hbound : slot = .statusUpdate → bound = true := fun hs => by
    rw [← hf.table, ← hs]
    exact hb
  have hnone : s.endpoint.Owes bound none := by
    refine hf.none_due ?_
    by_cases hs : slot = .statusUpdate
    · exact Or.inl (hbound hs)
    · exact Or.inr fun status uuid hm => hs (hslot.mpr ⟨status, uuid, hm⟩)
  have hu : Endpoint.Unmarked s.endpoint (s.invoke slot args (.message m rest)).endpoint :=
    invoke_unmarked hf.role slot args fun hn => by rw [hb] at hn; cases hn
  refine ⟨hnone.unmarked hu, fun frame hc => ?_⟩
  obtain ⟨-, hfs, hfa⟩ := invoke_calling hc
  refine ⟨fun hs => ?_, fun status uuid rest' hs => ?_⟩
  · obtain ⟨status, uuid, rfl⟩ := hslot.mp (hfs.symm.trans hs)
    exact ⟨status, uuid, rest, hfa⟩
  · obtain ⟨rfl, -⟩ := After.message.inj (hfa.symm.trans hs)
    have hs : slot = .statusUpdate := hslot.mpr ⟨status, uuid, rfl⟩
    obtain ⟨-, -, new, hh, hn⟩ := hu
    refine ⟨hfs.trans hs, hbound hs, Episode.grow new ⟨h, .statusUpdate status uuid, []⟩,
      episodes h, ?_, rfl, fun v hv => ?_⟩
    · rw [hh, episodes_append fun v hv => Event.taken?_of_not_mark (hn v hv), hf.history,
        episodes_taken]
      rfl
    · exact Event.isReturn_of_not_mark (hn v (by simpa [Episode.grow] using hv))

/-- There is no callback for the message, and the driver accepts what is due. -/
theorem skip (hf : s.Faces bound h m) {slot : Slot}
    (hslot : slot = .statusUpdate ↔ ∃ status uuid, m = .statusUpdate status uuid)
    (hb : s.driver.table.binds slot = false) : (s.resume (.message m rest)).Attentive bound := by
  refine ⟨hf.owes.conclude hf.role ?_, fun frame hc => ?_⟩
  · rw [hf.due]
    by_cases hm : ∃ status uuid, m = .statusUpdate status uuid
    · have hs : bound = false := by
        rw [← hf.table, ← hslot.mpr hm]
        exact hb
      rw [hs]
    · have hne : ∀ status uuid, m ≠ .statusUpdate status uuid := fun status uuid he =>
        hm ⟨status, uuid, he⟩
      rw [Episode.acknowledgement?_of_ne hne, Episode.acknowledgement?_of_ne hne]
  · rw [resume_phase] at hc
    exact absurd hc (After.phase_ne_calling _ frame)

/-- The message tells of a failure. -/
theorem fail (hf : s.Faces bound h m) (message : WideText)
    (hne : ∀ status uuid, m ≠ .statusUpdate status uuid) :
    (s.fail message (.message m rest)).Attentive bound := by
  refine ⟨(hf.none_due (Or.inr hne)).unmarked (fail_unmarked hf.role _ _), fun frame hc => ?_⟩
  obtain ⟨hslot, hafter⟩ := fail_calling hc
  refine ⟨fun hs => ?_, fun status uuid rest' hs => ?_⟩
  · rw [hslot] at hs
    cases hs
  · rw [hafter] at hs
    exact absurd (After.message.inj hs).1 (hne status uuid)

end Faces

/-- A message is taken up. -/
theorem take_attentive (hrec : s.endpoint.Recorded []) (ha : s.Acknowledges bound) (m : Message)
    (rest : List Message) (hrun : s.driver.state = .running) :
    (s.take m rest).Attentive bound := by
  have hf := facing_faces hrec ha m hrun
  rw [take_eq m rest (by rw [hrun]; rfl)]
  cases hre : s.driver.reaction m with
  | settle uuid =>
    -- a scheduler settles nothing
    unfold Driver.reaction at hre
    rw [ha.role] at hre
    cases m <;> cases hre
  | ignore =>
    have hne := ne_statusUpdate_of_reaction ha.role (m := m) (by simp [hre])
    refine ⟨(hf.none_due (Or.inr hne)).unmarked (Endpoint.note_unmarked _ _), fun frame hc => ?_⟩
    exact absurd hc ((After.message m rest).phase_ne_calling frame)
  | fail message => exact hf.fail message (ne_statusUpdate_of_reaction ha.role (by simp [hre]))
  | invoke slot args =>
    have hslot := reaction_statusUpdate ha.role hre
    cases hb : (s.facing m).driver.table.binds slot with
    | true => exact hf.begin args hslot hb
    | false =>
      have hres : (s.facing m).invoke slot args (.message m rest) =
          (s.facing m).resume (.message m rest) := by
        unfold invoke
        rw [hb]
        rfl
      show ((s.facing m).invoke slot args (.message m rest)).Attentive bound
      rw [hres]
      exact hf.skip hslot hb

/-! ### Returning -/

/-- A callback returns. -/
theorem return_attentive (hrec : s.endpoint.Recorded []) (ha : s.Acknowledges bound)
    (hp : s.phase = .calling frame) : (s.endCallback frame none).Attentive bound := by
  have hidle : ∀ g, (s.endCallback frame none).phase ≠ .calling g := fun g hc => by
    simp only [endCallback, resume_phase] at hc
    exact After.phase_ne_calling _ g hc
  refine ⟨?_, fun g hc => absurd hc (hidle g)⟩
  have hatt := ha.attends frame hp
  by_cases hs : frame.slot = .statusUpdate
  · obtain ⟨status, uuid, rest, hafter⟩ := hatt.slot hs
    obtain ⟨-, rfl, t, ts, ht, hm, hret⟩ := hatt.update status uuid rest hafter
    have hdue := Endpoint.acknowledges_returned ha.owes.registered hrec.state ha.role ht hm
    simp only [endCallback, hs, hafter, resume]
    rw [← hm]
    exact (ha.owes.returned ht hret).conclude ha.role hdue
  · have hended : Endpoint.Unmarked s.endpoint (s.endpoint.record (.ended frame.slot)) := by
      refine .record _ ?_
      cases hslot : frame.slot with
      | statusUpdate => exact absurd hslot hs
      | _ => rfl
    have hres : (s.endpoint.record (.ended frame.slot)).resumes frame.after = [] := by
      cases hafter : frame.after with
      | message m rest =>
        cases m with
        | statusUpdate status uuid => exact absurd (hatt.update status uuid rest hafter).1 hs
        | _ => rfl
      | _ => rfl
    have hgo := resume_unmarked (s := { s.record (.ended frame.slot) with
      store := s.store.releaseAll frame.lent }) ha.role hres
    exact ha.owes.unmarked (hended.trans hgo)

/-! ### Runs -/

theorem step_acknowledges (h : s.Sound) (hrec : s.endpoint.Recorded []) (ha : s.Acknowledges bound)
    (m : Move) : (s.step m).Acknowledges bound := by
  refine acknowledges_of_attentive h ha ?_
  by_cases hm : m = .go .dispatch ∧ s.Marking
  · obtain ⟨rfl, ⟨x, rest, hp, hact⟩ | ⟨frame, hp, hheld, hacts⟩⟩ := hm
    · have had := h.admits
      rw [hp] at had
      rw [step_handling hp, handle, if_pos hact]
      exact take_attentive hrec ha x rest (running_of_active hact had.2)
    · have hstep : s.step (.go .dispatch) = s.endCallback frame none := by
        simp [step, need, dispatchNeed, hp, hheld, provides, advance, dispatch, act, hacts]
      rw [hstep]
      exact return_attentive hrec ha hp
  · exact step_attentive_unmarked ha fun hd hk => hm ⟨hd, hk⟩

theorem Begins.acknowledges (h : s.Begins) (hr : s.driver.role = .scheduler) :
    s.Acknowledges (s.driver.table.binds .statusUpdate) := by
  obtain ⟨a, remote, ha⟩ := h.made
  have hh := h.history
  refine ⟨⟨⟨?_, ?_⟩, fun frame hp => ?_⟩, hr, rfl⟩
  · rw [hh]
    exact Application.frameworkId_of_driver ha hr
  · rw [hh]
    exact ⟨by simp [episodes], rfl, by simp [episodes], by simp [episodes]⟩
  · rw [h.phase] at hp
    cases hp

/-- Between the moves of a run all acknowledgements that were due were accepted. -/
theorem run_acknowledges (h : s.Begins) (hr : s.driver.role = .scheduler) (moves : List Move) :
    (s.run moves).Acknowledges (s.driver.table.binds .statusUpdate) := by
  refine (run_invariant (P := fun t => t.endpoint.Recorded [] ∧ t.Acknowledges _) ?_ h.sound
    ⟨h.recorded, h.acknowledges hr⟩ moves).2
  exact fun t m ht ⟨hrec, ha⟩ => ⟨run_recorded ht hrec [m], step_acknowledges ht hrec ha m⟩

/-- The acknowledgements that a scheduler's driver accepted for sending, by what it handled. Each
message that was taken up has its episode, a stretch of the history; the status updates that are
acknowledged, and with what, are told by `Episode.acknowledgement?`. -/
structure Acknowledgement (bound : Bool) (s : System) : Prop where
  handled : handled s.endpoint.history =
    (episodes s.endpoint.history).reverse.map Episode.message
  stretch : ∀ t ∈ episodes s.endpoint.history,
    t.events ++ .taken t.message :: t.before <:+ s.endpoint.history ∧
      ∀ v ∈ t.events, v.taken? = none
  /-- They are those that are due in the episodes, one each and in order. -/
  exact : acknowledgements s.endpoint.history = Episode.dues bound (episodes s.endpoint.history)
  /-- Each is accepted when the callback is done, next to what happened by then. -/
  placed : ∀ t ∈ episodes s.endpoint.history, t.Placed bound
  /-- The driver is active when the callback is done if nothing shut it down meanwhile. -/
  survives : ∀ t ∈ episodes s.endpoint.history, ∀ during, t.slot? bound = some during →
    ((state (during ++ .taken t.message :: t.before)).isActive = true ↔
      ∀ l, .became l ∈ during → l.isShut = false)

/-- A driver that is running stays so until it is shut down. -/
theorem running_of_none_shut {h past during : List Event} (H : Chronicle h)
    (hs : during ++ past <:+ h) (hr : state past = .running)
    (hn : ∀ l, .became l ∈ during → l.isShut = false) : state (during ++ past) = .running := by
  induction during with
  | nil => exact hr
  | cons v during ih =>
    have hst := ih ((List.suffix_cons _ _).trans hs) fun l hl => hn l (List.mem_cons_of_mem _ hl)
    cases hv : v.state? with
    | none => simpa [hv] using hst
    | some l =>
      obtain rfl : v = .became l := by
        cases v <;> cases hv
        rfl
      have hl := hn l List.mem_cons_self
      rcases always_iff.mp H.documented_or_lapse _ _ hs with hd | ⟨hlapse, -⟩
      · rcases hd l rfl with rfl | hstep
        · exact hst
        · have hstep : Lifecycle.Step .running l := hst ▸ hstep
          cases hstep <;> cases hl
      · obtain rfl := Event.became.inj hlapse
        cases hl

/-- A driver that was shut down is not active any more. -/
theorem active_iff_none_shut {h past during : List Event} (H : Chronicle h)
    (hs : during ++ past <:+ h) (hr : state past = .running) :
    (state (during ++ past)).isActive = true ↔ ∀ l, .became l ∈ during → l.isShut = false := by
  refine ⟨fun ha l hl => ?_, fun hn => ?_⟩
  · obtain ⟨later, earlier, rfl⟩ := List.append_of_mem hl
    by_contra hshut
    have hstay : (state (later ++ .became l :: earlier ++ past)).isShut = true := by
      refine H.shut_stays (.became l :: (earlier ++ past)) _ ?_ hs ?_
      · exact ⟨later, by simp⟩
      · exact (Bool.not_eq_false _).mp hshut
    rw [Lifecycle.not_active_of_isShut hstay] at ha
    cases ha
  · rw [running_of_none_shut H hs hr hn]
    rfl

/-- In every run of a scheduler's driver the acknowledgements that it accepted for sending are, in
order and one each, for the status updates that were handled, have an identifier, and whose
callback, if there is one, left the driver active. -/
theorem run_acknowledgement (h : s.Begins) (hr : s.driver.role = .scheduler) (moves : List Move) :
    (s.run moves).Acknowledgement (s.driver.table.binds .statusUpdate) := by
  have hrec := (run_chronicle h moves).grows
  have howed := (run_acknowledges h hr moves).owes.owed
  have hexact := howed.exact
  rw [Option.toList_none, List.append_nil] at hexact
  refine ⟨handled_eq_episodes _, fun t ht => stretch_of_mem ht, hexact, howed.placed,
    fun t ht during hslot => ?_⟩
  obtain ⟨later, he⟩ := Episode.events_of_slot? hslot
  have hdone : during ++ .taken t.message :: t.before <:+
      t.events ++ .taken t.message :: t.before := by
    rw [he, List.append_assoc]
    refine List.IsSuffix.trans ?_ (List.suffix_append _ _)
    cases s.driver.table.binds .statusUpdate with
    | true => exact List.suffix_cons _ _
    | false => exact List.suffix_refl _
  exact active_iff_none_shut hrec (hdone.trans (stretch_of_mem ht).1) (howed.running t ht)

/-- A scheduler whose callback for the first status update makes a call, and stops the driver for
the second one. -/
def acknowledger : System :=
  sample [.statusUpdate] [(.statusUpdate, [.call (.order .reviveOffers) false]),
    (.statusUpdate, [.call (.stop none) false])] []

def acknowledgingMoves : List Move :=
  [.call .start, .go (.caller 0), .go .dispatch, .go .dispatch, .go .dispatch, .go .dispatch,
    .go .dispatch,
    .arrive (.messages
      [.frameworkRegistered [102] [], .statusUpdate [3] [9], .statusUpdate [4] [8]])] ++
    List.replicate 9 (.go .dispatch)

theorem acknowledger_acknowledgement : acknowledger.Begins ∧ acknowledger.driver.role = .scheduler ∧
    History.handled (acknowledger.run acknowledgingMoves).endpoint.history =
      [.frameworkRegistered [102] [], .statusUpdate [3] [9], .statusUpdate [4] [8]] ∧
    acknowledgements (acknowledger.run acknowledgingMoves).endpoint.history =
      [.statusUpdateAcknowledgement [102] [9]] ∧
    (acknowledger.run acknowledgingMoves).Acknowledgement true :=
  ⟨sample_begins _ _ _, rfl, rfl, rfl,
    run_acknowledgement (s := acknowledger) (sample_begins _ _ _) rfl acknowledgingMoves⟩

end System

end ClusterLink
