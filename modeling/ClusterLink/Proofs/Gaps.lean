/-
# The time between sends

Sends of status updates leave marks, times that a later send of the same
update has to keep its distance from (`History.Marks`): the age after which
an update is sent again must have passed since all of them, unless the agent
came back. A passage of an executor's driver keeps to that
(`Endpoint.Paced`), since no stamp in the ledger is earlier than a mark.

Not every send can leave a mark, as the first one does not set the stamp.
The marks of interest are the ends of all other sends (`History.Resent`), and
the time of the issue, from which the stamp of the first send is.

Key definitions: `Event.span?`, `History.Recent`, `History.Resent`,
`History.Marks`, `History.Aged`, `Endpoint.Paced`.
Key theorems: `Endpoint.Paced.push_withLedger`, `Endpoint.Paced.again`,
`Endpoint.Passage.paced`.
-/
import ClusterLink.Proofs.Given
import ClusterLink.Proofs.Inflight
import ClusterLink.Proofs.SendLog

namespace ClusterLink

open History

namespace Event

/-- The message that is passed to the transport, with the times at which that begins and ends. -/
def span? : Event → Option (Message × Int × Int)
  | sent m b d => some (m, b, d)
  | notSent m _ b d => some (m, b, d)
  | _ => none

/-- Whether the agent of an executor came back. -/
def recalls : Event → Bool
  | taken (.executorReregistered _) => true
  | _ => false

theorem span?_of_passed {v : Event} (h : v.passed? = none) : v.span? = none := by
  cases v <;> first | rfl | cases h

theorem passed?_of_span {v : Event} {m : Message} {b d : Int} (h : v.span? = some (m, b, d)) :
    ∃ ok, v.passed? = some (m, ok) := by
  cases v with
  | sent => cases h; exact ⟨true, rfl⟩
  | notSent => cases h; exact ⟨false, rfl⟩
  | _ => cases h

theorem recalls_of_span {v : Event} {x : Message × Int × Int} (h : v.span? = some x) :
    v.recalls = false := by
  cases v <;> first | rfl | cases h

theorem not_span {v : Event} {x : Message × Int × Int} (h : v.span? = none) : v.span? ≠ some x :=
  fun hx => Option.some_ne_none x (hx.symm.trans h)

theorem span_inj {v : Event} {m m' : Message} {b b' d d' : Int} (h : v.span? = some (m, b, d))
    (h' : v.span? = some (m', b', d')) : m = m' ∧ b = b' ∧ d = d' := by
  obtain ⟨hm, hrest⟩ := Prod.mk.inj (Option.some.inj (h.symm.trans h'))
  exact ⟨hm, Prod.mk.inj hrest⟩

end Event

/-- Whether the message is a status update. -/
def Message.isUpdate : Message → Bool
  | statusUpdate .. => true
  | _ => false

namespace History

/-- The message was passed to the transport. -/
def Sent (m : Message) (h : List Event) : Prop := ∃ v ∈ h, ∃ b d, v.span? = some (m, b, d)

/-- It was passed to the transport, and the agent did not come back since. -/
def Recent (m : Message) : List Event → Prop
  | [] => False
  | v :: h => (∃ b d, v.span? = some (m, b, d)) ∨ v.recalls = false ∧ Recent m h

/-- A send of the message that was not the first one ended at that time. -/
def Resent (m : Message) (a : Int) : List Event → Prop
  | [] => False
  | v :: h => (∃ b, v.span? = some (m, b, a)) ∧ Sent m h ∨ Resent m a h

variable {m : Message} {h new : List Event} {v : Event}

theorem sent_cons : Sent m (v :: h) ↔ (∃ b d, v.span? = some (m, b, d)) ∨ Sent m h := by
  simp only [Sent, List.mem_cons, exists_eq_or_imp]

theorem Recent.sent (hr : Recent m h) : Sent m h := by
  induction h with
  | nil => exact hr.elim
  | cons v h ih => exact sent_cons.mpr (hr.imp_right fun hr => ih hr.2)

/-- What lies between the send and now may be told in full. -/
theorem recent_of_split {w : Event} {t : List Event} (hw : ∃ b d, w.span? = some (m, b, d))
    (hn : ∀ v ∈ new, v.recalls = false) : Recent m (new ++ w :: t) := by
  induction new with
  | nil => exact Or.inl hw
  | cons v new ih =>
    exact Or.inr ⟨hn v List.mem_cons_self, ih fun u hu => hn u (List.mem_cons_of_mem _ hu)⟩

/-- Once the agent came back, a message is recent only if it was sent since. -/
theorem not_recent_of_recalls (hv : v.recalls = true)
    (hn : ∀ w ∈ new, ∀ b d, w.span? ≠ some (m, b, d)) : ¬ Recent m (new ++ v :: h) := by
  induction new with
  | nil =>
    rintro (⟨b, d, hs⟩ | ⟨hf, -⟩)
    · rw [Event.recalls_of_span hs] at hv
      cases hv
    · rw [hv] at hf
      cases hf
  | cons w new ih =>
    rintro (⟨b, d, hs⟩ | ⟨-, hr⟩)
    · exact hn w List.mem_cons_self b d hs
    · exact ih (fun u hu => hn u (List.mem_cons_of_mem _ hu)) hr

theorem resent_of_split {w : Event} {t : List Event} {b a : Int} (hw : w.span? = some (m, b, a))
    (ht : Sent m t) : Resent m a (new ++ w :: t) := by
  induction new with
  | nil => exact Or.inl ⟨⟨b, hw⟩, ht⟩
  | cons v new ih => exact Or.inr ih

/-- Marks of messages in a history, times that sends leave behind: a new one is left by nothing but
a send of the message that is not the first one, and is not later than its end. -/
def Marks (mark : List Event → Message → Int → Prop) : Prop :=
  ∀ v h m a, mark (v :: h) m a →
    mark h m a ∨ ∃ b d, v.span? = some (m, b, d) ∧ a ≤ d ∧ Sent m h

theorem marks_resent : Marks fun h m a => Resent m a h := by
  intro v h m a hr
  rcases hr with ⟨⟨b, hb⟩, hs⟩ | hr
  · exact Or.inr ⟨b, a, hb, Int.le_refl a, hs⟩
  · exact Or.inl hr

/-- Marks that are there from the beginning. -/
theorem marks_const (P : Message → Int → Prop) : Marks fun _ m a => P m a :=
  fun _ _ _ _ hp => Or.inl hp

/-- The age has passed since all marks of the message. -/
def Aged (mark : List Event → Message → Int → Prop) (age : Except Failure Int) (m : Message)
    (b : Int) (h : List Event) : Prop :=
  ∃ n, age = .ok n ∧ ∀ a, mark h m a → a + n < b

/-! ### Events that send nothing -/

variable {a : Int}

theorem Marks.of_append {mark : List Event → Message → Int → Prop} (hm : Marks mark)
    (hn : ∀ v ∈ new, v.span? = none) (ha : mark (new ++ h) m a) : mark h m a := by
  induction new with
  | nil => exact ha
  | cons v new ih =>
    apply ih fun w hw => hn w (List.mem_cons_of_mem _ hw)
    apply (hm v (new ++ h) m a ha).resolve_right
    rintro ⟨b, d, hs, -⟩
    exact Event.not_span (hn v List.mem_cons_self) hs

theorem Sent.of_append (hn : ∀ v ∈ new, v.span? = none) (hs : Sent m (new ++ h)) : Sent m h := by
  obtain ⟨v, hv, b, d, hspan⟩ := hs
  rcases List.mem_append.mp hv with hv | hv
  · exact absurd hspan (Event.not_span (hn v hv))
  · exact ⟨v, hv, b, d, hspan⟩

theorem Recent.of_append (hn : ∀ v ∈ new, v.span? = none) (hr : Recent m (new ++ h)) :
    Recent m h := by
  induction new with
  | nil => exact hr
  | cons v new ih =>
    rcases hr with ⟨b, d, hs⟩ | ⟨-, hr⟩
    · exact absurd hs (Event.not_span (hn v List.mem_cons_self))
    · exact ih (fun w hw => hn w (List.mem_cons_of_mem _ hw)) hr

/-- What is only asked of sends. -/
theorem Always.append_of_quiet {P : Event → List Event → Prop} (H : Always P h)
    (hP : ∀ v t, v.span? = none → P v t) (hn : ∀ v ∈ new, v.span? = none) :
    Always P (new ++ h) := by
  induction new with
  | nil => exact H
  | cons v new ih =>
    exact ⟨hP v _ (hn v List.mem_cons_self), ih fun w hw => hn w (List.mem_cons_of_mem _ hw)⟩

end History

namespace Endpoint

variable {e e' : Endpoint} {m : Message}

namespace Accounted

variable {ids : Nat → Bytes} {first : Nat} {uuid : Bytes}

/-- What was not issued was not sent, -/
theorem not_sent (h : e.Accounted ids first) (hu : uuid ∉ (issued e.history).map Prod.fst)
    (status : Bytes) : ¬ Sent (.statusUpdate status uuid) e.history := by
  rintro ⟨v, hv, b, d, hs⟩
  obtain ⟨new, t, ht⟩ := List.append_of_mem hv
  have hsuffix : v :: t <:+ e.history := ⟨new, ht.symm⟩
  obtain ⟨ok, hp⟩ := Event.passed?_of_span hs
  have hout := always_iff.mp h.sends v t hsuffix status uuid ok hp
  have hissued := issued_initial ((List.suffix_cons v t).trans hsuffix)
  exact hu (List.mem_map_of_mem (hissued.subset ((outstanding_sublist t).subset hout)))

/-- and does not wait. -/
theorem not_waiting (h : e.Accounted ids first) (hu : uuid ∉ (issued e.history).map Prod.fst)
    (status : Bytes) : .statusUpdate status uuid ∉ e.driver.backlog := fun hb =>
  hu (List.mem_map_of_mem ((outstanding_sublist _).subset (h.waiting _ hb status uuid rfl)))

/-- The other updates in flight are other messages. -/
theorem message_ne (h : e.Accounted ids first) (hd : Distinct ids first e.surroundings.drawn)
    {us vs : Ledger} {u : Update} (hl : e.driver.inflight = us ++ u :: vs) :
    ∀ w ∈ us ++ vs, w.message ≠ u.message := by
  intro w hw he
  have hnodup := h.ledger_nodup hd
  rw [hl, List.map_append, List.map_cons, List.nodup_middle, ← List.map_append] at hnodup
  have hmem : w.uuid ∈ (us ++ vs).map Update.uuid := List.mem_map_of_mem hw
  rw [(Message.statusUpdate.inj he).2] at hmem
  exact (List.nodup_cons.mp hnodup).1 hmem

end Accounted

/-- What handing over a message to a connected transport records: with it a send of the message, if
no earlier one failed. -/
theorem push_span (hc : e.driver.connected = true) (m : Message) :
    ∃ after here before : List Event,
      (e.push m).history = after ++ (here ++ (before ++ e.history)) ∧
      (∀ v ∈ after, v.span? = none) ∧ (∀ v ∈ before, v.span? = none) ∧
      (here = [] ∨ ∃ v, here = [v] ∧
        v.span? = some (m, e.surroundings.clock, (e.push m).surroundings.clock)) := by
  unfold push
  rw [if_neg (by simp [hc])]
  split
  · exact ⟨[], [], [.noted (.withheld m)], rfl, by simp, by simp [Event.span?], Or.inl rfl⟩
  obtain ⟨cs, hcs⟩ := useTransport_history (e.note (.sending m)) (Transport.send m)
  have hbefore : ∀ v ∈ cs.map Event.called ++ [.noted (.sending m)], v.span? = none := by
    intro v hv
    rcases List.mem_append.mp hv with hv | hv
    · obtain ⟨c, -, rfl⟩ := List.mem_map.mp hv
      rfl
    · obtain rfl := List.mem_singleton.mp hv
      rfl
  have hh : ((e.note (.sending m)).useTransport (Transport.send m)).2.history =
      (cs.map Event.called ++ [.noted (.sending m)]) ++ e.history := by
    rw [hcs, List.append_assoc]
    rfl
  unfold transmit
  dsimp only
  split
  · exact ⟨[], [_], _, congrArg (_ :: ·) hh, by simp, hbefore, Or.inr ⟨_, rfl, rfl⟩⟩
  · exact ⟨[.noted (.sendFailed m)], [_], _, congrArg (_ :: _ :: ·) hh, by simp [Event.span?],
      hbefore, Or.inr ⟨_, rfl, rfl⟩⟩

/-- Status updates in a row of messages. -/
def updates (ms : List Message) : List Message := ms.filter Message.isUpdate

/-- The sends of status updates so far keep their distance, those made again from all marks at that
time; and the marks are no later than the stamps. -/
structure Paced (mark : List Event → Message → Int → Prop) (age : Except Failure Int)
    (e : Endpoint) : Prop where
  past : ∀ m a, mark e.history m a → a ≤ e.surroundings.clock
  stamps : ∀ u ∈ e.driver.inflight, ∀ a, mark e.history u.message a → a ≤ u.stamp
  /-- What waits was not sent, and waits once. -/
  unsent : ∀ m ∈ updates e.driver.backlog, ¬ Sent m e.history
  once : (updates e.driver.backlog).Nodup
  gaps : Always (fun v t => ∀ m b d, m.isUpdate = true → v.span? = some (m, b, d) → Recent m t →
    Aged mark age m b t) e.history

namespace Paced

variable {mark : List Event → Message → Int → Prop} {age : Except Failure Int}

/-- Something happens that sends nothing, and time passes. -/
theorem extend (hm : Marks mark) (h : e.Paced mark age) (new : List Event)
    (hh : e'.history = new ++ e.history) (hn : ∀ v ∈ new, v.span? = none)
    (hc : e.surroundings.clock ≤ e'.surroundings.clock)
    (hl : ∀ u ∈ e'.driver.inflight,
      u ∈ e.driver.inflight ∨ e.surroundings.clock ≤ u.stamp)
    (hb : (updates e'.driver.backlog).Sublist (updates e.driver.backlog)) : e'.Paced mark age := by
  refine ⟨fun m a ha => ?_, fun u hu a ha => ?_, fun m hmem hs => ?_, h.once.sublist hb, ?_⟩
  · rw [hh] at ha
    exact Int.le_trans (h.past m a (hm.of_append hn ha)) hc
  · rw [hh] at ha
    have ha := hm.of_append hn ha
    rcases hl u hu with hu | hu
    · exact h.stamps u hu a ha
    · exact Int.le_trans (h.past _ a ha) hu
  · rw [hh] at hs
    exact h.unsent m (hb.subset hmem) (hs.of_append hn)
  · rw [hh]
    exact h.gaps.append_of_quiet (fun v t hv m b d _ hs => absurd hs (Event.not_span hv)) hn

/-- Something of no matter to the times of sends happens. -/
theorem record (hm : Marks mark) (h : e.Paced mark age) {v : Event} (hv : v.span? = none) :
    (e.record v).Paced mark age :=
  h.extend hm [v] rfl (by simpa using hv) (Int.le_refl _) (fun _ => Or.inl) (List.Sublist.refl _)

/-- A message is sent. Updates in flight are stamped after that, except for one that was not sent
before; and a status update that is recent keeps its distance. -/
theorem send (hm : Marks mark) (h : e.Paced mark age) {v : Event}
    (hv : v.span? = some (m, e.surroundings.clock, e'.surroundings.clock))
    (hh : e'.history = v :: e.history) (hc : e.surroundings.clock ≤ e'.surroundings.clock)
    (hl : ∀ u ∈ e'.driver.inflight,
      (u ∈ e.driver.inflight ∧ (u.message = m → ¬ Sent m e.history)) ∨
        e'.surroundings.clock ≤ u.stamp)
    (hb : updates e'.driver.backlog = updates e.driver.backlog)
    (hw : m ∉ updates e.driver.backlog)
    (hg : m.isUpdate = true → Recent m e.history →
      Aged mark age m e.surroundings.clock e.history) : e'.Paced mark age := by
  have hmark : ∀ {x a}, mark e'.history x a →
      mark e.history x a ∨ x = m ∧ a ≤ e'.surroundings.clock ∧ Sent m e.history := by
    intro x a ha
    rw [hh] at ha
    rcases hm v e.history x a ha with ha | ⟨b, d, hs, hle, hsent⟩
    · exact Or.inl ha
    · obtain ⟨rfl, -, rfl⟩ := Event.span_inj hv hs
      exact Or.inr ⟨rfl, hle, hsent⟩
  have hpast : ∀ x a, mark e'.history x a → a ≤ e'.surroundings.clock := by
    intro x a ha
    rcases hmark ha with ha | ⟨-, hle, -⟩
    · exact Int.le_trans (h.past x a ha) hc
    · exact hle
  refine ⟨hpast, fun u hu a ha => ?_, fun x hx hs => ?_, ?_, ?_⟩
  · rcases hl u hu with ⟨hu, hfirst⟩ | hstamp
    · rcases hmark ha with ha | ⟨he, -, hs⟩
      · exact h.stamps u hu a ha
      · exact absurd hs (hfirst he)
    · exact Int.le_trans (hpast _ a ha) hstamp
  · rw [hb] at hx
    rw [hh] at hs
    rcases sent_cons.mp hs with ⟨b, d, hs⟩ | hs
    · obtain ⟨rfl, -, -⟩ := Event.span_inj hv hs
      exact hw hx
    · exact h.unsent x hx hs
  · rw [hb]
    exact h.once
  · rw [hh]
    refine ⟨fun x b d hu hs hr => ?_, h.gaps⟩
    obtain ⟨rfl, rfl, -⟩ := Event.span_inj hv hs
    exact hg hu hr

/-- A message is handed over to a connected transport, and the ledger stamped. -/
theorem push_withLedger (hm : Marks mark) (h : e.Paced mark age) (hc : e.driver.connected = true)
    {l : Ledger} (hl : ∀ u ∈ l,
      (u ∈ e.driver.inflight ∧ (u.message = m → ¬ Sent m e.history)) ∨
        (e.push m).surroundings.clock ≤ u.stamp)
    (hw : m ∉ updates e.driver.backlog)
    (hg : m.isUpdate = true → Recent m e.history →
      Aged mark age m e.surroundings.clock e.history) :
    ((e.push m).withLedger l).Paced mark age := by
  obtain ⟨after, here, before, hh, hafter, hbefore, hhere⟩ := push_span hc m
  have hclock := e.push_clock m
  have hback := push_backlog hc m
  have hsub : (updates (e.push m).driver.backlog).Sublist (updates e.driver.backlog) := by
    rw [hback]
  rcases hhere with rfl | ⟨v, rfl, hv⟩
  · have hquiet : ∀ v ∈ after ++ before, v.span? = none :=
      List.forall_mem_append.mpr ⟨hafter, hbefore⟩
    refine h.extend hm (after ++ before) ?_ hquiet hclock (fun u hu => ?_) hsub
    · show (e.push m).history = _
      rw [hh, List.append_assoc, List.nil_append]
    · exact (hl u hu).imp And.left fun hs => Int.le_trans hclock hs
  · -- what is recorded before the send, the send, and what is recorded after it
    have h1 : ({ e with history := before ++ e.history } : Endpoint).Paced mark age :=
      h.extend hm before rfl hbefore (Int.le_refl _) (fun _ => Or.inl) (List.Sublist.refl _)
    have h2 : ({ (e.push m).withLedger l with history := v :: (before ++ e.history) } :
        Endpoint).Paced mark age := by
      refine h1.send hm hv rfl hclock (fun u hu => ?_) (congrArg updates hback) hw fun hu hr => ?_
      · rcases hl u hu with hold | hstamp
        · exact Or.inl ⟨hold.1, fun he hs => hold.2 he (hs.of_append hbefore)⟩
        · exact Or.inr hstamp
      · obtain ⟨n, hn, hall⟩ := hg hu (hr.of_append hbefore)
        exact ⟨n, hn, fun a ha => hall a (hm.of_append hbefore ha)⟩
    exact h2.extend hm after hh hafter (Int.le_refl _) (fun _ => Or.inl) (List.Sublist.refl _)

/-- A message is handed over. If it is a status update, it was not sent and does not wait. -/
theorem push (hm : Marks mark) (h : e.Paced mark age)
    (hf : m.isUpdate = true → ¬ Sent m e.history ∧ m ∉ e.driver.backlog) :
    (e.push m).Paced mark age := by
  cases hc : e.driver.connected with
  | false =>
    -- it waits
    have hadd : updates (e.driver.backlog ++ [m]) = updates e.driver.backlog ++ updates [m] :=
      List.filter_append ..
    have hone : ∀ x ∈ updates [m], x = m ∧ m.isUpdate = true := fun x hx => by
      obtain ⟨hx, hu⟩ := List.mem_filter.mp hx
      obtain rfl := List.mem_singleton.mp hx
      exact ⟨rfl, hu⟩
    rw [push_of_not_connected hc]
    refine ⟨h.past, h.stamps, fun x hx => ?_, ?_, h.gaps⟩
    · rcases List.mem_append.mp (hadd ▸ hx) with hx | hx
      · exact h.unsent x hx
      · obtain ⟨rfl, hu⟩ := hone x hx
        exact (hf hu).1
    · show (updates (e.driver.backlog ++ [m])).Nodup
      rw [hadd]
      have hsingle : (updates [m]).Nodup := (List.nodup_singleton m).sublist List.filter_sublist
      refine List.nodup_append.mpr ⟨h.once, hsingle, fun x hx y hy hxy => ?_⟩
      obtain ⟨rfl, hu⟩ := hone y hy
      exact (hf hu).2 (hxy ▸ (List.mem_filter.mp hx).1)
  | true =>
    have hw : m ∉ updates e.driver.backlog := fun hmem => by
      obtain ⟨hb, hu⟩ := List.mem_filter.mp hmem
      exact (hf hu).2 hb
    have hl : (e.push m).driver.inflight = e.driver.inflight := by
      obtain ⟨b, p, hd⟩ := e.push_driver m
      rw [hd]
    have hgo := h.push_withLedger hm hc (l := (e.push m).driver.inflight) (fun u hu => ?_) hw
      fun hu hr => absurd hr.sent (hf hu).1
    · exact hgo
    · rw [hl] at hu
      exact Or.inl ⟨hu, fun he => (hf (he ▸ rfl)).1⟩

/-- What was sent, when a message was handed over, is that message or was sent before. -/
theorem sent_push {x : Message} (hs : Sent x (e.push m).history) : x = m ∨ Sent x e.history := by
  cases hc : e.driver.connected with
  | false =>
    rw [push_of_not_connected hc] at hs
    exact Or.inr hs
  | true =>
    obtain ⟨after, here, before, hh, hafter, hbefore, hhere⟩ := push_span hc m
    rw [hh] at hs
    have hs := hs.of_append hafter
    rcases hhere with rfl | ⟨v, rfl, hv⟩
    · exact Or.inr (hs.of_append hbefore)
    · rcases sent_cons.mp hs with ⟨b, d, hx⟩ | hs
      · exact Or.inl (Event.span_inj hx hv).1
      · exact Or.inr (hs.of_append hbefore)

/-- Messages are handed over to a connected transport; the status updates among them were not sent,
and each is there once. -/
theorem pushAll (hm : Marks mark) (h : e.Paced mark age) (hc : e.driver.connected = true)
    (hb : e.driver.backlog = []) {ms : List Message} (hs : ∀ x ∈ updates ms, ¬ Sent x e.history)
    (hn : (updates ms).Nodup) : (e.pushAll ms).Paced mark age := by
  induction ms generalizing e with
  | nil => exact h
  | cons m ms ih =>
    have hback : (e.push m).driver.backlog = [] := (push_backlog hc m).trans hb
    have hrest : (updates ms).Sublist (updates (m :: ms)) :=
      (List.sublist_cons_self m ms).filter _
    refine ih (h.push hm fun hu => ⟨hs m ?_, by simp [hb]⟩) ((push_connected e m).trans hc) hback
      (fun x hx hsent => ?_) (hn.sublist hrest)
    · exact List.mem_filter.mpr ⟨List.mem_cons_self, hu⟩
    · rcases sent_push hsent with rfl | hsent
      · -- it does not wait twice
        have hhead : updates (x :: ms) = x :: updates ms :=
          List.filter_cons_of_pos (List.mem_filter.mp hx).2
        rw [hhead] at hn
        exact (List.nodup_cons.mp hn).1 hx
      · exact hs x (hrest.subset hx) hsent

/-- A message that is no status update is accepted and handed over. -/
theorem submit (hm : Marks mark) (h : e.Paced mark age) {why : Cause} (hu : m.isUpdate = false) :
    (e.submit why m).Paced mark age := by
  refine (h.record hm (v := .accepted why m) rfl).push hm fun hu' => ?_
  rw [hu] at hu'
  cases hu'

theorem flush (hm : Marks mark) (h : e.Paced mark age) (replyTo : String) :
    (e.flush replyTo).Paced mark age := by
  have hreg : (e.driver.registration replyTo).isUpdate = false := by
    unfold Driver.registration
    split <;> rfl
  have h1 : ({ e with driver.connected := true } : Endpoint).Paced mark age :=
    ⟨h.past, h.stamps, h.unsent, h.once, h.gaps⟩
  have h2 := h1.push hm (m := e.driver.registration replyTo) fun hu => by
    rw [hreg] at hu
    cases hu
  have h3 : ({ ({ e with driver.connected := true } : Endpoint).push
      (e.driver.registration replyTo) with driver.backlog := [] } : Endpoint).Paced mark age :=
    ⟨h2.past, h2.stamps, by simp [updates], List.nodup_nil, h2.gaps⟩
  exact h3.pushAll hm (push_connected _ _) rfl h2.unsent h2.once

/-- The driver joins the cluster. -/
theorem enter (hm : Marks mark) (h : e.Paced mark age) : e.enter.2.Paced mark age := by
  rcases e.enter_cases with ⟨-, he⟩ | ⟨-, f, -, he⟩ | ⟨-, replyTo, -, he⟩ <;> rw [he]
  · exact h.extend hm [.noted _] rfl (by simp [Event.span?]) (Int.le_refl _) (fun _ => Or.inl)
      (List.nil_sublist _)
  · exact ⟨h.past, h.stamps, h.unsent, h.once, h.gaps⟩
  · exact (h.flush hm replyTo).extend hm [.noted _, .became .running] rfl (by simp [Event.span?])
      (Int.le_refl _) (fun _ => Or.inl) (List.Sublist.refl _)

/-- An acknowledgement is settled. -/
theorem settle (hm : Marks mark) (h : e.Paced mark age) (uuid : Bytes) :
    (e.settle uuid).Paced mark age := by
  unfold Endpoint.settle
  cases hr : e.driver.inflight.remove? uuid with
  | none => exact h.record hm rfl
  | some ledger =>
    refine ⟨h.past, fun u hu => h.stamps u ?_, h.unsent, h.once, h.gaps⟩
    have hu : u ∈ ledger := hu
    rw [Ledger.eq_filter_of_remove? hr] at hu
    exact List.mem_of_mem_filter hu

variable {ids : Nat → Bytes} {first : Nat}

/-- A status update in flight is sent again. -/
theorem again (hm : Marks mark) (ha : e.Accounted ids first)
    (hd : Distinct ids first e.surroundings.drawn) (h : e.Paced mark e.resendAge)
    {us vs : Ledger} {u : Update} (hr : e.driver.state = .running)
    (hl : e.driver.inflight = us ++ u :: vs) (hw : e.Overdue u ∨ e.Recalls us) :
    (e.again us u vs).Paced mark e.resendAge := by
  obtain ⟨hc, hback⟩ := ha.ready hr
  have hothers := ha.message_ne hd hl
  have hquiet : ∀ v ∈ [Event.accepted .resend u.message], v.span? = none := by simp [Event.span?]
  refine (h.record hm (v := .accepted .resend u.message) rfl).push_withLedger hm hc
    (fun w hw => ?_) ?_ fun _ hrecent => ?_
  · have hsame : w ∈ us ++ vs → w ∈ e.driver.inflight := fun hw => by
      rw [hl]
      exact List.mem_append.mpr ((List.mem_append.mp hw).imp_right (List.mem_cons_of_mem u))
    rcases List.mem_cons.mp (List.perm_middle.mem_iff.mp hw) with rfl | hw
    · exact Or.inr (Int.le_refl _)
    · exact Or.inl ⟨hsame hw, fun he => absurd he (hothers w hw)⟩
  · show u.message ∉ updates e.driver.backlog
    rw [hback]
    exact List.not_mem_nil
  · have hrecent : Recent u.message e.history := hrecent.of_append hquiet
    rcases hw with ⟨n, hn, hlate⟩ | ⟨new, x, t, hh, hnew⟩
    · refine ⟨n, hn, fun a hmark => ?_⟩
      have hstamp := h.stamps u (by simp [hl]) a (hm.of_append hquiet hmark)
      show a + n < e.surroundings.clock
      omega
    · refine absurd (hh ▸ hrecent) (not_recent_of_recalls rfl fun v hv b d hs => ?_)
      obtain ⟨ok, hp⟩ := Event.passed?_of_span hs
      obtain ⟨w, hw, he⟩ := List.mem_map.mp (hnew v hv _ ok hp)
      exact hothers w (List.mem_append_left _ hw) he

theorem work (hm : Marks mark) (ha : e.Accounted ids first)
    (hd : Distinct ids first e.surroundings.drawn) (h : e.Paced mark e.resendAge)
    (hw : Work e e') : e'.Paced mark e.resendAge := by
  cases hw with
  | chore hv => exact h.record hm (Event.span?_of_passed (Event.isChore.passed? hv))
  | surround _ _ hc =>
    exact h.extend hm [] rfl (by simp) (Int.le_of_eq hc.symm) (fun _ => Or.inl)
      (List.Sublist.refl _)
  | attach | identify => exact ⟨h.past, h.stamps, h.unsent, h.once, h.gaps⟩
  | @become s =>
    exact h.extend hm [.became s] rfl (by simp [Event.span?]) (Int.le_refl _) (fun _ => Or.inl)
      (List.Sublist.refl _)
  | submit why _ hn =>
    rename_i m _
    refine h.submit hm ?_
    cases m with
    | statusUpdate status uuid => exact absurd rfl (hn status uuid)
    | _ => rfl
  | again hr hl hw => exact h.again hm ha hd hr hl hw
  | forget => exact ⟨h.past, h.stamps, by simp [updates], List.nodup_nil, h.gaps⟩

/-- A status update is issued under an identifier that was not used before. -/
theorem issue (hm : Marks mark) (ha : e.Accounted ids first) (h : e.Paced mark age) (status : Bytes)
    (hfresh : e.surroundings.ids (e.surroundings.drawn + 1) ∉ (issued e.history).map Prod.fst) :
    (e.issue (.updateStatus status)).Paced mark age := by
  have hput : (e.enroll status).driver.inflight = e.driver.inflight ++
      [⟨e.surroundings.ids (e.surroundings.drawn + 1), status, e.surroundings.clock⟩] :=
    Ledger.put_of_not_holds (ha.not_holds hfresh)
  have henrolled : ((e.enroll status).record (.accepted .command (.statusUpdate status
      (e.surroundings.ids (e.surroundings.drawn + 1))))).Paced mark age := by
    refine h.extend hm [_] rfl (by simp [Event.span?]) (Int.le_refl _) (fun u hu => ?_)
      (List.Sublist.refl _)
    have hu : u ∈ (e.enroll status).driver.inflight := hu
    rw [hput] at hu
    rcases List.mem_append.mp hu with hu | hu
    · exact Or.inl hu
    · obtain rfl := List.mem_singleton.mp hu
      exact Or.inr (Int.le_refl _)
  have hquiet : ∀ v ∈ [Event.accepted .command (.statusUpdate status
      (e.surroundings.ids (e.surroundings.drawn + 1)))], v.span? = none := by simp [Event.span?]
  exact henrolled.push hm fun _ => ⟨fun hs => ha.not_sent hfresh status (hs.of_append hquiet),
    ha.not_waiting hfresh status⟩

/-- From now on, the time counts as well for an update that was not issued yet. -/
theorem since (h : e.Paced mark age) (ha : e.Accounted ids first) {uuid : Bytes}
    (hu : uuid ∉ (issued e.history).map Prod.fst) (status : Bytes) :
    e.Paced (fun _ m a => m = .statusUpdate status uuid ∧ a = e.surroundings.clock) age := by
  refine ⟨fun m a hmark => Int.le_of_eq hmark.2, fun u hmem a hmark => ?_, h.unsent, h.once,
    always_iff.mpr fun v t hv m b d hup hs hr => ?_⟩
  · have hn := Ledger.holds_eq_false_iff.mp (ha.not_holds hu) u hmem
    exact absurd (Message.statusUpdate.inj hmark.1).2 hn
  · obtain ⟨n, hn, -⟩ := always_iff.mp h.gaps v t hv m b d hup hs hr
    refine ⟨n, hn, fun a hmark => ?_⟩
    rw [hmark.1] at hs
    exact absurd ⟨v, hv.subset List.mem_cons_self, b, d, hs⟩ (ha.not_sent hu status)

end Paced

/-- A passage of an executor's driver keeps the distance of sends, as long as no identifier is drawn
twice. -/
theorem Passage.paced {ids : Nat → Bytes} {first last : Nat} {x : Endpoint} {told : List Event}
    {mark : List Event → Message → Int → Prop} (hm : Marks mark) (hd : Distinct ids first last)
    (h : Passage e told x) (ha : e.Accounted ids first) (hp : e.Paced mark e.resendAge)
    (hl : x.surroundings.drawn ≤ last) : x.Paced mark e.resendAge := by
  induction h with
  | rest => exact hp
  | @work told x y h hw ih =>
    rw [hw.draws.2] at hl
    have hage := resendAge_of_given h.given
    have hx := ih hl
    rw [← hage] at hx ⊢
    exact hx.work hm (h.accounted hd ha hl) (hd.mono hl) hw
  | tale _ hv ih => exact (ih hl).record hm (Event.span?_of_passed (Event.isTale.passed? hv))
  | tell _ hv _ _ ih => exact (ih hl).record hm (Event.span?_of_passed (Event.isTiding.passed? hv))
  | settle _ f u _ _ ih =>
    rw [settle_ids] at hl
    exact ((ih hl).record hm (v := .taken (.statusUpdateAcknowledgement f u)) rfl).settle hm u
  | @issue told x h status _ ih =>
    rw [(issue_ids _ status).2] at hl
    have hl' := Nat.le_of_succ_le hl
    have hx := h.accounted hd ha hl'
    exact (ih hl').issue hm hx status (hx.fresh hd hl)
  | enter _ _ ih =>
    rw [(enter_ids _).2] at hl
    exact (ih hl).enter hm
  | finish _ _ _ ih =>
    have hx := ih hl
    exact ⟨hx.past, hx.stamps, hx.unsent, hx.once, hx.gaps⟩

end Endpoint

end ClusterLink
