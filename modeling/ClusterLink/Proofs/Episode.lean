/-
# Episodes

A history falls into episodes, of which each begins with a message that is
taken up and lasts until the next one is. What a driver does about a message
is in its episode.

A status update is to be acknowledged once its callback is done and the
driver is still active. From the history alone it can be told which
acknowledgement that is in an episode, if it is any
(`Episode.acknowledgement?`), and where it has to stand (`Episode.Placed`).
Both are a matter of few events (`Event.isMark`): what happens besides leaves
them as they are (`episodes_append`, `Episode.acknowledgement?_grow`).

Key definitions: `Episode`, `History.episodes`, `History.registeredAs`,
`Episode.slot?`, `Episode.acknowledgement?`, `Episode.dues`, `Episode.Placed`.
Key theorems: `History.episodes_append`, `History.episodes_eq_cons`,
`History.handled_eq_episodes`.
-/
import ClusterLink.Proofs.Delivery
import Mathlib.Data.List.TakeWhile

namespace ClusterLink

/-- Whether the message acknowledges a status update. -/
def Message.isAcknowledgement : Message → Bool
  | statusUpdateAcknowledgement .. => true
  | _ => false

namespace Event

/-- Whether the callback for a status update returns. -/
def isReturn : Event → Bool
  | ended .statusUpdate => true
  | _ => false

/-- The identifier that the framework is registered with, if it is taken up. -/
def registered? : Event → Option Bytes
  | taken (.frameworkRegistered f _) => some f
  | _ => none

/-- Whether the event has a part in the acknowledgement of status updates. -/
def isMark : Event → Bool
  | taken _ => true
  | accepted _ m => m.isAcknowledgement
  | v => v.isReturn

variable {v : Event}

theorem taken?_of_not_mark (h : v.isMark = false) : v.taken? = none := by
  cases v <;> first | rfl | cases h

theorem registered?_of_not_mark (h : v.isMark = false) : v.registered? = none := by
  cases v <;> first | rfl | cases h

theorem isReturn_of_not_mark (h : v.isMark = false) : v.isReturn = false := by
  cases v <;> first | rfl | exact h

theorem eq_of_isReturn (h : v.isReturn = true) : v = .ended .statusUpdate := by
  unfold isReturn at h
  split at h
  · rfl
  · cases h

theorem registered?_of_not_taken (h : v.taken? = none) : v.registered? = none := by
  cases v <;> first | rfl | cases h

end Event

/-- What happened from when a message was taken up until the next one was, the last event first,
and what had happened before. -/
structure Episode where
  before : List Event
  message : Message
  events : List Event

/-- The episode with more events. -/
def Episode.grow (new : List Event) (t : Episode) : Episode := { t with events := new ++ t.events }

namespace History

variable {h new : List Event}

/-- The episodes of a history, the last one first. -/
def episodes : List Event → List Episode
  | [] => []
  | v :: h =>
    match v.taken? with
    | some m => ⟨h, m, []⟩ :: episodes h
    | none => (episodes h).modifyHead (Episode.grow [v])

/-- The identifier that the framework was last registered with; empty if it was not yet. -/
def registeredAs (h : List Event) : Bytes := (h.findSome? Event.registered?).getD []

/-- The acknowledgements accepted for sending. -/
def acknowledgements (h : List Event) : List Message :=
  (accepted h).filter Message.isAcknowledgement

theorem episodes_taken (m : Message) (h : List Event) :
    episodes (.taken m :: h) = ⟨h, m, []⟩ :: episodes h := rfl

/-- What happens until the next message is taken up belongs to the last episode. -/
theorem episodes_append (hn : ∀ v ∈ new, v.taken? = none) :
    episodes (new ++ h) = (episodes h).modifyHead (Episode.grow new) := by
  induction new with
  | nil => cases hep : episodes h <;> simp [hep, Episode.grow]
  | cons v new ih =>
    have hv : v.taken? = none := hn v List.mem_cons_self
    have ih := ih fun w hw => hn w (List.mem_cons_of_mem _ hw)
    rw [List.cons_append, episodes, hv, ih]
    cases hep : episodes h <;> simp [Episode.grow]

/-- The last episode reaches up to now. -/
theorem episodes_eq_cons {t : Episode} {ts : List Episode} (ht : episodes h = t :: ts) :
    h = t.events ++ .taken t.message :: t.before ∧ (∀ v ∈ t.events, v.taken? = none) ∧
      ts = episodes t.before := by
  induction h generalizing t ts with
  | nil => cases ht
  | cons v h ih =>
    rw [episodes] at ht
    cases hv : v.taken? with
    | some m =>
      rw [hv] at ht
      obtain ⟨rfl, rfl⟩ := List.cons.inj ht
      cases v with
      | taken m' =>
        obtain rfl := Option.some.inj hv
        exact ⟨rfl, by simp, rfl⟩
      | _ => cases hv
    | none =>
      rw [hv] at ht
      cases hep : episodes h with
      | nil => rw [hep] at ht; cases ht
      | cons u us =>
        rw [hep] at ht
        obtain ⟨rfl, rfl⟩ := List.cons.inj ht
        obtain ⟨hh, hn, hus⟩ := ih hep
        refine ⟨congrArg (v :: ·) hh, fun w hw => ?_, hus⟩
        rcases List.mem_cons.mp hw with rfl | hw
        · exact hv
        · exact hn w hw

/-- With another event the episodes before the last one stay. -/
theorem mem_of_episodes_cons {v : Event} {t u : Episode} {us : List Episode}
    (h' : episodes (v :: h) = u :: us) (ht : t ∈ us) : t ∈ episodes h := by
  rw [episodes] at h'
  cases hv : v.taken? with
  | some m =>
    rw [hv] at h'
    obtain ⟨-, rfl⟩ := List.cons.inj h'
    exact ht
  | none =>
    rw [hv] at h'
    cases hep : episodes h with
    | nil => rw [hep] at h'; cases h'
    | cons w ws =>
      rw [hep] at h'
      obtain ⟨-, rfl⟩ := List.cons.inj h'
      exact List.mem_cons_of_mem _ ht

/-- Every episode is a stretch of the history, in which no other message is taken up. -/
theorem stretch_of_mem {t : Episode} (ht : t ∈ episodes h) :
    t.events ++ .taken t.message :: t.before <:+ h ∧ ∀ v ∈ t.events, v.taken? = none := by
  induction h with
  | nil => cases ht
  | cons v h ih =>
    cases hep : episodes (v :: h) with
    | nil => rw [hep] at ht; cases ht
    | cons u us =>
      rw [hep] at ht
      rcases List.mem_cons.mp ht with rfl | ht
      · obtain ⟨hh, hn, -⟩ := episodes_eq_cons hep
        exact ⟨hh ▸ List.suffix_refl _, hn⟩
      · obtain ⟨hs, hn⟩ := ih (mem_of_episodes_cons hep ht)
        exact ⟨hs.trans (List.suffix_cons v h), hn⟩

/-- There is an episode for each message that was taken up. -/
theorem handled_eq_episodes (h : List Event) :
    handled h = (episodes h).reverse.map Episode.message := by
  have hrev : h.filterMap Event.taken? = (episodes h).map Episode.message := by
    induction h with
    | nil => rfl
    | cons v h ih =>
      rw [episodes]
      cases hv : v.taken? with
      | some m => simp [hv, ih]
      | none =>
        rw [List.filterMap_cons_none hv, ih]
        cases episodes h <;> rfl
  rw [handled, hrev, List.map_reverse]

theorem registeredAs_append (hn : ∀ v ∈ new, v.registered? = none) :
    registeredAs (new ++ h) = registeredAs h := by
  have hnone : new.findSome? Event.registered? = none := List.findSome?_eq_none_iff.mpr hn
  simp [registeredAs, List.findSome?_append, hnone]

theorem registeredAs_cons {v : Event} (hv : v.registered? = none) :
    registeredAs (v :: h) = registeredAs h := by
  simp [registeredAs, hv]

/-- Only a message for that tells with which identifier the framework is registered. -/
theorem registeredAs_taken {m : Message} (hm : ∀ f i, m ≠ .frameworkRegistered f i) :
    registeredAs (.taken m :: h) = registeredAs h := by
  refine registeredAs_cons ?_
  cases m with
  | frameworkRegistered f i => exact absurd rfl (hm f i)
  | _ => rfl

theorem acknowledgements_append (hn : ∀ v ∈ new, v.isMark = false) :
    acknowledgements (new ++ h) = acknowledgements h := by
  induction new with
  | nil => rfl
  | cons v new ih =>
    have hv : v.isMark = false := hn v List.mem_cons_self
    have ih := ih fun w hw => hn w (List.mem_cons_of_mem _ hw)
    rw [List.cons_append, acknowledgements, accepted_cons, List.filter_append]
    have hnone : v.accepted?.toList.filter Message.isAcknowledgement = [] := by
      cases v with
      | accepted why m =>
        have hm : m.isAcknowledgement = false := hv
        simp [Event.accepted?, hm]
      | _ => rfl
    rw [hnone, List.append_nil]
    exact ih

end History

open History

namespace Episode

variable {t : Episode} {bound : Bool} {new during : List Event}

/-- What happened by the time when the callback for a status update was done, if it is: one that is
bound has to return, and one that is not is done at once. -/
def slot? (bound : Bool) (t : Episode) : Option (List Event) :=
  if bound then (t.events.dropWhile fun v => !v.isReturn).tail? else some []

/-- The acknowledgement that is due in the episode: for a status update that has an identifier, if
the driver is active when the callback is done. -/
def acknowledgement? (bound : Bool) (t : Episode) : Option Message :=
  match t.message, t.slot? bound with
  | .statusUpdate _ uuid, some during =>
    if uuid ≠ [] ∧ (state (during ++ .taken t.message :: t.before)).isActive = true then
      some (.statusUpdateAcknowledgement (registeredAs t.before) uuid)
    else none
  | _, _ => none

/-- The acknowledgements that are due in episodes of which the last one is first, in order. -/
def dues (bound : Bool) (ts : List Episode) : List Message :=
  ts.reverse.filterMap (acknowledgement? bound)

/-- What has happened when the callback for a status update is done. -/
def upTo (bound : Bool) (during : List Event) : List Event :=
  if bound then .ended .statusUpdate :: during else during

/-- An acknowledgement that is due is accepted next when the callback is done. -/
def Placed (bound : Bool) (t : Episode) : Prop :=
  ∀ a, t.acknowledgement? bound = some a → ∃ later during, t.slot? bound = some during ∧
    t.events = later ++ .accepted .acknowledgement a :: upTo bound during

theorem slot?_grow (hn : ∀ v ∈ new, v.isReturn = false) :
    (t.grow new).slot? bound = t.slot? bound := by
  unfold slot? grow
  rw [List.dropWhile_append_of_pos fun v hv => by simp [hn v hv]]

/-- What has no part in it changes nothing about the acknowledgement. -/
theorem acknowledgement?_grow (hn : ∀ v ∈ new, v.isReturn = false) :
    (t.grow new).acknowledgement? bound = t.acknowledgement? bound := by
  simp only [acknowledgement?, slot?_grow hn]
  rfl

theorem Placed.grow (h : t.Placed bound) (hn : ∀ v ∈ new, v.isReturn = false) :
    (t.grow new).Placed bound := by
  intro a ha
  rw [acknowledgement?_grow hn] at ha
  obtain ⟨later, during, hs, he⟩ := h a ha
  refine ⟨new ++ later, during, (slot?_grow hn).trans hs, ?_⟩
  show new ++ t.events = _
  rw [he, List.append_assoc]

theorem dues_cons (t : Episode) (ts : List Episode) :
    dues bound (t :: ts) = dues bound ts ++ (t.acknowledgement? bound).toList := by
  cases h : t.acknowledgement? bound <;> simp [dues, h]

/-- A callback that is bound is not done before it returned. -/
theorem slot?_of_none (hn : ∀ v ∈ t.events, v.isReturn = false) : t.slot? true = none := by
  have hnil : t.events.dropWhile (fun v => !v.isReturn) = [] :=
    List.dropWhile_eq_nil_iff.mpr fun v hv => by simp [hn v hv]
  simp [slot?, hnil]

/-- When it returns, it is done. -/
theorem slot?_of_return (h : t.events = .ended .statusUpdate :: during) :
    t.slot? true = some during := by
  simp [slot?, h, Event.isReturn]

/-- What happened until the callback was done is in the episode. -/
theorem events_of_slot? (h : t.slot? bound = some during) :
    ∃ later, t.events = later ++ upTo bound during := by
  cases bound with
  | false =>
    obtain rfl := Option.some.inj h
    exact ⟨t.events, (List.append_nil _).symm⟩
  | true =>
    have htail : (t.events.dropWhile fun v => !v.isReturn).tail? = some during := h
    refine ⟨t.events.takeWhile fun v => !v.isReturn, ?_⟩
    cases hd : t.events.dropWhile (fun v => !v.isReturn) with
    | nil => rw [hd] at htail; cases htail
    | cons v vs =>
      rw [hd] at htail
      obtain rfl := Option.some.inj htail
      have hv : v = .ended .statusUpdate := by
        have hret := List.head_dropWhile_not (fun v : Event => !v.isReturn) (l := t.events)
          (by rw [hd]; exact List.cons_ne_nil _ _)
        simp only [hd, List.head_cons, Bool.not_eq_false'] at hret
        exact Event.eq_of_isReturn hret
      calc t.events
          = t.events.takeWhile (fun v => !v.isReturn) ++ t.events.dropWhile fun v => !v.isReturn :=
            List.takeWhile_append_dropWhile.symm
        _ = t.events.takeWhile (fun v => !v.isReturn) ++ upTo true vs := by
            rw [hd, hv]
            rfl

/-- Nothing is due for a message that is no status update. -/
theorem acknowledgement?_of_ne (h : ∀ status uuid, t.message ≠ .statusUpdate status uuid) :
    t.acknowledgement? bound = none := by
  unfold acknowledgement?
  split
  · rename_i status uuid _ hm _
    exact absurd hm (h status uuid)
  · rfl

end Episode

end ClusterLink
