/-
# How far the transport got

A transport is told to connect, connects and is closed in the end. How far
it got can be read off the history of its driver (`History.contact`), and
whether it may be used in some way then is a matter of that alone
(`Event.agrees`). A history in which every event agrees is disciplined
(`History.Disciplined`): the transport connects at most once, before it is
used, and is closed at most once, after that.

A driver that is not connected passes nothing to its transport, whatever it
does (`Endpoint.Mute`), and only joining the cluster changes that.

Key definitions: `Contact`, `History.contact`, `Event.agrees`,
`History.Disciplined`, `Endpoint.Mute`.
Key theorems: `Disciplined.append`, `Disciplined.tell`, `Disciplined.first`,
`Disciplined.traffic`, `Disciplined.last`, `Endpoint.Turns.mute`.
-/
import ClusterLink.Proofs.Passage

namespace ClusterLink

/-- How far the transport of a driver got. -/
inductive Contact
  /-- It was not told to connect. -/
  | fresh
  /-- It was told to connect. -/
  | dialing
  | linked
  | closed
  deriving DecidableEq, Repr

namespace Event

/-- How far the transport got with the event. -/
def contact? : Event → Option Contact
  | connecting => some .dialing
  | connected => some .linked
  | closed => some .closed
  | _ => none

/-- Whether something is sent or received. -/
def isTraffic : Event → Bool
  | sent .. | notSent .. | received _ => true
  | _ => false

/-- Whether the event may happen when the transport got so far. -/
def agrees : Event → Contact → Prop
  | connecting, c => c = .fresh
  | connected, c => c = .dialing
  | sent .., c | notSent .., c | received _, c => c = .linked
  | closed, c => c = .dialing ∨ c = .linked
  | _, _ => True

/-- Whether the transport is told to connect. -/
def isConnecting : Event → Bool
  | connecting => true
  | _ => false

/-- Whether the transport is closed. -/
def isClosed : Event → Bool
  | closed => true
  | _ => false

theorem agrees_of_none {v : Event} {c : Contact} (hc : v.contact? = none)
    (ht : v.isTraffic = true → c = .linked) : v.agrees c := by
  cases v <;> first | trivial | exact ht rfl

theorem linked_of_agrees {v : Event} {c : Contact} (hv : v.isTraffic = true) (ha : v.agrees c) :
    c = .linked := by
  cases v <;> first | exact ha | cases hv

theorem isTiding_of_contact {v : Event} {c : Contact} (h : v.contact? = some c) :
    v.isTiding = true := by
  cases v <;> first | rfl | cases h

/-- What tells nothing and passes nothing on has no part in the use of the transport. -/
theorem quiet_of_not_tiding {v : Event} (ht : ¬ v.isTiding = true) (hp : v.passed? = none) :
    v.contact? = none ∧ v.isTraffic = false := by
  cases v <;> first | exact ⟨rfl, rfl⟩ | exact absurd rfl ht | cases hp

/-- What is sent is passed to the transport; anything else of the traffic is received. -/
theorem isTraffic_cases {v : Event} (h : v.isTraffic = true) :
    v.passed?.isSome = true ∨ ∃ r, v = received r := by
  cases v with
  | received r => exact Or.inr ⟨r, rfl⟩
  | _ => first | exact Or.inl rfl | cases h

end Event

namespace History

variable {h new : List Event} {v : Event}

/-- How far the transport got in a history. -/
def contact : List Event → Contact
  | [] => .fresh
  | v :: h => v.contact?.getD (contact h)

/-- Every use of the transport agrees with how far it had got. -/
abbrev Disciplined (h : List Event) : Prop := Always (fun v t => v.agrees (contact t)) h

/-! ### Disciplined histories -/

theorem contact_append (hn : ∀ w ∈ new, w.contact? = none) : contact (new ++ h) = contact h := by
  induction new with
  | nil => rfl
  | cons w new ih =>
    have hw : w.contact? = none := hn w List.mem_cons_self
    rw [List.cons_append, contact, hw]
    exact ih fun x hx => hn x (List.mem_cons_of_mem _ hx)

/-- What leaves the transport where it is may follow, and traffic if it is connected. -/
theorem Disciplined.append (H : Disciplined h) (hn : ∀ w ∈ new, w.contact? = none)
    (ht : ∀ w ∈ new, w.isTraffic = true → contact h = .linked) : Disciplined (new ++ h) := by
  induction new with
  | nil => exact H
  | cons w new ih =>
    have hn' : ∀ x ∈ new, x.contact? = none := fun x hx => hn x (List.mem_cons_of_mem _ hx)
    refine ⟨Event.agrees_of_none (hn w List.mem_cons_self) ?_,
      ih hn' fun x hx => ht x (List.mem_cons_of_mem _ hx)⟩
    intro hw
    exact (contact_append hn').trans (ht w List.mem_cons_self hw)

theorem Disciplined.quiet (H : Disciplined h)
    (hn : ∀ w ∈ new, w.contact? = none ∧ w.isTraffic = false) :
    Disciplined (new ++ h) ∧ contact (new ++ h) = contact h := by
  refine ⟨H.append (fun w hw => (hn w hw).1) fun w hw ht => ?_,
    contact_append fun w hw => (hn w hw).1⟩
  rw [(hn w hw).2] at ht
  cases ht

/-- The transport is told to connect once it is not fresh any more, and once only. -/
theorem Disciplined.countP_connecting (H : Disciplined h) :
    h.countP Event.isConnecting = if contact h = .fresh then 0 else 1 := by
  induction h with
  | nil => rfl
  | cons v h ih =>
    obtain ⟨hv, H⟩ := H
    rw [List.countP_cons, ih H]
    cases v with
    | connecting =>
      have hf : contact h = .fresh := hv
      rw [if_pos hf]
      rfl
    | connected =>
      have hd : contact h = .dialing := hv
      rw [hd]
      rfl
    | closed => rcases hv with hd | hl <;> simp [*, contact, Event.contact?, Event.isConnecting]
    | _ => rfl

/-- The transport is closed once it counts as closed, and once only. -/
theorem Disciplined.countP_closed (H : Disciplined h) :
    h.countP Event.isClosed = if contact h = .closed then 1 else 0 := by
  induction h with
  | nil => rfl
  | cons v h ih =>
    obtain ⟨hv, H⟩ := H
    rw [List.countP_cons, ih H]
    cases v with
    | connecting =>
      have hf : contact h = .fresh := hv
      rw [hf]
      rfl
    | connected =>
      have hd : contact h = .dialing := hv
      rw [hd]
      rfl
    | closed => rcases hv with hd | hl <;> simp [*, contact, Event.contact?, Event.isClosed]
    | _ => rfl

/-- A transport that is not fresh was told to connect. -/
theorem connecting_mem (H : Disciplined h) (hc : contact h ≠ .fresh) : .connecting ∈ h := by
  have hpos : 0 < h.countP Event.isConnecting := by
    rw [H.countP_connecting, if_neg hc]
    exact Nat.one_pos
  obtain ⟨w, hw, hiw⟩ := List.countP_pos_iff.mp hpos
  cases w with
  | connecting => exact hw
  | _ => cases hiw

/-- A transport that is closed was closed by an event. -/
theorem closed_mem_iff (H : Disciplined h) : .closed ∈ h ↔ contact h = .closed := by
  have hcount : 0 < h.countP Event.isClosed ↔ contact h = .closed := by
    rw [H.countP_closed]
    split <;> simp [*]
  rw [← hcount, List.countP_pos_iff]
  constructor
  · intro hm
    exact ⟨_, hm, rfl⟩
  · rintro ⟨w, hw, hiw⟩
    cases w with
    | closed => exact hw
    | _ => cases hiw

/-- A transport that is linked connected. -/
theorem connected_mem (hc : contact h = .linked) : .connected ∈ h := by
  induction h with
  | nil => cases hc
  | cons w h ih =>
    cases w with
    | connected => exact List.mem_cons_self
    | connecting | closed => cases hc
    | _ => exact List.mem_cons_of_mem _ (ih hc)

/-- Nothing is sent or received over a transport that is fresh. -/
theorem not_traffic_of_fresh (H : Disciplined h) (hc : contact h = .fresh) (hv : v ∈ h) :
    v.isTraffic = false := by
  induction h with
  | nil => cases hv
  | cons w h ih =>
    obtain ⟨hw, H⟩ := H
    have hnone : w.contact? = none ∧ contact h = .fresh := by
      cases w with
      | connecting | connected | closed => cases hc
      | _ => exact ⟨rfl, hc⟩
    rcases List.mem_cons.mp hv with rfl | hv
    · by_contra ht
      have hl := Event.linked_of_agrees (by simpa using ht) hw
      rw [hnone.2] at hl
      cases hl
    · exact ih H hnone.2 hv

/-- A history is disciplined wherever it is cut. -/
theorem Disciplined.cut {t : List Event} (H : Disciplined h) (hs : v :: t <:+ h) :
    v.agrees (contact t) ∧ Disciplined t := by
  refine ⟨always_iff.mp H v t hs, always_iff.mpr fun w u hu => ?_⟩
  exact always_iff.mp H w u ((hu.trans (List.suffix_cons v t)).trans hs)

/-- Before the transport is told to connect, it is not used. -/
theorem Disciplined.first {t : List Event} (H : Disciplined h) (hs : .connecting :: t <:+ h)
    (hv : v ∈ t) : v.isTraffic = false ∧ v.isClosed = false := by
  obtain ⟨hfresh, Ht⟩ := H.cut hs
  have hfresh : contact t = .fresh := hfresh
  refine ⟨not_traffic_of_fresh Ht hfresh hv, ?_⟩
  cases v with
  | closed =>
    rw [(closed_mem_iff Ht).mp hv] at hfresh
    cases hfresh
  | _ => rfl

/-- What is sent or received is so over a transport that was told to connect and did. -/
theorem Disciplined.traffic {t : List Event} (H : Disciplined h) (hs : v :: t <:+ h)
    (hv : v.isTraffic = true) : .connecting ∈ t ∧ .connected ∈ t := by
  obtain ⟨ha, Ht⟩ := H.cut hs
  have hlinked : contact t = .linked := Event.linked_of_agrees hv ha
  exact ⟨connecting_mem Ht (by rw [hlinked]; exact Contact.noConfusion), connected_mem hlinked⟩

/-- After the transport was closed, it is not used any more. -/
theorem Disciplined.last {t : List Event} (H : Disciplined h) (hs : v :: t <:+ h)
    (hclosed : .closed ∈ t) : v.isConnecting = false ∧ v.isTraffic = false := by
  obtain ⟨ha, Ht⟩ := H.cut hs
  rw [(closed_mem_iff Ht).mp hclosed] at ha
  refine ⟨?_, ?_⟩
  · cases v with
    | connecting => cases ha
    | _ => rfl
  · by_contra hv
    cases Event.linked_of_agrees (by simpa using hv) ha

/-! ### Tidings of the transport -/

/-- What is new in a history and a tiding was told. -/
theorem mem_told {told : List Event} (ht : tidings (new ++ h) = tidings h ++ told) (hv : v ∈ new)
    (htid : v.isTiding = true) : v ∈ told := by
  have hnew : told = tidings new := by
    have hsplit : tidings (new ++ h) = tidings h ++ tidings new := by simp [tidings]
    exact List.append_cancel_left (ht.symm.trans hsplit)
  rw [hnew]
  simp [tidings, hv, htid]

/-- If a use of the transport is told and nothing is sent meanwhile, the transport got that far. -/
theorem Disciplined.tell {c : Contact} (H : Disciplined h) (hc : v.contact? = some c)
    (hv : v.agrees (contact h)) (ht : tidings (new ++ h) = tidings h ++ [v])
    (hn : ∀ w ∈ new, w.passed? = none) :
    Disciplined (new ++ h) ∧ contact (new ++ h) = c := by
  have hfilter : new.filter Event.isTiding = [v] := by
    have hsplit : tidings (new ++ h) = tidings h ++ tidings new := by simp [tidings]
    have hrev : tidings new = [v] := List.append_cancel_left (hsplit.symm.trans ht)
    exact List.reverse_injective hrev
  obtain ⟨late, early, rfl, hlate, -, hearly⟩ := List.filter_eq_cons_iff.mp hfilter
  have hlate : ∀ w ∈ late, w.contact? = none ∧ w.isTraffic = false := fun w hw =>
    Event.quiet_of_not_tiding (hlate w hw) (hn w (List.mem_append_left _ hw))
  have hearly : ∀ w ∈ early, w.contact? = none ∧ w.isTraffic = false := fun w hw =>
    Event.quiet_of_not_tiding (List.filter_eq_nil_iff.mp hearly w hw)
      (hn w (List.mem_append_right _ (List.mem_cons_of_mem _ hw)))
  obtain ⟨Hearly, hce⟩ := H.quiet hearly
  have Hv : Disciplined (v :: (early ++ h)) := by
    refine ⟨?_, Hearly⟩
    show v.agrees (contact (early ++ h))
    rw [hce]
    exact hv
  have hcv : contact (v :: (early ++ h)) = c := by rw [contact, hc]; rfl
  obtain ⟨Hlate, hcl⟩ := Hv.quiet hlate
  have hassoc : late ++ v :: early ++ h = late ++ v :: (early ++ h) := by simp
  rw [hassoc]
  exact ⟨Hlate, hcl.trans hcv⟩

end History

/-! ### Drivers that are not connected -/

namespace Endpoint

variable {e e' e'' : Endpoint}

/-- Nothing is passed to the transport meanwhile. -/
def Withholds (e e' : Endpoint) : Prop :=
  ∃ new : List Event, e'.history = new ++ e.history ∧ ∀ v ∈ new, v.passed? = none

theorem Withholds.trans (h : Withholds e e') (h' : Withholds e' e'') : Withholds e e'' := by
  obtain ⟨new, hh, hn⟩ := h
  obtain ⟨new', hh', hn'⟩ := h'
  refine ⟨new' ++ new, by rw [hh', hh, List.append_assoc], fun v hv => ?_⟩
  rcases List.mem_append.mp hv with hv | hv
  · exact hn' v hv
  · exact hn v hv

theorem withholds_of_eq (h : e'.history = e.history) : Withholds e e' := ⟨[], h, by simp⟩

theorem record_withholds {v : Event} (hv : v.passed? = none) : Withholds e (e.record v) :=
  ⟨[v], rfl, by simpa using hv⟩

/-- A driver that is not connected stays so, and passes nothing to its transport. -/
def Mute (e e' : Endpoint) : Prop :=
  e.driver.connected = false → e'.driver.connected = false ∧ Withholds e e'

/-- Until the transport connected, messages wait. -/
theorem submit_mute (why : Cause) (m : Message) : Mute e (e.submit why m) := by
  intro hc
  have hpush : e.submit why m = { e.record (.accepted why m) with
      driver.backlog := e.driver.backlog ++ [m] } := by
    unfold submit push
    exact if_pos hc
  rw [hpush]
  exact ⟨hc, [.accepted why m], rfl, by simp [Event.passed?]⟩

theorem Turn.mute (h : Turn e e') : Mute e e' := by
  intro hc
  cases h with
  | deed h =>
    cases h with
    | aside h => exact ⟨hc, record_withholds (Event.isAside.passed? h)⟩
    | submit why m h => exact submit_mute why m hc
    | halt | act | begin | fall => exact ⟨hc, record_withholds rfl⟩
    | report h hb =>
      exact ⟨hc, ((record_withholds rfl).trans (record_withholds rfl)).trans (record_withholds rfl)⟩
    | misuse h hs => exact ⟨hc, (record_withholds rfl).trans (record_withholds rfl)⟩
    | withdraw => exact ⟨rfl, withholds_of_eq rfl⟩
    | _ => exact ⟨hc, withholds_of_eq rfl⟩
  | launch | release => exact ⟨hc, record_withholds rfl⟩

theorem Turns.mute (h : Turns e e') : Mute e e' := by
  intro hc
  refine h.keep (P := fun x => x.driver.connected = false ∧ Withholds e x) ?_
    ⟨hc, withholds_of_eq rfl⟩
  rintro x y hturn ⟨hx, hw⟩
  obtain ⟨hy, hw'⟩ := hturn.mute hx
  exact ⟨hy, hw.trans hw'⟩

theorem useTransport_withholds {α : Type} (e : Endpoint)
    (f : Transport → Except Failure α × Transport) : Withholds e (e.useTransport f).2 := by
  obtain ⟨cs, hcs⟩ := useTransport_history e f
  refine ⟨_, hcs, fun v hv => ?_⟩
  obtain ⟨c, -, rfl⟩ := List.mem_map.mp hv
  rfl

theorem closeTransport_withholds (e : Endpoint) : Withholds e e.closeTransport := by
  have h1 : Withholds e ((e.useTransport Transport.close).2.record .closed) :=
    (useTransport_withholds e _).trans (record_withholds rfl)
  unfold closeTransport
  dsimp only
  split
  · exact h1
  · exact h1.trans (record_withholds rfl)

/-- A driver that leaves the cluster is not connected any more, and passes nothing on. -/
theorem leave_withholds (e : Endpoint) :
    e.leave.driver.connected = false ∧ Withholds e e.leave := by
  have hb : Withholds e e.breakOff := by
    unfold breakOff
    split
    · exact record_withholds rfl
    · exact withholds_of_eq rfl
  refine ⟨?_, hb.trans (closeTransport_withholds _)⟩
  unfold leave
  rw [closeTransport_driver]

end Endpoint

end ClusterLink
