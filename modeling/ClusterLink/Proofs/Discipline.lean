/-
# How the transport is used

Callers send at any time, on threads of their own, while the dispatch thread
may be anywhere in its loop or about to leave the cluster. That none of them
sends over a transport that is not connected yet, or is closed already, is
due to the driver, which is connected only while its transport is. That the
dispatch thread closes what it was to connect, whatever failed meanwhile, is
due to the phase that it is in (`Phase.suits`). Both are kept by every move
(`System.step_tracked`): moves that neither connect nor close the transport
leave it where it is (`System.step_quiet`), and for the others there is a
lemma each.

Key definitions: `Phase.suits`, `System.Tracked`, `System.Discipline`.
Key theorems: `System.step_tracked`, `System.run_discipline`.
-/
import ClusterLink.Proofs.Contact
import ClusterLink.Proofs.Route
import ClusterLink.Proofs.Verdict

namespace ClusterLink

/-! ### Phases -/

/-- How far the transport may be when the thread goes on after a callback. -/
def After.suits : After → Contact → Prop
  | message .., c | pending, c => c = .linked
  | escaped, c => c = .dialing ∨ c = .linked

theorem After.suits.begun {after : After} {c : Contact} (h : after.suits c) :
    c = .dialing ∨ c = .linked := by
  cases after with
  | escaped => exact h
  | _ => exact Or.inr h

namespace Phase

variable {p p' : Phase} {c : Contact}

/-- How far the transport may be while the dispatch thread is in a phase. -/
def suits : Phase → Contact → Prop
  | idle, c | begun, c => c = .fresh
  | linking, c => c = .dialing
  | entering, c | checking, c | deciding, c | reporting _, c | receiving, c | handling _, c
  | ticking, c => c = .linked
  | escaped _, c | closing _, c => c = .dialing ∨ c = .linked
  | calling frame, c => frame.after.suits c
  | signalling _, c => c = .closed
  -- the thread may have found its transport gone
  | ended, c => c = .closed ∨ c = .fresh

/-- Whether the dispatch thread connects or closes the transport. -/
def isContacting : Phase → Bool
  | begun | linking | closing _ => true
  | _ => false

theorem Contacts.receiving {r : Except Failure (List Message)} (h : p.Contacts (.received r)) :
    p = receiving := by
  cases h
  rfl

theorem Contacts.isContacting {v : Event} (h : p.Contacts v) :
    v.contact? = none ∨ p.isContacting = true := by
  cases h with
  | received => exact Or.inl rfl
  | _ => exact Or.inr rfl

theorem phaseFor_suits (ms : List Message) : (System.phaseFor ms).suits .linked := by
  cases ms <;> rfl

theorem Leads.suits (h : p.Leads p') (hn : p.isContacting = false) (hp : p.suits c) :
    p'.suits c := by
  cases h with
  | connect | strand | link | leave => cases hn
  | gather ms | drop m ms =>
    obtain rfl := hp
    exact phaseFor_suits ms
  | signal => exact Or.inl hp
  | _ => exact hp

theorem after?_suits {after : After} (h : p.after? = some after) (hp : p.suits c) :
    after.suits c := by
  cases p with
  | handling ms =>
    cases ms with
    | nil => cases h
    | cons m rest =>
      obtain rfl := Option.some.inj h
      exact hp
  | reporting | escaped | calling =>
    obtain rfl := Option.some.inj h
    exact hp
  | _ => cases h

theorem isExposed.suits (h : p.isExposed = true) (hn : p.isContacting = false) (hp : p.suits c) :
    c = .dialing ∨ c = .linked := by
  cases p with
  | entering | receiving | handling | ticking => exact Or.inr hp
  | calling frame => exact After.suits.begun hp
  | begun | linking => cases hn
  | _ => cases h

end Phase

theorem After.phase_suits {after : After} {c : Contact} (h : after.suits c) :
    after.phase.suits c := by
  cases after with
  | message m rest =>
    obtain rfl := h
    exact Phase.phaseFor_suits rest
  | pending => exact Or.inr h
  | escaped => exact h

namespace System

variable {s s' : System} {c : Contact}

/-- On its way, the dispatch thread comes to phases that suit the transport as it is, unless it
connects or closes the transport. -/
theorem Next.suits (h : s.Next s') (hn : s.phase.isContacting = false) (hs : s.phase.suits c) :
    s'.phase.suits c := by
  cases h with
  | stay hp => rwa [hp]
  | lead hp => exact hp.suits hn hs
  | quit hp hp' =>
    rw [hp] at hs
    rw [hp']
    exact Or.inr hs
  | fault hp hp' hf =>
    rw [hp] at hs
    rw [hp']
    exact hs
  | begin _ ha hp' _ _ =>
    rw [hp']
    exact Phase.after?_suits ha hs
  | act hp hp' ha _ =>
    rw [hp] at hs
    rw [hp']
    simpa only [Phase.suits, ha] using hs
  | resume ha hp' _ =>
    rw [hp']
    exact After.phase_suits (Phase.after?_suits ha hs)
  | @escape f hp hp' _ =>
    have hc := Phase.isExposed.suits hp hn hs
    rw [hp']
    split <;> exact hc
  | misuse hp hp' _ _ =>
    have hc := Phase.isExposed.suits (by rw [hp]; rfl) hn hs
    rw [hp']
    exact hc

theorem escape_suits (f : Failure) (hc : c = .dialing ∨ c = .linked) :
    (s.escape f).phase.suits c := by
  rw [escape_phase]
  split <;> exact hc

/-- Nobody else takes the dispatch thread to a phase that does not suit the transport. -/
theorem others_suits {m : Move} (hm : m ≠ .go .dispatch) (hs : s.phase.suits c) :
    (s.step m).phase.suits c := by
  rcases s.others_phase hm with hp | ⟨hi, hp⟩ | ⟨frame, hc, hp⟩
  · rwa [hp]
  · rw [hi] at hs
    rwa [hp]
  · rw [hc] at hs
    rwa [hp]

/-! ### Moves -/

/-- How far the transport got suits the driver and where its dispatch thread is. -/
structure Tracked (s : System) : Prop where
  disciplined : History.Disciplined s.endpoint.history
  phase : s.phase.suits (History.contact s.endpoint.history)
  connected : s.driver.connected = true → History.contact s.endpoint.history = .linked
  /-- A final status is put down when the transport is closed. -/
  settled : s.driver.finalStatus.isSome = true → History.contact s.endpoint.history = .closed

/-- What is new in the history after a move has the tidings that the move tells. -/
theorem step_new (h : s.Sound) (m : Move) : ∃ new : List Event,
    (s.step m).endpoint.history = new ++ s.endpoint.history ∧
      History.tidings (new ++ s.endpoint.history) =
        History.tidings s.endpoint.history ++ s.tells m := by
  obtain ⟨new, hnew⟩ := step_history h m
  refine ⟨new, hnew.symm, ?_⟩
  rw [hnew]
  exact step_tidings h m

/-- What a move tells of the transport is the use that the dispatch thread makes of it. -/
theorem told_cases {m : Move} {v : Event} (hv : v ∈ s.tells m) :
    (v.contact? = none ∧ v.isTraffic = false) ∨ m = .go .dispatch ∧ s.phase.Contacts v := by
  have hcalls : ∀ x, v ∈ s.driver.calls x → v.contact? = none ∧ v.isTraffic = false := by
    intro x hx
    rcases s.driver.calls_cases x with hc | ⟨slot, l, args, hc⟩ <;> rw [hc] at hx
    · cases hx
    · obtain rfl := List.mem_singleton.mp hx
      exact ⟨rfl, rfl⟩
  rcases List.mem_append.mp hv with hv | hv
  · rcases s.deliveries_cases m with ht | ⟨x, rest, -, -, -, ht⟩ | ⟨f, -, -, -, ht⟩ |
      ⟨w, hm, hw, ht⟩ <;> rw [ht] at hv
    · cases hv
    · rcases List.mem_cons.mp hv with rfl | hv
      · exact Or.inl ⟨rfl, rfl⟩
      · exact Or.inl (hcalls x hv)
    · rw [← Driver.calls_error] at hv
      exact Or.inl (hcalls _ hv)
    · obtain rfl := List.mem_singleton.mp hv
      exact Or.inr ⟨hm, hw⟩
  · unfold Endpoint.issues at hv
    split at hv
    · split at hv
      · obtain rfl := List.mem_singleton.mp hv
        exact Or.inl ⟨rfl, rfl⟩
      · cases hv
    · cases hv

/-- Something is received in one phase only. -/
theorem receiving_of_told {m : Move} {r : Except Failure (List Message)}
    (h : .received r ∈ s.tells m) : s.phase = .receiving := by
  rcases told_cases h with ⟨-, hr⟩ | ⟨-, hc⟩
  · cases hr
  · exact hc.receiving

/-- Only in some phases the dispatch thread tells that it connected or closed the transport. -/
theorem tells_contact {m : Move} (hm : m = .go .dispatch → s.phase.isContacting = false) :
    ∀ v ∈ s.tells m, v.contact? = none := by
  intro v hv
  rcases told_cases hv with ⟨hc, -⟩ | ⟨hd, hc⟩
  · exact hc
  · refine hc.isContacting.resolve_right ?_
    simp [hm hd]

/-- A driver that is not connected passes nothing on, but with the move of the join. -/
theorem step_mute (h : s.Sound) {m : Move} (hj : s.joins m = false) :
    Endpoint.Mute s.endpoint (s.step m).endpoint :=
  (step_turns h hj).mute

/-- A move that tells nothing of connecting and closing leaves the transport where it is. -/
theorem step_quiet (h : s.Sound) (ht : s.Tracked) {m : Move}
    (hn : ∀ v ∈ s.tells m, v.contact? = none) :
    History.Disciplined (s.step m).endpoint.history ∧
      History.contact (s.step m).endpoint.history = History.contact s.endpoint.history ∧
      ((s.step m).driver.connected = true →
        History.contact s.endpoint.history = .linked) := by
  obtain ⟨new, hnew, htold⟩ := step_new h m
  have hjoined : s.joins m = true → History.contact s.endpoint.history = .linked := by
    intro hj
    have hp := ht.phase
    rw [(joins_iff.mp hj).2] at hp
    exact hp
  -- a driver that may pass something on has its transport connected
  have hopen : (∃ w ∈ new, w.passed?.isSome = true) ∨ (s.step m).driver.connected = true →
      History.contact s.endpoint.history = .linked := by
    intro hor
    by_cases hj : s.joins m = true
    · exact hjoined hj
    by_cases hc : s.driver.connected = true
    · exact ht.connected hc
    obtain ⟨hmute, new', hnew', hpass⟩ := step_mute h (by simpa using hj) (by simpa using hc)
    obtain rfl : new = new' := List.append_cancel_right (hnew.symm.trans hnew')
    rcases hor with ⟨w, hw, hp⟩ | hconn
    · rw [hpass w hw] at hp
      cases hp
    · exact absurd (hmute.symm.trans hconn) Bool.noConfusion
  have hquiet : ∀ w ∈ new, w.contact? = none := by
    intro w hw
    by_contra hsome
    obtain ⟨c, hc⟩ := Option.ne_none_iff_exists'.mp hsome
    have htold := History.mem_told htold hw (Event.isTiding_of_contact hc)
    exact hsome (hn w htold)
  have htraffic : ∀ w ∈ new, w.isTraffic = true →
      History.contact s.endpoint.history = .linked := by
    intro w hw htr
    rcases Event.isTraffic_cases htr with hp | ⟨r, rfl⟩
    · exact hopen (Or.inl ⟨w, hw, hp⟩)
    · have hp := ht.phase
      rw [receiving_of_told (History.mem_told htold hw rfl)] at hp
      exact hp
  rw [hnew]
  exact ⟨ht.disciplined.append hquiet htraffic, History.contact_append hquiet,
    fun hc => hopen (Or.inr hc)⟩

/-- A move that tells that the transport was connected or closed takes it that far, if nothing is
passed to it meanwhile. -/
theorem step_told (h : s.Sound) (ht : s.Tracked) {m : Move} {v : Event} (hv : s.tells m = [v])
    (hc : v.contact? = some c) (ha : v.agrees (History.contact s.endpoint.history))
    (hw : Endpoint.Withholds s.endpoint (s.step m).endpoint) :
    History.Disciplined (s.step m).endpoint.history ∧
      History.contact (s.step m).endpoint.history = c := by
  obtain ⟨new, hnew, htold⟩ := step_new h m
  obtain ⟨new', hnew', hpass⟩ := hw
  obtain rfl : new = new' := List.append_cancel_right (hnew.symm.trans hnew')
  rw [hv] at htold
  rw [hnew]
  exact ht.disciplined.tell hc ha htold hpass

/-- The final status is put down by the dispatch thread only. -/
theorem others_final {m : Move} (hm : m ≠ .go .dispatch) :
    (s.step m).driver.finalStatus = s.driver.finalStatus := by
  rcases s.step_cases m with ⟨-, -, -, he⟩ | ⟨hd, -⟩ | ⟨n, -, -, he⟩ | ho
  · rw [he]
  · exact absurd hd hm
  · rw [he]
    exact (s.caller_ongoing n).1.final
  · rw [(s.outside_deeds ho).2.1]

/-- A transport that is not closed has a driver without a final status, and keeps it until it is
closed. -/
theorem settled_of_step (hc : s.Concluded) (ht : s.Tracked) {m : Move}
    (hm : m = .go .dispatch → ∀ cause, s.phase ≠ .closing cause)
    (hs : (s.step m).driver.finalStatus.isSome = true) :
    History.contact s.endpoint.history = .closed := by
  by_cases hd : m = .go .dispatch
  · rcases step_concludes hc m with hf | ⟨-, cause, hp, -⟩
    · exact ht.settled (by rwa [hf] at hs)
    · exact absurd hp (hm hd cause)
  · rw [others_final hd] at hs
    exact ht.settled hs

/-- A move with which the dispatch thread neither connects nor closes the transport. -/
theorem step_tracked_quiet (h : s.Sound) (hc : s.Concluded) (ht : s.Tracked) {m : Move}
    (hm : m = .go .dispatch → s.phase.isContacting = false) : (s.step m).Tracked := by
  obtain ⟨hdisc, hcont, hconn⟩ := step_quiet h ht (tells_contact hm)
  refine ⟨hdisc, ?_, fun hx => hcont.trans (hconn hx), fun hx => hcont.trans ?_⟩
  · rw [hcont]
    by_cases hd : m = .go .dispatch
    · subst hd
      rcases s.step_dispatch with he | he
      · rw [he]; exact ht.phase
      · rw [he]; exact s.dispatch_next.suits (hm rfl) ht.phase
    · exact others_suits hd ht.phase
  · refine settled_of_step hc ht (fun hd cause hp => ?_) hx
    have hn := hm hd
    rw [hp] at hn
    cases hn

theorem proceed_suits {r : Except Failure Unit × Endpoint} {phase : Phase}
    (hok : r.1 = .ok () → phase.suits c) (hf : c = .dialing ∨ c = .linked) :
    (s.proceed r phase).phase.suits c := by
  unfold proceed
  dsimp only
  split
  · rename_i hr
    exact hok hr
  · exact escape_suits _ hf

/-- While the transport is neither connected nor closed, the dispatch thread passes nothing to it,
and the driver is not connected and has no final status. -/
theorem step_unlinked (h : s.Sound) (hc : s.Concluded) (ht : s.Tracked)
    (hj : s.joins (.go .dispatch) = false) (hp : ∀ cause, s.phase ≠ .closing cause)
    (hl : History.contact s.endpoint.history ≠ .linked)
    (hcl : History.contact s.endpoint.history ≠ .closed) :
    (s.step (.go .dispatch)).driver.connected ≠ true ∧
      (s.step (.go .dispatch)).driver.finalStatus.isSome ≠ true ∧
      Endpoint.Withholds s.endpoint (s.step (.go .dispatch)).endpoint := by
  have hconn : s.driver.connected = false := Bool.eq_false_iff.mpr fun hx => hl (ht.connected hx)
  obtain ⟨hmute, hw⟩ := step_mute h hj hconn
  exact ⟨Bool.eq_false_iff.mp hmute, fun hx => hcl (settled_of_step hc ht (fun _ => hp) hx), hw⟩

/-- The first half of connecting. -/
theorem begun_tracked (h : s.Sound) (hc : s.Concluded) (ht : s.Tracked) (hp : s.phase = .begun) :
    (s.step (.go .dispatch)).Tracked := by
  have hs : s.step (.go .dispatch) = s.dispatch := by
    simp [step, need, dispatchNeed, hp, provides, advance]
  have hfresh : History.contact s.endpoint.history = .fresh := by
    have hx := ht.phase
    rw [hp] at hx
    exact hx
  obtain ⟨hconn, hfinal, hw⟩ := step_unlinked h hc ht (by simp [joins, hp]) (by simp [hp])
    (by simp [hfresh]) (by simp [hfresh])
  have htells := tells_dispatch (s := s) fun frame => by rw [hp]; exact Phase.noConfusion
  cases hatt : s.driver.attached with
  | true =>
    have hv : s.tells (.go .dispatch) = [.connecting] := by
      rw [htells]
      simp only [threadTells, hp, hatt, if_true]
    obtain ⟨hdisc, hcont⟩ := step_told (c := .dialing) h ht hv rfl hfresh hw
    refine ⟨hdisc, ?_, fun hx => absurd hx hconn, fun hx => absurd hx hfinal⟩
    rw [hcont, hs]
    simp only [dispatch, hp, hatt, if_true]
    exact proceed_suits (fun _ => rfl) (Or.inl rfl)
  | false =>
    have hv : s.tells (.go .dispatch) = [] := by
      rw [htells]
      simp [threadTells, hp, hatt]
    obtain ⟨hdisc, hcont, -⟩ := step_quiet h ht (m := .go .dispatch) (by simp [hv])
    refine ⟨hdisc, ?_, fun hx => absurd hx hconn, fun hx => absurd hx hfinal⟩
    rw [hcont, hfresh, hs]
    simp only [dispatch, hp, hatt, Bool.false_eq_true, if_false]
    exact Or.inr rfl

/-- The second half of connecting. -/
theorem linking_tracked (h : s.Sound) (hc : s.Concluded) (ht : s.Tracked)
    (hp : s.phase = .linking) : (s.step (.go .dispatch)).Tracked := by
  by_cases hg : s.gateOpen = true
  case neg =>
    have hs : s.step (.go .dispatch) = s := by simp [step, need, dispatchNeed, hp, provides, hg]
    rwa [hs]
  have hs : s.step (.go .dispatch) = s.proceed s.endpoint.connectEnd .entering := by
    simp [step, need, dispatchNeed, hp, provides, hg, advance, dispatch]
  have hdial : History.contact s.endpoint.history = .dialing := by
    have hx := ht.phase
    rw [hp] at hx
    exact hx
  obtain ⟨hconn, hfinal, hw⟩ := step_unlinked h hc ht (by simp [joins, hp]) (by simp [hp])
    (by simp [hdial]) (by simp [hdial])
  have htells : s.tells (.go .dispatch) = s.endpoint.links := by
    rw [tells_dispatch fun frame => by rw [hp]; exact Phase.noConfusion]
    simp only [threadTells, hp, hg, if_true]
  cases hr : s.endpoint.connectEnd.1 with
  | ok _ =>
    have hv : s.tells (.go .dispatch) = [.connected] := by
      rw [htells]
      simp only [Endpoint.links, hr]
    obtain ⟨hdisc, hcont⟩ := step_told (c := .linked) h ht hv rfl hdial hw
    refine ⟨hdisc, ?_, fun _ => hcont, fun hx => absurd hx hfinal⟩
    rw [hcont, hs]
    exact proceed_suits (fun _ => rfl) (Or.inr rfl)
  | error f =>
    have hv : s.tells (.go .dispatch) = [] := by
      rw [htells]
      simp only [Endpoint.links, hr]
    obtain ⟨hdisc, hcont, -⟩ := step_quiet h ht (m := .go .dispatch) (by simp [hv])
    refine ⟨hdisc, ?_, fun hx => absurd hx hconn, fun hx => absurd hx hfinal⟩
    rw [hcont, hdial, hs]
    refine proceed_suits (fun hok => ?_) (Or.inl rfl)
    rw [hr] at hok
    cases hok

/-- Closing the transport. -/
theorem closing_tracked (h : s.Sound) (ht : s.Tracked) {cause : Option Failure}
    (hp : s.phase = .closing cause) : (s.step (.go .dispatch)).Tracked := by
  have hs : s.step (.go .dispatch) =
      { s with endpoint := s.endpoint.leave, phase := .signalling cause } := by
    simp [step, need, dispatchNeed, hp, provides, isLocked, advance, dispatch]
  obtain ⟨hconn, hw⟩ := s.endpoint.leave_withholds
  have hopen : History.contact s.endpoint.history = .dialing ∨
      History.contact s.endpoint.history = .linked := by
    have hx := ht.phase
    rw [hp] at hx
    exact hx
  have hv : s.tells (.go .dispatch) = [.closed] := by
    rw [tells_dispatch fun frame => by rw [hp]; exact Phase.noConfusion]
    simp only [threadTells, hp]
  obtain ⟨hdisc, hcont⟩ := step_told (c := .closed) h ht hv rfl hopen (by rw [hs]; exact hw)
  refine ⟨hdisc, ?_, fun hx => ?_, fun _ => hcont⟩
  · rw [hcont, hs]
    rfl
  · rw [hs] at hx
    exact absurd (hconn.symm.trans hx) Bool.noConfusion

/-- Every move keeps track of how far the transport got. -/
theorem step_tracked (h : s.Sound) (hc : s.Concluded) (ht : s.Tracked) (m : Move) :
    (s.step m).Tracked := by
  by_cases hm : m = .go .dispatch ∧ s.phase.isContacting = true
  · obtain ⟨rfl, hcontact⟩ := hm
    cases hp : s.phase with
    | begun => exact begun_tracked h hc ht hp
    | linking => exact linking_tracked h hc ht hp
    | closing cause => exact closing_tracked h ht hp
    | _ => rw [hp] at hcontact; cases hcontact
  · exact step_tracked_quiet h hc ht fun hd => by simpa [hd] using hm

theorem Begins.tracked (h : s.Begins) : s.Tracked := by
  obtain ⟨a, remote, ha⟩ := h.made
  have hd := Application.driver_new ha
  have hh := h.history
  have hcontact : History.contact s.endpoint.history = .fresh := by rw [hh]; rfl
  refine ⟨by rw [hh]; trivial, ?_, fun hx => ?_, fun hx => ?_⟩
  · rw [hcontact, h.phase]
    rfl
  · exact absurd (hd.connected.symm.trans hx) Bool.noConfusion
  · have hnone : s.driver.finalStatus = none := hd.finalStatus
    rw [hnone] at hx
    cases hx

theorem run_tracked (h : s.Begins) (moves : List Move) : (s.run moves).Tracked :=
  (run_invariant (P := fun t => t.Concluded ∧ t.Tracked)
    (fun _ m hs ht => ⟨step_concluded ht.1 m, step_tracked hs ht.1 ht.2 m⟩) h.sound
    ⟨h.concluded, h.tracked⟩ moves).2

/-! ### Discipline -/

/-- How the transport of a driver was used. -/
structure Discipline (s : System) : Prop where
  /-- The transport is told to connect at most once, -/
  connects : s.endpoint.history.countP Event.isConnecting ≤ 1
  /-- before anything is sent or received, and before it is closed. -/
  first : ∀ t, .connecting :: t <:+ s.endpoint.history →
    ∀ v ∈ t, v.isTraffic = false ∧ v.isClosed = false
  /-- Whatever is sent or received is so after it was told to connect and did. -/
  traffic : ∀ v t, v :: t <:+ s.endpoint.history → v.isTraffic = true →
    .connecting ∈ t ∧ .connected ∈ t
  /-- It is closed at most once, -/
  closes : s.endpoint.history.countP Event.isClosed ≤ 1
  /-- and not used any more after that. -/
  last : ∀ v t, v :: t <:+ s.endpoint.history → .closed ∈ t →
    v.isConnecting = false ∧ v.isTraffic = false
  /-- Only the dispatch thread connects it, receives or closes it. -/
  thread : ∀ m, m ≠ .go .dispatch → ∀ new,
    (s.step m).endpoint.history = new ++ s.endpoint.history →
    ∀ v ∈ new, v.contact? = none ∧ ∀ r, v ≠ .received r
  /-- Once the end of the dispatch thread is made known, it was closed exactly once. -/
  closed : s.driver.done = true → s.endpoint.history.countP Event.isClosed = 1

/-- Nobody but the dispatch thread connects the transport, receives or closes it. -/
theorem others_contact (h : s.Sound) {m : Move} (hm : m ≠ .go .dispatch) {new : List Event}
    (hnew : (s.step m).endpoint.history = new ++ s.endpoint.history) {v : Event} (hv : v ∈ new) :
    v.contact? = none ∧ ∀ r, v ≠ .received r := by
  obtain ⟨new', hnew', htold⟩ := step_new h m
  obtain rfl : new = new' := List.append_cancel_right (hnew.symm.trans hnew')
  have hno : v ∈ s.tells m → v.contact? = none ∧ v.isTraffic = false := fun hv =>
    (told_cases hv).resolve_right fun hx => hm hx.1
  refine ⟨?_, ?_⟩
  · by_contra hsome
    obtain ⟨c, hx⟩ := Option.ne_none_iff_exists'.mp hsome
    exact hsome (hno (History.mem_told htold hv (Event.isTiding_of_contact hx))).1
  · rintro r rfl
    cases (hno (History.mem_told htold hv rfl)).2

/-- In every run the transport is used with discipline. -/
theorem run_discipline {s : System} (h : s.Begins) (moves : List Move) :
    (s.run moves).Discipline := by
  have hs := run_sound h.sound moves
  have hc := run_concluded h moves
  have ht := run_tracked h moves
  have H := ht.disciplined
  refine ⟨?_, fun t hsuf v hv => H.first hsuf hv, fun v t hsuf hv => H.traffic hsuf hv, ?_,
    fun v t hsuf hmem => H.last hsuf hmem,
    fun m hm new hnew v hv => others_contact hs hm hnew hv, fun hd => ?_⟩
  · rw [H.countP_connecting]
    split <;> decide
  · rw [H.countP_closed]
    split <;> decide
  · rw [H.countP_closed, if_pos (ht.settled (hc.known hd))]

/-- A run in which a driver is aborted once it joined the cluster, up to the end of its dispatch
thread. -/
def leavingMoves : List Move :=
  [.call .start, .go (.caller 0), .go .dispatch, .go .dispatch, .go .dispatch, .call .abort,
    .go (.caller 1), .go .dispatch, .go .dispatch, .go .dispatch]

theorem sample_discipline : (sample [] [] []).Begins ∧
    ((sample [] [] []).run leavingMoves).driver.done = true ∧
    ((sample [] [] []).run leavingMoves).Discipline :=
  ⟨sample_begins _ _ _, rfl, run_discipline (sample_begins _ _ _) _⟩

end System

end ClusterLink
