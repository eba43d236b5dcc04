/-
# The send log

What is passed to the transport, in which order. Until the driver joined the
cluster that is nothing: messages wait in the backlog (`Endpoint.Unsent`).
With the join, the registration and the backlog go out, and from then on
each message that is accepted, up to the first send that fails
(`Endpoint.Sending`). So the log follows the registration and the accepted
messages, in this order, and is cut off after a failure (`Follows`).

A driver that cannot join, since connecting failed or it was shut down
meanwhile, never sends anything. Which messages are accepted in a move is
said by `System.Yields`.

Key definitions: `Follows`, `Endpoint.Unsent`, `Endpoint.Sending`,
`Endpoint.Joined`, `System.joining`, `System.SendLog`.
Key theorems: `Endpoint.Turn.unsent`, `Endpoint.Turn.joined`,
`System.run_log`, `System.run_sendLog`.
-/
import ClusterLink.Proofs.Provenance
import ClusterLink.Proofs.Silence

namespace ClusterLink

open History

/-- What was passed to the transport is what is due, in order, cut off after the first failure. -/
structure Follows (log : List (Message × Bool)) (due : List Message) : Prop where
  order : log.map Prod.fst <+: due
  /-- Nothing is left out as long as all goes well. -/
  complete : (∀ x ∈ log, x.2 = true) → log.map Prod.fst = due
  /-- A failure is the last that happens. -/
  cut : ∀ x ∈ log.dropLast, x.2 = true

namespace Follows

variable {log : List (Message × Bool)} {due : List Message}

theorem nil : Follows [] [] := ⟨List.prefix_refl _, fun _ => rfl, by simp⟩

/-- After a failure, what else is due is not passed on. -/
theorem drop (h : Follows log due) (hf : ¬ ∀ x ∈ log, x.2 = true) (m : Message) :
    Follows log (due ++ [m]) :=
  ⟨h.order.trans (List.prefix_append _ _), fun hall => absurd hall hf, h.cut⟩

/-- As long as all went well, what is due next is passed on. -/
theorem send (h : Follows log due) (hall : ∀ x ∈ log, x.2 = true) (m : Message) (ok : Bool) :
    Follows (log ++ [(m, ok)]) (due ++ [m]) := by
  have hm : (log ++ [(m, ok)]).map Prod.fst = due ++ [m] := by
    rw [List.map_append, h.complete hall]; rfl
  refine ⟨hm ▸ List.prefix_refl _, fun _ => hm, ?_⟩
  rw [List.dropLast_concat]
  exact hall

end Follows

namespace Endpoint

/-! ### Before the join -/

/-- Nothing was sent, and whatever was accepted waits. -/
structure Unsent (e : Endpoint) : Prop where
  connected : e.driver.connected = false
  pendingError : e.driver.pendingError = none
  passed : passed e.history = []
  waiting : e.driver.state = .created ∨ e.driver.state.isActive = true →
    e.driver.backlog = accepted e.history

theorem passed_append {new h : List Event} (hn : ∀ v ∈ new, v.passed? = none) :
    History.passed (new ++ h) = History.passed h := by
  induction new with
  | nil => rfl
  | cons v new ih =>
    rw [List.cons_append, passed_cons, hn v List.mem_cons_self,
      ih fun w hw => hn w (List.mem_cons_of_mem _ hw)]
    simp

/-- What happens on the side changes nothing. -/
theorem Unsent.append {e e' : Endpoint} (h : e.Unsent) (new : List Event)
    (hh : e'.history = new ++ e.history) (hn : ∀ v ∈ new, v.passed? = none ∧ v.accepted? = none)
    (hc : e'.driver.connected = e.driver.connected) (hb : e'.driver.backlog = e.driver.backlog)
    (hp : e'.driver.pendingError = e.driver.pendingError)
    (hs : e'.driver.state = .created ∨ e'.driver.state.isActive = true →
      e.driver.state = .created ∨ e.driver.state.isActive = true) : e'.Unsent := by
  refine ⟨hc.trans h.connected, hp.trans h.pendingError, ?_, fun hst => ?_⟩
  · rw [hh, passed_append fun v hv => (hn v hv).1, h.passed]
  · rw [hh, accepted_append fun v hv => (hn v hv).2, hb, h.waiting (hs hst)]

/-- A message waits while the transport is not connected. -/
theorem push_of_not_connected {e : Endpoint} (h : e.driver.connected = false) (m : Message) :
    e.push m = { e with driver.backlog := e.driver.backlog ++ [m] } := by
  rw [push, if_pos h]

theorem Deed.unsent {e e' : Endpoint} (h : Deed e e') (he : e.Unsent) : e'.Unsent := by
  cases h with
  | @aside v h =>
    exact he.append [v] rfl
      (by simpa using ⟨Event.isAside.passed? h, Event.isAside.accepted? h⟩) rfl rfl rfl id
  | submit why m h =>
    have hc : (e.record (.accepted why m)).driver.connected = false := he.connected
    unfold Endpoint.submit
    rw [push_of_not_connected hc]
    refine ⟨hc, he.pendingError, ?_, fun _ => ?_⟩
    · simpa [record, Event.passed?] using he.passed
    · simp [record, Event.accepted?, he.waiting (Or.inr h)]
  | halt h hs =>
    refine he.append [.became _] rfl (by simp [Event.passed?, Event.accepted?])
      rfl rfl rfl fun _ => Or.inr h
  | begin args h hs =>
    exact he.append [.began _ _ _ _] rfl (by simp [Event.passed?, Event.accepted?])
      rfl rfl rfl id
  | act h =>
    exact he.append [.acted _ _] rfl (by simp [Event.passed?, Event.accepted?])
      rfl rfl rfl id
  | report h hb =>
    exact he.append [.began _ _ _ _, .became _, .noted _] rfl
      (by simp [Event.passed?, Event.accepted?]) rfl rfl rfl fun _ => Or.inr h
  | fall h =>
    exact he.append [.broke _ _] rfl (by simp [Event.passed?, Event.accepted?])
      rfl rfl rfl id
  | misuse h hs =>
    exact he.append [.became _, .broke _ _] rfl (by simp [Event.passed?, Event.accepted?])
      rfl rfl rfl fun hst => by rcases hst with hst | hst <;> cases hst
  | withdraw h hc =>
    refine ⟨rfl, he.pendingError, he.passed, fun hst => ?_⟩
    rcases hst with hst | hst
    · exact absurd hst hc
    · exact absurd (h.symm.trans hst) Bool.noConfusion
  | _ => exact ⟨he.connected, he.pendingError, he.passed, he.waiting⟩

theorem Turn.unsent {e e' : Endpoint} (h : Turn e e') (he : e.Unsent) : e'.Unsent := by
  cases h with
  | deed h => exact h.unsent he
  | launch h =>
    exact he.append [.became _] rfl (by simp [Event.passed?, Event.accepted?])
      rfl rfl rfl fun _ => Or.inl h
  | release h =>
    refine ⟨he.connected, he.pendingError, ?_, fun hst => ?_⟩
    · simpa [Endpoint.release, become, record, Event.passed?] using he.passed
    · rcases hst with hst | hst <;> cases hst

/-! ### After the join -/

/-- What was due so far was passed to the transport, up to a failure that is kept. -/
structure Sending (due : List Message) (e : Endpoint) : Prop where
  follows : Follows (History.passed e.history) due
  failed : e.driver.pendingError = none ↔ ∀ x ∈ History.passed e.history, x.2 = true

variable {due : List Message}

theorem Sending.append {e e' : Endpoint} (h : e.Sending due) (new : List Event)
    (hh : e'.history = new ++ e.history) (hn : ∀ v ∈ new, v.passed? = none)
    (hp : e'.driver.pendingError = e.driver.pendingError) : e'.Sending due := by
  have hl : History.passed e'.history = History.passed e.history := by
    rw [hh, passed_append hn]
  exact ⟨hl ▸ h.follows, by rw [hp, hl]; exact h.failed⟩

/-- While the transport is connected, a message that is handed over is passed to it, and a failure
is kept. -/
theorem push_passed {e : Endpoint} (hc : e.driver.connected = true)
    (hp : e.driver.pendingError = none) (m : Message) : ∃ ok,
    History.passed (e.push m).history = History.passed e.history ++ [(m, ok)] ∧
      ((e.push m).driver.pendingError = none ↔ ok = true) := by
  have hpush : e.push m = (e.note (.sending m)).transmit m := by
    rw [Endpoint.push, if_neg (by simp [hc]), if_neg (by simp [hp])]
  have hcalled : ∀ cs : List LibraryCall,
      History.passed (cs.map Event.called ++ (e.note (.sending m)).history) =
        History.passed e.history := fun cs => by
    rw [passed_append fun v hv => Event.isAside.passed? (isAside_of_mem_called hv)]
    simp [note, record, Event.passed?]
  rw [hpush]
  obtain ⟨cs, ⟨b, d, hh, hpe⟩ | ⟨f, b, d, hh, hpe⟩⟩ := transmit_history (e.note (.sending m)) m
  · refine ⟨true, ?_, ?_⟩
    · rw [hh, passed_cons, hcalled]; rfl
    · exact ⟨fun _ => rfl, fun _ => hpe.trans hp⟩
  · refine ⟨false, ?_, ?_⟩
    · rw [hh, passed_cons, passed_cons, hcalled]; simp [Event.passed?]
    · rw [hpe]
      exact ⟨fun hf => (by cases hf), fun hf => (by cases hf)⟩

/-- After a failure that is kept, a message is not passed on. -/
theorem push_withheld {e : Endpoint} (hc : e.driver.connected = true)
    (hp : e.driver.pendingError.isSome = true) (m : Message) :
    e.push m = e.note (.withheld m) := by
  rw [Endpoint.push, if_neg (by simp [hc]), if_pos hp]

/-- A message that is handed over while the transport is connected is due next. -/
theorem Sending.push {e : Endpoint} (h : e.Sending due) (hc : e.driver.connected = true)
    (m : Message) : (e.push m).Sending (due ++ [m]) := by
  cases hp : e.driver.pendingError with
  | some f =>
    have hf : ¬ ∀ x ∈ History.passed e.history, x.2 = true := fun hall => by
      rw [h.failed.mpr hall] at hp
      cases hp
    have hn : (e.note (.withheld m)).Sending due :=
      h.append [.noted _] rfl (by simp [Event.passed?]) rfl
    rw [push_withheld hc (by simp [hp])]
    refine ⟨hn.follows.drop ?_ m, hn.failed⟩
    simpa [note, record, Event.passed?] using hf
  | none =>
    have hall := h.failed.mp hp
    obtain ⟨ok, hl, hpe⟩ := push_passed hc hp m
    refine ⟨hl ▸ h.follows.send hall m ok, ?_⟩
    rw [hpe, hl]
    refine ⟨fun hok x hx => ?_, fun hok => hok (m, ok) (by simp)⟩
    rcases List.mem_append.mp hx with hx | hx
    · exact hall x hx
    · rw [List.mem_singleton.mp hx]
      exact hok

/-- Nothing is put into the backlog while the transport is connected. -/
theorem Sending.pushAll {e : Endpoint} (h : e.Sending due) (hc : e.driver.connected = true)
    (ms : List Message) : (e.pushAll ms).Sending (due ++ ms) := by
  induction ms generalizing e due with
  | nil => simpa [Endpoint.pushAll] using h
  | cons m ms ih =>
    have := ih (h.push hc m) (by rw [push_connected]; exact hc)
    rwa [List.append_assoc] at this

/-- With the join, the registration is due, and then what waited. -/
theorem Unsent.flush {e : Endpoint} (h : e.Unsent) (hs : e.driver.state = .started)
    (replyTo : String) : (e.flush replyTo).Sending
      (e.driver.registration replyTo :: accepted (e.flush replyTo).history) := by
  have h0 : ({ e with driver.connected := true } : Endpoint).Sending [] := by
    refine ⟨?_, ?_⟩
    · show Follows (History.passed e.history) []
      rw [h.passed]; exact .nil
    · show e.driver.pendingError = none ↔ ∀ x ∈ History.passed e.history, x.2 = true
      rw [h.passed]; simp [h.pendingError]
  have hc : ({ e with driver.connected := true } : Endpoint).driver.connected = true := rfl
  have hb := push_backlog hc (e.driver.registration replyTo)
  have hreg := h0.push hc (e.driver.registration replyTo)
  have hall := Sending.pushAll (e := { ({ e with driver.connected := true } : Endpoint).push
    (e.driver.registration replyTo) with driver.backlog := [] }) ⟨hreg.follows, hreg.failed⟩
    (push_connected _ _) e.driver.backlog
  obtain ⟨new, hh, hn⟩ := e.flush_history replyTo
  have hacc : accepted (e.flush replyTo).history = e.driver.backlog := by
    rw [hh, h.waiting (Or.inr (by rw [hs]; rfl))]
    refine accepted_append fun v hv => ?_
    rcases hn v hv with hv | hv
    · exact Event.isAside.accepted? hv
    · cases v <;> first | rfl | cases hv
  have hf : e.flush replyTo = ({ ({ e with driver.connected := true } : Endpoint).push
      (e.driver.registration replyTo) with driver.backlog := [] } : Endpoint).pushAll
        e.driver.backlog := by
    unfold Endpoint.flush
    dsimp only
    rw [hb]
  rw [hacc, hf]
  exact hall

/-- The driver joined the cluster with the registration, and sends whatever it accepts. -/
structure Joined (registration : Message) (e : Endpoint) : Prop where
  sending : e.Sending (registration :: accepted e.history)
  connected : e.driver.state.isActive = true → e.driver.connected = true
  started : e.driver.state ≠ .created

variable {registration : Message}

/-- A driver that waited to join the cluster joined it. -/
theorem Unsent.joined {e : Endpoint} (h : e.Unsent) (hs : e.driver.state = .started)
    (replyTo : String) : (((e.flush replyTo).become .running).note
      (.connected (e.flush replyTo).driver.remote)).Joined (e.driver.registration replyTo) := by
  obtain ⟨b, p, hd⟩ := e.flush_driver replyTo
  refine ⟨?_, fun _ => ?_, Lifecycle.noConfusion⟩
  · rw [note_accepted, become_accepted]
    exact (h.flush hs replyTo).append [.noted _, .became _] rfl
      (by simp [Event.passed?]) rfl
  · show (e.flush replyTo).driver.connected = true
    rw [hd]

/-- What happens on the side changes nothing. -/
theorem Joined.append {e e' : Endpoint} (h : e.Joined registration) (new : List Event)
    (hh : e'.history = new ++ e.history) (hn : ∀ v ∈ new, v.passed? = none ∧ v.accepted? = none)
    (hp : e'.driver.pendingError = e.driver.pendingError)
    (hc : e'.driver.connected = e.driver.connected)
    (hs : e'.driver.state.isActive = true → e.driver.state.isActive = true)
    (hs' : e'.driver.state ≠ .created) : e'.Joined registration := by
  have ha : accepted e'.history = accepted e.history := by
    rw [hh, accepted_append fun v hv => (hn v hv).2]
  refine ⟨?_, fun hact => hc.trans (h.connected (hs hact)), hs'⟩
  rw [ha]
  exact h.sending.append new hh (fun v hv => (hn v hv).1) hp

theorem Deed.joined {e e' : Endpoint} (h : Deed e e') (he : e.Joined registration) :
    e'.Joined registration := by
  cases h with
  | @aside v h =>
    exact he.append [v] rfl
      (by simpa using ⟨Event.isAside.passed? h, Event.isAside.accepted? h⟩) rfl rfl id he.started
  | submit why m h =>
    have hc : (e.record (.accepted why m)).driver.connected = true := he.connected h
    have hr : (e.record (.accepted why m)).Sending (registration :: accepted e.history) :=
      he.sending.append [.accepted why m] rfl (by simp [Event.passed?]) rfl
    refine ⟨?_, fun _ => ?_, ?_⟩
    · rw [submit_accepted]
      exact hr.push hc m
    · unfold Endpoint.submit
      rw [push_connected]
      exact hc
    · rw [submit_state]; exact he.started
  | halt h hs =>
    exact he.append [.became _] rfl (by simp [Event.passed?, Event.accepted?]) rfl rfl
      (fun _ => h) (by rcases hs with rfl | rfl <;> exact Lifecycle.noConfusion)
  | begin args h hs =>
    exact he.append [.began _ _ _ _] rfl (by simp [Event.passed?, Event.accepted?])
      rfl rfl id he.started
  | act h =>
    exact he.append [.acted _ _] rfl (by simp [Event.passed?, Event.accepted?])
      rfl rfl id he.started
  | report h hb =>
    exact he.append [.began _ _ _ _, .became _, .noted _] rfl
      (by simp [Event.passed?, Event.accepted?]) rfl rfl (fun _ => h) Lifecycle.noConfusion
  | fall h =>
    exact he.append [.broke _ _] rfl (by simp [Event.passed?, Event.accepted?])
      rfl rfl id he.started
  | misuse h hs =>
    exact he.append [.became _, .broke _ _] rfl
      (by simp [Event.passed?, Event.accepted?]) rfl rfl Bool.noConfusion Lifecycle.noConfusion
  | withdraw h hc =>
    exact ⟨⟨he.sending.follows, he.sending.failed⟩,
      fun hact => absurd (h.symm.trans hact) Bool.noConfusion, hc⟩
  | _ => exact ⟨⟨he.sending.follows, he.sending.failed⟩, he.connected, he.started⟩

theorem Turn.joined {e e' : Endpoint} (h : Turn e e') (he : e.Joined registration) :
    e'.Joined registration := by
  cases h with
  | deed h => exact h.joined he
  | launch h => exact absurd h he.started
  | release h =>
    exact he.append [.became _] rfl (by simp [Event.passed?, Event.accepted?]) rfl rfl
      Bool.noConfusion Lifecycle.noConfusion

end Endpoint

namespace System

/-! ### Runs -/

/-- The system as it is when the dispatch thread, having connected, takes the lock for the driver to
join the cluster; nothing if that does not happen. -/
def joining (s : System) : List Move → Option System
  | [] => none
  | m :: moves => if s.joins m then some s else (s.step m).joining moves

theorem joining_of_late {s : System} (h : s.Sound) (hl : s.phase.isLate = true)
    (moves : List Move) : s.joining moves = none := by
  induction moves generalizing s with
  | nil => rfl
  | cons m moves ih =>
    rw [joining, not_joins_of_late hl m]
    exact ih (step_sound h m) (step_isLate h hl m)

/-- The thread is past the join once the driver joined. -/
theorem joining_isLate {s x : System} (h : s.Sound) {moves : List Move}
    (hj : s.joining moves = some x) : (s.run moves).phase.isLate = true := by
  induction moves generalizing s with
  | nil => cases hj
  | cons m moves ih =>
    rw [joining] at hj
    by_cases hm : s.joins m = true
    · exact (run_turns (step_sound h m) (step_joins h hm).2 moves).2
    · rw [if_neg hm] at hj
      exact ih (step_sound h m) hj

/-- A join is found in the first moves, or in those that follow. -/
theorem joining_append (s : System) (moves more : List Move) :
    s.joining (moves ++ more) =
      match s.joining moves with
      | some x => some x
      | none => (s.run moves).joining more := by
  induction moves generalizing s with
  | nil => rfl
  | cons m moves ih =>
    rw [List.cons_append, joining, joining]
    split
    · rfl
    · exact ih _

/-- The driver did not join the cluster yet, and its transport announces itself. -/
structure Unjoined (s : System) : Prop where
  unsent : s.endpoint.Unsent
  announces : s.endpoint.surroundings.transport.Announces
  reachable : s.phase = .linking ∨ s.phase = .entering →
    s.endpoint.surroundings.transport.Reachable

/-- Nothing was sent by a driver that was just made. -/
theorem Begins.unsent {s : System} (h : s.Begins) : s.endpoint.Unsent := by
  obtain ⟨a, remote, ha⟩ := h.made
  have hd := Application.driver_new ha
  refine ⟨hd.connected, hd.pendingError, ?_, fun _ => ?_⟩
  · rw [h.history]; rfl
  · rw [h.history]; exact hd.backlog

theorem Begins.unjoined {s : System} (h : s.Begins)
    (ht : s.endpoint.surroundings.transport.Announces) : s.Unjoined := by
  refine ⟨h.unsent, ht, fun hp => ?_⟩
  rw [h.phase] at hp
  rcases hp with hp | hp <;> cases hp

/-- The dispatch thread gets to connecting and to the join only by connecting. -/
theorem dispatch_reaches {s : System} (h : s.Sound)
    (hp : s.dispatch.phase = .linking ∨ s.dispatch.phase = .entering) :
    (s.phase = .linking ∨ s.phase = .entering) ∨
      s.endpoint.surroundings.transport.connectStart.1 = .ok () ∧
        s.dispatch.endpoint.surroundings.transport =
          s.endpoint.surroundings.transport.connectStart.2 := by
  have hearly : ¬ s.dispatch.phase.isLate = true := by
    rcases hp with hp | hp <;> rw [hp] <;> exact Bool.noConfusion
  rcases s.phase.stages with hl | he | (hb | hk) | hi
  · exact absurd (dispatch_onward h.admits hl).late hearly
  · exact Or.inl (Or.inr he)
  · refine Or.inr ?_
    unfold dispatch at hearly ⊢
    rw [hb] at hearly ⊢
    dsimp only at hearly ⊢
    split at hearly
    · rename_i hatt
      rw [if_pos hatt]
      unfold proceed at hearly ⊢
      dsimp only at hearly ⊢
      split at hearly
      · rename_i hok
        exact ⟨hok, rfl⟩
      · exact absurd (escape_isLate _ _) hearly
    · exact absurd rfl hearly
  · exact Or.inl (Or.inl hk)
  · rw [dispatch_idle hi, hi] at hp
    rcases hp with hp | hp <;> cases hp

/-- The thread gets to connecting and to the join only by connecting. -/
theorem step_reaches {s : System} (h : s.Sound) {m : Move}
    (hp : (s.step m).phase = .linking ∨ (s.step m).phase = .entering) :
    (s.phase = .linking ∨ s.phase = .entering) ∨
      s.endpoint.surroundings.transport.connectStart.1 = .ok () ∧
        (s.step m).endpoint.surroundings.transport =
          s.endpoint.surroundings.transport.connectStart.2 := by
  rcases s.step_cases m with ⟨-, -, -, he⟩ | ⟨-, he⟩ | ⟨n, -, hn, he⟩ | hm
  · rw [he] at hp
    exact Or.inl hp
  · rw [he] at hp ⊢
    exact dispatch_reaches h hp
  · rw [he] at hp
    obtain ⟨-, ⟨hph, -⟩ | ⟨-, t, htp, ht⟩⟩ := caller_turns n hn
    · rw [hph] at hp; exact Or.inl hp
    · rw [ht] at hp
      rcases t.launch_phase with hl | ⟨-, hl⟩ <;> rw [hl] at hp
      · rw [htp] at hp; exact Or.inl hp
      · rcases hp with hp | hp <;> cases hp
  · obtain ⟨-, -, hph | ⟨frame, frame', -, hph⟩⟩ := s.outside_deeds hm <;> rw [hph] at hp
    · exact Or.inl hp
    · rcases hp with hp | hp <;> cases hp

theorem step_unjoined {s : System} (h : s.Sound) (hu : s.Unjoined) {m : Move}
    (hj : s.joins m = false) : (s.step m).Unjoined := by
  have ht := step_turns h hj
  refine ⟨ht.keep (fun _ _ ht hx => ht.unsent hx) hu.unsent, ht.keeps.1 hu.announces, fun hp => ?_⟩
  rcases step_reaches h hp with hp | ⟨hok, he⟩
  · exact ht.keeps.2 (hu.reachable hp)
  · rw [he]
    exact Transport.connectStart_reachable hu.announces hok

/-- Until the driver joins, nothing is sent; then it depends on its state. -/
theorem run_log {s : System} (h : s.Sound) (hr : s.endpoint.Recorded []) (hu : s.Unjoined)
    (moves : List Move) :
    match s.joining moves with
    | none => (s.run moves).endpoint.Unsent
    | some x =>
      if x.driver.state = .started then
        ∃ replyTo, x.endpoint.surroundings.transport.address = .ok replyTo ∧
          (s.run moves).endpoint.Joined (x.driver.registration replyTo)
      else passed (s.run moves).endpoint.history = [] := by
  induction moves generalizing s with
  | nil => exact hu.unsent
  | cons m moves ih =>
    rw [joining]
    by_cases hj : s.joins m = true
    · rw [if_pos hj]
      obtain ⟨hd, hl⟩ := step_joins h hj
      obtain ⟨-, hph⟩ := joins_iff.mp hj
      have hs := h.admits
      rw [hph] at hs
      have hs' := step_sound h m
      have hlate := (run_turns hs' hl moves).1
      dsimp only
      rcases s.endpoint.enter_cases with ⟨hn, he⟩ | ⟨-, f, hf, -⟩ | ⟨hst, replyTo, haddr, he⟩
      · -- the driver was shut down, and stays silent
        rw [if_neg hn]
        have hshut : (History.state s.endpoint.history).isShut = true := by
          rw [hr.state]
          exact Lifecycle.isShut_of_ne hs.1 hn hs.2
        have hg := (run_recorded h ⟨.rest, hr.state⟩ (m :: moves)).grows
        exact (hg.silent hshut).2.1.trans hu.unsent.passed
      · -- the address is there, as the transport connected
        obtain ⟨a, ha⟩ := hu.reachable (Or.inr hph)
        rw [ha] at hf
        cases hf
      · rw [if_pos hst]
        refine ⟨replyTo, haddr, ?_⟩
        rw [he] at hd
        have hjoined := hu.unsent.joined hst replyTo
        exact Endpoint.Turns.keep (fun _ _ ht hx => ht.joined hx) (hd.turns.trans hlate) hjoined
    · have hj : s.joins m = false := by simpa using hj
      rw [hj]
      exact ih (step_sound h m) (run_recorded h hr [m]) (step_unjoined h hu hj)

/-- A thread that fails to connect is past the join without having joined. -/
theorem raised_isLate {s : System} {f : Failure}
    (hf : s.phase = .begun ∧ s.endpoint.connectStart.1 = .error f ∨
      s.phase = .linking ∧ s.gateOpen = true ∧ s.endpoint.connectEnd.1 = .error f) :
    s.joins (.go .dispatch) = false ∧ (s.step (.go .dispatch)).phase.isLate = true := by
  rcases hf with ⟨hp, hf⟩ | ⟨hp, hg, hf⟩
  · have hs : s.step (.go .dispatch) = s.dispatch := by
      simp [step, need, dispatchNeed, hp, provides, advance]
    refine ⟨by simp [joins, hp], ?_⟩
    rw [hs, dispatch, hp]
    dsimp only
    split
    · unfold proceed
      rw [hf]
      exact escape_isLate _ _
    · rfl
  · have hs : s.step (.go .dispatch) = s.dispatch := by
      simp [step, need, dispatchNeed, hp, provides, hg, advance]
    refine ⟨by simp [joins, hp], ?_⟩
    rw [hs, dispatch, hp]
    unfold proceed
    dsimp only
    rw [hf]
    exact escape_isLate _ _

/-- The moves of a run that begins with this system, and what is sent in it. -/
structure SendLog (s : System) (moves : List Move) : Prop where
  /-- Nothing is sent before the dispatch thread, having connected, takes the lock. -/
  before : s.joining moves = none → passed (s.run moves).endpoint.history = []
  /-- Nothing is ever sent if connecting fails. -/
  raised : ∀ f, ((s.run moves).phase = .begun ∧
        (s.run moves).endpoint.connectStart.1 = .error f ∨
      (s.run moves).phase = .linking ∧ (s.run moves).gateOpen = true ∧
        (s.run moves).endpoint.connectEnd.1 = .error f) → ∀ more : List Move,
    passed (s.run (moves ++ .go .dispatch :: more)).endpoint.history = []
  /-- Nothing is ever sent if the driver was shut down before it could join. -/
  late : ∀ x, s.joining moves = some x → x.driver.state ≠ .started → ∀ more : List Move,
    passed (s.run (moves ++ more)).endpoint.history = []
  /-- The registration is sent, and then what is accepted, up to the first failure. -/
  log : ∀ x, s.joining moves = some x → x.driver.state = .started →
    ∃ replyTo, x.endpoint.surroundings.transport.address = .ok replyTo ∧
      Follows (passed (s.run moves).endpoint.history)
        (x.driver.registration replyTo :: accepted (s.run moves).endpoint.history)
  /-- What is accepted in the next move is what the operations of that move give. -/
  accepts : ∀ m, ∃ new, (s.run moves).Yields m new ∧
    accepted ((s.run moves).step m).endpoint.history =
      accepted (s.run moves).endpoint.history ++ new
  /-- A command is told that it runs, and a stop that it stopped, if the driver accepts it. -/
  answers : (s.run moves).endpoint.Answers

theorem run_sendLog {s : System} (h : s.Begins)
    (ht : s.endpoint.surroundings.transport.Announces) (moves : List Move) :
    s.SendLog moves := by
  have hlog := fun moves => run_log h.sound h.recorded (h.unjoined ht) moves
  refine ⟨fun hj => ?_, fun f hf more => ?_, fun x hj hx more => ?_, fun x hj hx => ?_,
    step_accepts (run_sound h.sound moves), Endpoint.answers _⟩
  · have := hlog moves
    rw [hj] at this
    exact this.passed
  · obtain ⟨hnj, hlate⟩ := raised_isLate hf
    have hsound := run_sound h.sound moves
    have hnone : s.joining moves = none := by
      by_contra hj
      obtain ⟨x, hx⟩ := Option.ne_none_iff_exists'.mp hj
      have hl := joining_isLate h.sound hx
      rcases hf with ⟨hp, -⟩ | ⟨hp, -⟩ <;> rw [hp] at hl <;> cases hl
    have := hlog (moves ++ .go .dispatch :: more)
    rw [joining_append, hnone] at this
    dsimp only at this
    rw [joining, hnj, if_neg (by simp), joining_of_late (step_sound hsound _) hlate] at this
    exact this.passed
  · have := hlog (moves ++ more)
    rw [joining_append, hj] at this
    dsimp only at this
    rwa [if_neg hx] at this
  · have := hlog moves
    rw [hj] at this
    dsimp only at this
    rw [if_pos hx] at this
    obtain ⟨replyTo, ha, hjoined⟩ := this
    exact ⟨replyTo, ha, hjoined.sending.follows⟩

/-- A scheduler whose second send fails. -/
def reviving : System := sample [] [] [none, some (.raised "OSError" none)]

/-- The scheduler revives offers before it is connected, and again once that failed. -/
def revivingMoves : List Move :=
  [.call .start, .go (.caller 0), .call (.order .reviveOffers), .go (.caller 1), .go .dispatch,
    .go .dispatch, .go .dispatch, .call (.order .reviveOffers), .go (.caller 2)]

theorem sample_sendLog : reviving.Begins ∧ reviving.endpoint.surroundings.transport.Announces ∧
    passed (reviving.run revivingMoves).endpoint.history =
      [(.registerFramework [102] "a", true), (.reviveOffers [], false)] ∧
    accepted (reviving.run revivingMoves).endpoint.history =
      [.reviveOffers [], .reviveOffers []] ∧
    reviving.SendLog revivingMoves :=
  ⟨sample_begins _ _ _, ⟨_, rfl⟩, rfl, rfl,
    run_sendLog (sample_begins _ _ _) ⟨_, rfl⟩ revivingMoves⟩

end System

end ClusterLink
