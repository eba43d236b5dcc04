/-
# Drivers with nothing to send

A driver may have nothing to send (`Endpoint.Blank`): no message waits, no
send failed, no update is to be acknowledged, and nothing is due on stopping.
`Endpoint.Silent` says that an endpoint goes on as the one that it is: with
its settings and its role, with nothing to send if that was so, and with no
failure that left its loop. It composes, so each region and each piece of
the dispatch thread's work is composed of its parts.

Everything but a command lets such a driver be (`Endpoint.region_silent`),
and over a transport that never fails no piece of work fails: connecting,
joining the cluster and the periodic work all succeed
(`Endpoint.Succeeds`), the periodic work if it is known how old an update has
to be that is sent again.

Key definitions: `Endpoint.Blank`, `Endpoint.Silent`, `Endpoint.Succeeds`.
Key theorems: `Endpoint.region_silent`, `Endpoint.connectStart_succeeds`,
`Endpoint.connectEnd_succeeds`, `Endpoint.enter_succeeds`,
`Endpoint.tick_succeeds`, `Endpoint.leave_silent`.
-/
import ClusterLink.Proofs.Blame
import ClusterLink.Proofs.Bookkeeping
import ClusterLink.Proofs.Callers
import ClusterLink.Proofs.Delivery
import ClusterLink.Proofs.Health
import ClusterLink.Proofs.Malformed

namespace ClusterLink

namespace Endpoint

variable {e e' e'' : Endpoint}

/-! ### Nothing to send -/

/-- There is nothing to send: no message waits, no send failed, no update is to be acknowledged, and
nothing is due on stopping. -/
structure Blank (e : Endpoint) : Prop where
  backlog : e.driver.backlog = []
  pendingError : e.driver.pendingError = none
  inflight : e.driver.inflight = []
  farewell : ∀ failover, e.driver.farewell failover = none

/-- The driver goes on as the one that it is, with nothing to send, and no failure leaves its
loop. -/
structure Silent (e e' : Endpoint) : Prop where
  settings : e'.driver.settings = e.driver.settings
  role : e'.driver.role = e.driver.role
  blank : e.Blank → e'.Blank
  history : ∃ new : List Event, e'.history = new ++ e.history ∧ ∀ f, .escaped f ∉ new

namespace Silent

theorem refl (e : Endpoint) : Silent e e := ⟨rfl, rfl, id, [], rfl, by simp⟩

theorem suffix (h : Silent e e') : e.history <:+ e'.history := by
  obtain ⟨new, hh, -⟩ := h.history
  rw [hh]
  exact List.suffix_append _ _

theorem escaped (h : Silent e e') {f : Failure} (hf : .escaped f ∈ e'.history) :
    .escaped f ∈ e.history := by
  obtain ⟨new, hh, hn⟩ := h.history
  rw [hh] at hf
  exact (List.mem_append.mp hf).resolve_left (hn f)

theorem trans (h : Silent e e') (h' : Silent e' e'') : Silent e e'' := by
  obtain ⟨new, hh, hn⟩ := h.history
  obtain ⟨new', hh', hn'⟩ := h'.history
  refine ⟨h'.settings.trans h.settings, h'.role.trans h.role, h'.blank ∘ h.blank, new' ++ new, ?_,
    fun f hf => ?_⟩
  · rw [hh', hh, List.append_assoc]
  · exact (List.mem_append.mp hf).elim (hn' f) (hn f)

/-- The driver is altered and nothing happens. -/
theorem unrecorded (hs : e'.driver.settings = e.driver.settings)
    (hr : e'.driver.role = e.driver.role) (hb : e.Blank → e'.Blank)
    (hh : e'.history = e.history) : Silent e e' :=
  ⟨hs, hr, hb, [], hh, by simp⟩

/-- Something happens to a driver that stays as it is. -/
theorem happen (new : List Event) (hd : e'.driver = e.driver) (hh : e'.history = new ++ e.history)
    (hn : ∀ f, .escaped f ∉ new) : Silent e e' := by
  refine ⟨by rw [hd], by rw [hd], fun h => ?_, new, hh, hn⟩
  constructor <;> rw [hd]
  · exact h.backlog
  · exact h.pendingError
  · exact h.inflight
  · exact h.farewell

theorem record {v : Event} (hv : ∀ f, v ≠ .escaped f) : Silent e (e.record v) :=
  happen [v] rfl rfl fun f hf => hv f (List.mem_singleton.mp hf).symm

theorem note (e : Endpoint) (n : Note) : Silent e (e.note n) := record fun _ => Event.noConfusion

/-- Nothing has to be sent because of the state that the driver is in. -/
theorem become (e : Endpoint) (s : Lifecycle) : Silent e (e.become s) :=
  ⟨rfl, rfl, fun h => ⟨h.backlog, h.pendingError, h.inflight, h.farewell⟩, [.became s], rfl,
    by simp⟩

theorem launch (e : Endpoint) : Silent e e.launch :=
  ⟨rfl, rfl, fun h => ⟨h.backlog, h.pendingError, h.inflight, h.farewell⟩, [.became .started], rfl,
    by simp⟩

theorem release (e : Endpoint) : Silent e e.release :=
  ⟨rfl, rfl, fun h => ⟨rfl, h.pendingError, h.inflight, h.farewell⟩, [.became .destroyed], rfl,
    by simp⟩

end Silent

/-- The messages that wait are dropped. -/
def emptied (e : Endpoint) : Endpoint := { e with driver.backlog := [] }

theorem Silent.emptied (e : Endpoint) : Silent e e.emptied :=
  .unrecorded rfl rfl (fun h => ⟨rfl, h.pendingError, h.inflight, h.farewell⟩) rfl

theorem useTransport_silent {α : Type} (e : Endpoint)
    (f : Transport → Except Failure α × Transport) : Silent e (e.useTransport f).2 := by
  obtain ⟨cs, hcs⟩ := useTransport_history e f
  exact .happen _ rfl hcs fun f hf => by simp at hf

/-! ### Regions -/

/-- Everything but a command lets a driver with nothing to send be. -/
theorem region_silent (hb : e.Blank) (inside : Bool) {r : Region} (hr : ∀ c, r ≠ .give c) :
    Silent e (e.region inside r).2 ∧
      (e.region inside r).2.surroundings.transport = e.surroundings.transport := by
  cases r with
  | give c => exact absurd rfl (hr c)
  | start thenJoin =>
    rw [region_start]
    unfold start
    split
    · exact ⟨.refl e, rfl⟩
    split
    · exact ⟨.note e _, rfl⟩
    dsimp only
    split
    · exact ⟨.happen [] rfl rfl (by simp), rfl⟩
    · have hmade : Silent e
          { e with surroundings.making := e.surroundings.making.tail } :=
        .happen [] rfl rfl (by simp)
      exact ⟨hmade.trans ((Silent.record fun _ => Event.noConfusion).trans
        ((Silent.launch _).trans (.note _ _))), rfl⟩
  | stop failover =>
    simp only [region, reported, stop, hb.farewell]
    split
    · exact ⟨.refl e, rfl⟩
    split
    · exact ⟨.note e _, rfl⟩
    · exact ⟨(Silent.become e _).trans (.note _ _), rfl⟩
  | abort =>
    simp only [region, reported, abort]
    split
    · exact ⟨.refl e, rfl⟩
    split
    · exact ⟨.note e _, rfl⟩
    · exact ⟨(Silent.become e _).trans (.note _ _), rfl⟩
  | join => rw [region_join]; exact ⟨.refl e, rfl⟩
  | condemn =>
    simp only [region, condemn]
    split
    · exact ⟨.refl e, rfl⟩
    split
    · exact ⟨.refl e, rfl⟩
    split
    · exact ⟨(Silent.note e _).trans (.become _ _), rfl⟩
    · exact ⟨.refl e, rfl⟩
  | destroy =>
    simp only [region, destroy]
    split
    · exact ⟨.refl e, rfl⟩
    · exact ⟨(Silent.release e).trans (.note _ _), rfl⟩
  | turnDown op =>
    simp only [region]
    split
    · exact ⟨.refl e, rfl⟩
    · exact ⟨.note e _, rfl⟩
  | state => exact ⟨.refl e, rfl⟩
  | status => exact ⟨.refl e, rfl⟩

/-! ### The dispatch thread -/

/-- A piece of work succeeds: the driver stays as silent as it was, and its transport is open. -/
structure Succeeds {α : Type} (e : Endpoint) (r : Except Failure α × Endpoint) (a : α) : Prop where
  result : r.1 = .ok a
  silent : Silent e r.2
  active : e.driver.state.isActive = true → r.2.driver.state.isActive = true
  aborted : r.2.driver.state = .aborted → e.driver.state = .aborted
  opened : r.2.surroundings.transport.Open
  kind : r.2.surroundings.transport.overSockets = e.surroundings.transport.overSockets

theorem useTransport_succeeds {α : Type} {f : Transport → Except Failure α × Transport} {a : α}
    (h : e.surroundings.transport.Succeeds (f e.surroundings.transport) a) :
    e.Succeeds (e.useTransport f) a :=
  ⟨h.1, e.useTransport_silent f, id, id, h.2.1, h.2.2⟩

/-- Before a piece of work that succeeds, something may have happened. -/
theorem Succeeds.after {α : Type} {r : Except Failure α × Endpoint} {a : α}
    (h : Silent e e') (hs : e'.driver.state = e.driver.state)
    (ht : e'.surroundings.transport = e.surroundings.transport) (hr : e'.Succeeds r a) :
    e.Succeeds r a :=
  ⟨hr.result, h.trans hr.silent, fun ha => hr.active (by rwa [hs]),
    fun ha => hs.symm.trans (hr.aborted ha), hr.opened, hr.kind.trans (by rw [ht])⟩

theorem connectStart_succeeds (h : e.surroundings.transport.Healthy) :
    e.Succeeds e.connectStart () := by
  have hc : Silent e (e.record .connecting) := .record fun _ => Event.noConfusion
  exact .after hc rfl rfl (useTransport_succeeds (e := e.record .connecting) h.connectStart)

theorem connectEnd_succeeds (h : e.surroundings.transport.Open) : e.Succeeds e.connectEnd () := by
  have hx := useTransport_succeeds (e := e) (f := Transport.connectEnd) h.connectEnd
  obtain ⟨r, e', hr⟩ : ∃ r e', e.useTransport Transport.connectEnd = (r, e') := ⟨_, _, rfl⟩
  rw [hr] at hx
  obtain rfl : r = .ok () := hx.result
  unfold connectEnd
  rw [hr]
  have hc : Silent e' (e'.record .connected) := .record fun _ => Event.noConfusion
  dsimp only
  split
  · exact ⟨rfl, hx.silent.trans hc, hx.active, hx.aborted, hx.opened, hx.kind⟩
  · exact ⟨rfl, hx.silent.trans (hc.trans (.note _ _)), hx.active, hx.aborted, hx.opened, hx.kind⟩

/-- A message that is given to an open transport goes out. -/
theorem transmit_silent (h : e.surroundings.transport.Open) (m : Message) :
    Silent e (e.transmit m) ∧ (e.transmit m).surroundings.transport.Open ∧
      (e.transmit m).surroundings.transport.overSockets =
        e.surroundings.transport.overSockets := by
  have hx := useTransport_succeeds (e := e) (f := (·.send m)) (h.send m)
  obtain ⟨r, e', hr⟩ : ∃ r e', e.useTransport (·.send m) = (r, e') := ⟨_, _, rfl⟩
  rw [hr] at hx
  obtain rfl : r = .ok () := hx.result
  unfold transmit
  rw [hr]
  have hlag : Silent e' e'.lag := .happen [] rfl rfl (by simp)
  exact ⟨hx.silent.trans (hlag.trans (.record fun _ => Event.noConfusion)), hx.opened, hx.kind⟩

theorem push_silent (h : e.surroundings.transport.Open) (hc : e.driver.connected = true)
    (hp : e.driver.pendingError = none) (m : Message) :
    Silent e (e.push m) ∧ (e.push m).surroundings.transport.Open ∧
      (e.push m).surroundings.transport.overSockets = e.surroundings.transport.overSockets := by
  have hm : e.push m = (e.note (.sending m)).transmit m := by simp [push, hc, hp]
  obtain ⟨hs, ho, hk⟩ := transmit_silent (e := e.note (.sending m)) h m
  rw [hm]
  exact ⟨(Silent.note e _).trans hs, ho, hk⟩

/-- A driver that was started and has nothing to send joins the cluster. -/
theorem enter_started_succeeds (hb : e.Blank) (hs : e.driver.state = .started)
    (h : e.surroundings.transport.Open) : e.Succeeds e.enter () := by
  obtain ⟨replyTo, hr⟩ := h.address
  let x : Endpoint := { e with driver.connected := true }
  have hx : Silent e x :=
    .unrecorded rfl rfl (fun h => ⟨h.backlog, h.pendingError, h.inflight, h.farewell⟩) rfl
  let p : Endpoint := x.push (x.driver.registration replyTo)
  obtain ⟨hpush, ho, hk⟩ : Silent x p ∧ p.surroundings.transport.Open ∧
      p.surroundings.transport.overSockets = e.surroundings.transport.overSockets :=
    push_silent (e := x) h rfl hb.pendingError (x.driver.registration replyTo)
  have hp : Silent e p := hx.trans hpush
  -- nothing waited before the registration went out, so nothing is flushed after it
  have hwait : p.driver.backlog = [] := (hp.blank hb).backlog
  have he : e.enter =
      (.ok (), (p.emptied.become .running).note (.connected p.emptied.driver.remote)) := by
    unfold enter
    rw [if_neg (not_not_intro hs)]
    dsimp only
    rw [hr]
    dsimp only
    rw [show ({ e with driver.connected := true } : Endpoint) = x from rfl, hwait]
    rfl
  rw [he]
  have hjoined : Silent e (p.emptied.become .running) :=
    hp.trans ((Silent.emptied p).trans (.become _ _))
  exact ⟨rfl, hjoined.trans (.note _ _), fun _ => rfl, fun ha => Lifecycle.noConfusion ha, ho, hk⟩

/-- A driver that was shut down before it is connected does not join. -/
theorem enter_early_succeeds (hs : e.driver.state ≠ .started)
    (h : e.surroundings.transport.Open) : e.Succeeds e.enter () := by
  have he : e.enter = (.ok (), (e.note (.leftEarly e.driver.backlog.length)).emptied) := by
    unfold enter
    rw [if_pos hs]
    rfl
  rw [he]
  exact ⟨rfl, (Silent.note e _).trans (.emptied _), id, id, h, rfl⟩

theorem enter_succeeds (hb : e.Blank) (h : e.surroundings.transport.Open) :
    e.Succeeds e.enter () := by
  by_cases hs : e.driver.state = .started
  · exact enter_started_succeeds hb hs h
  · exact enter_early_succeeds hs h

/-- With no update in flight there is nothing to send again, if it is known how old an update that
is has to be. -/
theorem tick_succeeds (hb : e.Blank) (h : e.surroundings.transport.Open)
    (hage : e.driver.role = .executor → ∃ age, e.resendAge = .ok age) : e.Succeeds e.tick () := by
  unfold tick
  cases hr : e.driver.role with
  | scheduler => exact ⟨rfl, .refl e, id, id, h, rfl⟩
  | executor =>
    obtain ⟨age, hage⟩ := hage hr
    simp only [hage, resend, hb.inflight, resendFrom]
    have hx : Silent e { e with driver.inflight := [] } :=
      .unrecorded rfl rfl (fun h => ⟨h.backlog, h.pendingError, rfl, h.farewell⟩) rfl
    exact ⟨rfl, hx, id, id, h, rfl⟩

theorem closeTransport_silent (e : Endpoint) : Silent e e.closeTransport := by
  have hc := (useTransport_silent e Transport.close).trans
    (.record (v := .closed) fun _ => Event.noConfusion)
  unfold closeTransport
  dsimp only
  split
  · exact hc
  · exact hc.trans (.note _ _)

theorem closeTransport_overSockets (e : Endpoint) :
    e.closeTransport.surroundings.transport.overSockets =
      e.surroundings.transport.overSockets := by
  have ht : e.closeTransport.surroundings.transport = e.surroundings.transport.close.2 := by
    unfold closeTransport
    dsimp only
    split <;> rfl
  rw [ht]
  cases e.surroundings.transport <;> rfl

/-- A driver that is not active leaves the cluster in the state that it is in. -/
theorem leave_silent (h : e.driver.state.isActive = false) :
    Silent e e.leave ∧ e.leave.driver.state = e.driver.state ∧
      e.leave.surroundings.transport.overSockets = e.surroundings.transport.overSockets := by
  have hb : e.breakOff = e := by simp [breakOff, h]
  let x : Endpoint := { e with
    driver.connected := false
    driver.backlog := []
    driver.finalStatus := some e.driver.state.status }
  have hx : Silent e x :=
    .unrecorded rfl rfl (fun h => ⟨rfl, h.pendingError, h.inflight, h.farewell⟩) rfl
  have hl : e.leave = x.closeTransport := by
    unfold leave
    rw [hb]
  rw [hl]
  exact ⟨hx.trans x.closeTransport_silent, by rw [closeTransport_driver],
    x.closeTransport_overSockets⟩

theorem signal_silent (e : Endpoint) : Silent e e.signal :=
  ⟨rfl, rfl, fun h => ⟨h.backlog, h.pendingError, h.inflight, h.farewell⟩, [_], rfl, by simp⟩

end Endpoint

end ClusterLink
