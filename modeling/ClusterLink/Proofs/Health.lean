/-
# Transports that never fail

A transport is healthy if nothing that it is told to do fails and nothing
came in yet (`Transport.Healthy`): over sockets no call of the library
fails, and a scripted one has only successes laid down. It connects, and
then it is open (`Transport.Open`): it has an address, it sends, and it goes
on so. A receive that finds nothing returns nothing.

What can still fail is the receive itself, before it waits: over sockets its
time span has to be had in milliseconds (`Transport.Open.refusal`).

Key definitions: `Transport.Healthy`, `Transport.Open`.
Key theorems: `Transport.Healthy.connectStart`, `Transport.Open.receive`,
`Transport.Open.refusal`.
-/
import ClusterLink.Proofs.Intake
import ClusterLink.Proofs.Overflow

namespace ClusterLink

/-- Whether an arrival brings nothing: the time of a receive is up. -/
def Arrival.isEmpty : Arrival → Bool
  | messages ms => ms.isEmpty
  | frames fs => fs.isEmpty
  | failure _ => false

theorem Arrival.isEmpty_cases {a : Arrival} (h : a.isEmpty = true) :
    a = messages [] ∨ a = frames [] := by
  cases a with
  | messages ms => exact Or.inl (congrArg messages (List.isEmpty_iff.mp h))
  | frames fs => exact Or.inr (congrArg frames (List.isEmpty_iff.mp h))
  | failure f => cases h

namespace Sockets

variable {t : Sockets}

/-- No call of the library fails, and nothing came in that was not fetched. -/
structure Healthy (t : Sockets) : Prop where
  faults : ∀ before c, t.library.faults before c = none
  forced : t.library.forced = none
  queue : t.library.queue = []

/-- Healthy sockets that are connected. -/
structure Open (t : Sockets) : Prop extends Healthy t where
  pull : t.pull.isSome = true
  watched : t.watched ≠ []
  push : t.push.isSome = true
  known : t.known.isSome = true

theorem Open.ready (h : t.Open) : t.Ready :=
  ⟨⟨⟨fun _ _ => h.faults _ _, fun _ _ => h.faults _ _, h.forced⟩, h.queue⟩, h.pull, h.watched⟩

/-- Healthy sockets connect. -/
theorem Healthy.connectStart (h : t.Healthy) :
    ∃ t', Sockets.connectStart.run t = (.ok (), t') ∧ t'.Open := by
  obtain ⟨library, remote, host, lingerMs, sendTimeoutMs, context, push, pull, watched, known⟩ := t
  obtain ⟨port, faults, queue, arriving, forced, made, calls⟩ := library
  obtain rfl : faults = .never := funext fun before => funext fun c => h.faults before c
  exact ⟨_, rfl, ⟨fun _ _ => rfl, h.forced, h.queue⟩, rfl, List.cons_ne_nil _ _, rfl, rfl⟩

theorem Open.connectEnd (h : t.Open) : Sockets.connectEnd.run t = (.ok (), t) := by
  have ho : t.library.outcome = .ok () := by
    unfold Library.outcome
    cases t.library.calls with
    | nil => rfl
    | cons c before => simp only [h.faults]
  show (t.library.outcome, t) = _
  rw [ho]

/-- Open sockets send, and stay open. -/
theorem Open.send (h : t.Open) (frame : Bytes) :
    ∃ t', (Sockets.send frame).run t = (.ok (), t') ∧ t'.Open := by
  obtain ⟨push, hp⟩ := Option.isSome_iff_exists.mp h.push
  have hrun : (Sockets.send frame).run t = (call (.send push frame)).run t := by
    unfold Sockets.send
    rw [run_get_bind]
    simp only [hp]
  rw [hrun]
  exact ⟨_, call_of_none (h.faults _ _), ⟨h.faults, h.forced, h.queue⟩, h.pull, h.watched, h.push,
    h.known⟩

/-- If nothing arrives on open sockets, nothing is received. -/
theorem Open.receive (h : t.Open) {timeout : Double} {n : Int}
    (hn : (Seconds.real timeout).millis = .ok n) :
    ∃ t', (Sockets.receive (some (.real timeout))).run
      { t with library := { t.library with arriving := [[]] } } = (.ok [], t') ∧ t'.Open := by
  obtain ⟨hres, hfetched⟩ := receive_reads h.ready hn []
  obtain ⟨calls, hc⟩ := hfetched [] hres
  exact ⟨_, Prod.ext hres hc, ⟨h.faults, h.forced, rfl⟩, h.pull, h.watched, h.push, h.known⟩

end Sockets

namespace Transport

variable {t : Transport}

/-- Whether the transport works over sockets. -/
def overSockets : Transport → Bool
  | scripted _ => false
  | sockets _ => true

/-- Nothing that the transport is told to do fails. How it is closed is left open. -/
def Healthy : Transport → Prop
  | scripted s => s.connecting = none ∧ (∃ a, s.address = .ok a) ∧ ∀ o ∈ s.sending, o = none
  | sockets s => s.Healthy

/-- The transport is healthy, and it is connected if it works over sockets. -/
def Open : Transport → Prop
  | scripted s => (scripted s).Healthy
  | sockets s => s.Open

/-- A step of the transport succeeds, and then it is open. -/
def Succeeds {α : Type} (t : Transport) (r : Except Failure α × Transport) (a : α) : Prop :=
  r.1 = .ok a ∧ r.2.Open ∧ r.2.overSockets = t.overSockets

theorem succeeds_through {α : Type} {s : Sockets} {u : Sockets.Use α} {a : α}
    (h : ∃ t', u.run s = (.ok a, t') ∧ t'.Open) : (sockets s).Succeeds (through s u) a := by
  obtain ⟨t', hr, ho⟩ := h
  unfold Succeeds through
  rw [hr]
  exact ⟨rfl, ho, rfl⟩

theorem Healthy.connectStart (h : t.Healthy) : t.Succeeds t.connectStart () := by
  cases t with
  | scripted s => exact ⟨rfl, h, rfl⟩
  | sockets s => exact succeeds_through (Sockets.Healthy.connectStart h)

theorem Open.connectEnd (h : t.Open) : t.Succeeds t.connectEnd () := by
  cases t with
  | scripted s => exact ⟨congrArg outcome h.1, h, rfl⟩
  | sockets s => exact succeeds_through ⟨s, Sockets.Open.connectEnd h, h⟩

theorem Open.address (h : t.Open) : ∃ a, t.address = .ok a := by
  cases t with
  | scripted s => exact h.2.1
  | sockets s => exact reachable_sockets.mpr h.known

theorem Open.send (h : t.Open) (m : Message) : t.Succeeds (t.send m) () := by
  cases t with
  | scripted s =>
    obtain ⟨hc, ha, hs⟩ := h
    have hfirst : s.sending.headD none = none := by
      cases hl : s.sending with
      | nil => rfl
      | cons o os => exact hs o (by rw [hl]; exact List.mem_cons_self)
    exact ⟨congrArg outcome hfirst, ⟨hc, ha, fun o ho => hs o (List.mem_of_mem_tail ho)⟩, rfl⟩
  | sockets s => exact succeeds_through (Sockets.Open.send h (Wire.encode m))

/-- A receive that waits, and finds nothing, returns nothing. -/
theorem Open.receive (h : t.Open) {timeout : Double} (hr : t.refusal timeout = none) {a : Arrival}
    (ha : a.isEmpty = true) : t.Succeeds (t.receive timeout a) [] := by
  cases t with
  | scripted s => rcases Arrival.isEmpty_cases ha with rfl | rfl <;> exact ⟨rfl, h, rfl⟩
  | sockets s =>
    obtain ⟨pull, hp⟩ := Option.isSome_iff_exists.mp (Sockets.Open.pull h)
    obtain ⟨n, hn⟩ : ∃ n, (Seconds.real timeout).millis = .ok n := by
      simp only [refusal, hp] at hr
      split at hr
      · cases hr
      · cases hr
      · exact ⟨_, ‹_›⟩
    have hx := succeeds_through (Sockets.Open.receive h hn)
    rcases Arrival.isEmpty_cases ha with rfl | rfl <;> exact hx

/-- A receive fails before it waits only over sockets, if its time span overflows. -/
theorem Open.refusal (h : t.Open) {timeout : Double} (hx : timeout ≠ .nan) :
    (t.overSockets = true ∧ timeout.Overflows 1000 ∧
      t.refusal timeout = some .infiniteSpan) ∨
    (¬ (t.overSockets = true ∧ timeout.Overflows 1000) ∧ t.refusal timeout = none) := by
  cases t with
  | scripted s => exact Or.inr ⟨fun hs => Bool.noConfusion hs.1, rfl⟩
  | sockets s =>
    obtain ⟨pull, hp⟩ := Option.isSome_iff_exists.mp (Sockets.Open.pull h)
    rcases Seconds.millis_cases hx with ⟨ho, hm⟩ | ⟨ho, n, hm⟩
    · exact Or.inl ⟨rfl, ho, by simp only [Transport.refusal, hp, hm]⟩
    · exact Or.inr ⟨fun hs => ho hs.2, by simp only [Transport.refusal, hp, hm]⟩

end Transport

end ClusterLink
