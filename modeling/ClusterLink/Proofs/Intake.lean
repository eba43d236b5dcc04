/-
# What sockets take in

A receive over sockets polls, and as long as a poll finds a frame it fetches
the frame and reads it. On sockets that are connected, and of which every
frame that arrived was fetched (`Sockets.Ready`), it comes to the messages of
all frames of an arrival, or to the failure of the first frame that cannot be
read (`Sockets.Reads`); in the first case every frame was fetched again.

Connecting makes sockets ready, if it succeeds. What a use of sockets makes
of the state that it starts from is composed by `Sockets.yields_bind`; most
uses only make calls, which readiness does not depend on (`Sockets.Blind`).

Key definitions: `Sockets.Ready`, `Sockets.Reads`, `Sockets.Yields`,
`Arrival.read`, `Transport.inlet`.
Key theorems: `Sockets.receiveFrame_eq`, `Sockets.drain_reads`, `Sockets.receive_reads`,
`Sockets.connectStart_ready`, `Transport.Ready.receive`.
-/
import ClusterLink.Proofs.Reach

namespace ClusterLink

theorem Library.letIn_eq (l : Library) : l.letIn =
    { l with queue := l.queue ++ l.arriving.headD [], arriving := l.arriving.tail } := by
  obtain ⟨port, faults, queue, arriving, forced, made, calls⟩ := l
  cases arriving <;> simp [letIn]

namespace Sockets

variable {α β : Type} {t : Sockets}

/-- Polling and fetching do not fail, and no number of events is forced. -/
structure Calm (t : Sockets) : Prop where
  poll : ∀ before millis, t.library.faults before (.poll millis) = none
  fetch : ∀ before x, t.library.faults before (.fetch x) = none
  forced : t.library.forced = none

/-- Every frame that arrived was fetched. -/
structure Clear (t : Sockets) : Prop extends Calm t where
  queue : t.library.queue = []

/-- The sockets are connected, and every frame that arrived was fetched. -/
structure Ready (t : Sockets) : Prop extends Clear t where
  pull : t.pull.isSome = true
  watched : t.watched ≠ []

/-- The sockets with these frames to be fetched and no more to come, after these calls. -/
def holding (t : Sockets) (frames : List Bytes) (calls : List LibraryCall) : Sockets :=
  { t with library := { t.library with queue := frames, arriving := [], calls } }

/-- The sockets with these frames to be fetched and these to come, after these calls. -/
def stocked (t : Sockets) (frames : List Bytes) (later : List (List Bytes))
    (calls : List LibraryCall) : Sockets :=
  { t with library := { t.library with queue := frames, arriving := later, calls } }

theorem run_get_bind (f : Sockets → Use α) (t : Sockets) : (get >>= f).run t = (f t).run t := rfl

theorem run_modify_bind (g : Sockets → Sockets) (f : Unit → Use α) (t : Sockets) :
    ((modify g : Use Unit) >>= f).run t = (f ()).run (g t) := rfl

theorem run_ok_bind {u : Use α} {f : α → Use β} {t t' : Sockets} {a : α}
    (h : u.run t = (.ok a, t')) : (u >>= f).run t = (f a).run t' := by
  rw [run_bind, h]

theorem run_error_bind {u : Use α} {f : α → Use β} {t t' : Sockets} {e : Failure}
    (h : u.run t = (.error e, t')) : (u >>= f).run t = (.error e, t') := by
  rw [run_bind, h]

theorem call_of_none {c : LibraryCall} (h : t.library.faults t.library.calls c = none) :
    (call c).run t = (.ok (), { t with library := t.library.record c }) := by
  have ho : (t.library.record c).outcome = .ok () := by
    simp [Library.outcome, Library.record, h]
  show ((t.library.record c).outcome, { t with library := t.library.record c }) = _
  rw [ho]

/-- A poll lets frames in, and the first frame that there is then is fetched. -/
theorem receiveFrame_eq (hc : t.Calm) (hw : t.watched ≠ []) (pull : Socket)
    (millis : Option Int) : (receiveFrame pull millis).run t =
      match t.library.queue ++ t.library.arriving.headD [] with
      | [] => (.ok none, t.stocked [] t.library.arriving.tail (.poll millis :: t.library.calls))
      | frame :: rest => (.ok (some frame), t.stocked rest t.library.arriving.tail
          (.fetch (t.watched.headD pull) :: .poll millis :: t.library.calls)) := by
  let polled := t.stocked (t.library.queue ++ t.library.arriving.headD []) t.library.arriving.tail
    (.poll millis :: t.library.calls)
  have hin : (t.library.record (.poll millis)).letIn = polled.library := by
    rw [Library.letIn_eq]
    rfl
  have hforced : polled.library.forced = none := hc.forced
  unfold receiveFrame
  rw [run_ok_bind (call_of_none (hc.poll _ _)), run_modify_bind, hin, run_get_bind]
  cases hq : t.library.queue ++ t.library.arriving.headD [] with
  | nil =>
    have hqueue : polled.library.queue = [] := hq
    have hev : polled.library.events t.watched = 0 := by simp [Library.events, hforced, hqueue]
    simp only [hev]
    exact congrArg (fun frames => (Except.ok none, t.stocked frames _ _)) hq
  | cons frame rest =>
    have hqueue : polled.library.queue = frame :: rest := hq
    have hev : polled.library.events t.watched = 1 := by
      simp [Library.events, hforced, hqueue, hw]
    have hfetch := call_of_none (t := polled) (c := .fetch (t.watched.headD pull)) (hc.fetch _ _)
    simp only [hev]
    refine (run_ok_bind hfetch).trans ?_
    rw [run_get_bind]
    simp only [polled, Library.record, stocked, Library.pop, hq]
    rfl

/-- A poll finds nothing, or the first frame is fetched. -/
theorem receiveFrame_run (hc : t.Calm) (hw : t.watched ≠ []) (ha : t.library.arriving.tail = [])
    (pull : Socket) (millis : Option Int) :
    ∃ calls, (receiveFrame pull millis).run t =
      match t.library.queue ++ t.library.arriving.headD [] with
      | [] => (.ok none, t.holding [] calls)
      | frame :: rest => (.ok (some frame), t.holding rest calls) := by
  rw [receiveFrame_eq hc hw, ha]
  cases t.library.queue ++ t.library.arriving.headD [] with
  | nil => exact ⟨_, rfl⟩
  | cons frame rest => exact ⟨_, rfl⟩

/-- A poll finds nothing, or the first frame is fetched and read. -/
theorem receiveOne_run (hc : t.Calm) (hw : t.watched ≠ []) (ha : t.library.arriving.tail = [])
    (pull : Socket) (millis : Option Int) :
    ∃ calls, (receiveOne pull millis).run t =
      match t.library.queue ++ t.library.arriving.headD [] with
      | [] => (.ok none, t.holding [] calls)
      | frame :: rest => ((Wire.decode frame).map some, t.holding rest calls) := by
  obtain ⟨calls, hrun⟩ := receiveFrame_run hc hw ha pull millis
  refine ⟨calls, ?_⟩
  unfold receiveOne
  cases hq : t.library.queue ++ t.library.arriving.headD [] with
  | nil =>
    rw [hq] at hrun
    exact run_ok_bind hrun
  | cons frame rest =>
    rw [hq] at hrun
    rw [run_ok_bind hrun]
    dsimp only
    cases Wire.decode frame <;> rfl

/-- What came of reading these frames: their messages, with every frame fetched, or the failure of
the first one that cannot be read. -/
structure Reads (frames : List Bytes) (t : Sockets) (r : Except Failure (List Message) × Sockets) :
    Prop where
  result : r.1 = frames.mapM Wire.decode
  fetched : ∀ ms, r.1 = .ok ms → ∃ calls, r.2 = t.holding [] calls

variable {frame : Bytes} {frames : List Bytes}

theorem Reads.nil (t : Sockets) (calls : List LibraryCall) :
    Reads [] t (.ok [], t.holding [] calls) := ⟨rfl, fun _ _ => ⟨calls, rfl⟩⟩

theorem Reads.of_holding {calls : List LibraryCall} {fs : List Bytes}
    {r : Except Failure (List Message) × Sockets} (h : Reads frames (t.holding fs calls) r) :
    Reads frames t r := ⟨h.result, h.fetched⟩

theorem Reads.fail {t' : Sockets} {f : Failure} (h : Wire.decode frame = .error f) :
    Reads (frame :: frames) t (.error f, t') := by
  refine ⟨?_, fun ms hms => by cases hms⟩
  rw [List.mapM_cons, h]
  rfl

theorem Reads.cons {t' : Sockets} {u : Use (List Message)} {m : Message}
    (h : Wire.decode frame = .ok m) (hu : Reads frames t (u.run t')) :
    Reads (frame :: frames) t ((u >>= fun ms => pure (m :: ms)).run t') := by
  have hcons : (frame :: frames).mapM Wire.decode = (frames.mapM Wire.decode).map (m :: ·) := by
    rw [List.mapM_cons, h]
    rfl
  have hres := hu.result
  cases hr : u.run t' with
  | mk r t'' =>
    rw [hr] at hres
    cases r with
    | error f =>
      rw [run_error_bind hr]
      refine ⟨?_, fun ms hms => by cases hms⟩
      rw [hcons, ← hres]
      rfl
    | ok ms =>
      rw [run_ok_bind hr]
      refine ⟨?_, fun _ _ => ?_⟩
      · rw [hcons, ← hres]
        rfl
      · have hf := hu.fetched ms (by rw [hr])
        rw [hr] at hf
        exact hf

/-- Frames that are there are read up to the first one that cannot be. -/
theorem drain_reads (hc : t.Calm) (hw : t.watched ≠ []) (pull : Socket) {fuel : Nat}
    (ha : t.library.arriving = []) (hf : t.library.queue.length < fuel) :
    Reads t.library.queue t ((drain pull fuel).run t) := by
  induction fuel generalizing t with
  | zero => omega
  | succ fuel ih =>
    obtain ⟨calls, hrun⟩ := receiveOne_run hc hw (by rw [ha]; rfl) pull (some 0)
    rw [ha, List.headD_nil, List.append_nil] at hrun
    unfold drain
    cases hq : t.library.queue with
    | nil =>
      rw [hq] at hrun
      rw [run_ok_bind hrun]
      exact .nil t calls
    | cons frame frames =>
      rw [hq] at hrun hf
      cases hd : Wire.decode frame with
      | error f =>
        simp only [hd] at hrun
        rw [run_error_bind hrun]
        exact .fail hd
      | ok m =>
        simp only [hd] at hrun
        rw [run_ok_bind hrun]
        have hlen : frames.length < fuel := by
          rw [List.length_cons] at hf
          omega
        have hrest := ih (t := t.holding frames calls) ⟨hc.poll, hc.fetch, hc.forced⟩ hw rfl hlen
        exact .cons hd hrest.of_holding

/-- A receive returns the messages of the frames that came, or fails as the first one does that
cannot be read. -/
theorem receive_reads (h : t.Ready) {timeout : Double} {n : Int}
    (hn : (Seconds.real timeout).millis = .ok n) (frames : List Bytes) :
    Reads frames t ((receive (some (.real timeout))).run
      { t with library := { t.library with arriving := [frames] } }) := by
  let t' : Sockets := { t with library := { t.library with arriving := [frames] } }
  have hm : (ExceptT.mk (pure (millisOf (some (.real timeout)))) : Use (Option Int)).run t' =
      (.ok (some n), t') := by
    simp only [millisOf, hn]
    rfl
  have hq : t'.library.queue ++ t'.library.arriving.headD [] = frames := by
    show t.library.queue ++ frames = frames
    rw [h.queue]
    rfl
  show Reads frames t ((receive (some (.real timeout))).run t')
  unfold receive
  rw [run_get_bind]
  split
  · rename_i hp
    exact absurd h.pull (by rw [show t.pull = none from hp]; exact Bool.noConfusion)
  rename_i pull _
  rw [run_ok_bind hm]
  obtain ⟨calls, hrun⟩ := receiveOne_run (t := t') ⟨h.poll, h.fetch, h.forced⟩ h.watched rfl pull
    (some n)
  rw [hq] at hrun
  cases frames with
  | nil =>
    rw [run_ok_bind hrun]
    exact .nil t calls
  | cons frame frames =>
    cases hd : Wire.decode frame with
    | error f =>
      simp only [hd] at hrun
      rw [run_error_bind hrun]
      exact .fail hd
    | ok m =>
      simp only [hd] at hrun
      rw [run_ok_bind hrun]
      have hlen : frames.length < (t'.holding frames calls).library.pending + 1 := by
        simp [Library.pending, holding]
      have hrest := drain_reads (t := t'.holding frames calls) ⟨h.poll, h.fetch, h.forced⟩
        h.watched pull rfl hlen
      exact .cons hd (.of_holding hrest)

/-! ### Connecting -/

/-- From sockets of one kind, a use that succeeds leads to sockets of another. -/
def Yields (P : Sockets → Prop) (u : Use α) (Q : α → Sockets → Prop) : Prop :=
  ∀ t, P t → ∀ a t', u.run t = (.ok a, t') → Q a t'

variable {P Q : Sockets → Prop} {R : β → Sockets → Prop}

theorem yields_bind {u : Use α} {f : α → Use β} (hu : Yields P u fun _ => Q)
    (hf : ∀ a, Yields Q (f a) R) : Yields P (u >>= f) R := fun t ht b t' hb => by
  cases hr : u.run t with
  | mk r t'' =>
    cases r with
    | error f =>
      rw [run_error_bind hr] at hb
      cases hb
    | ok a =>
      rw [run_ok_bind hr] at hb
      exact hf a t'' (hu t ht a t'' hr) b t' hb

theorem yields_get {f : Sockets → Use β} (hf : ∀ t, Yields P (f t) R) :
    Yields P (get >>= f) R := fun t ht => hf t t ht

theorem yields_modify {g : Sockets → Sockets} (hg : ∀ t, P t → Q (g t)) :
    Yields P (modify g : Use Unit) fun _ => Q := fun t ht a t' h => by
  obtain ⟨-, rfl⟩ := Prod.mk.inj h
  exact hg t ht

/-- What sockets of a kind are does not depend on which calls were made and how many things. -/
def Blind (P : Sockets → Prop) : Prop :=
  ∀ t calls made, P t → P { t with library := { t.library with calls, made } }

theorem yields_record (hP : Blind P) (c : LibraryCall) : Yields P (record c) fun _ => P :=
  yields_modify fun t ht => hP t _ t.library.made ht

theorem yields_call (hP : Blind P) (c : LibraryCall) : Yields P (call c) fun _ => P := by
  refine yields_bind (yields_record hP c) fun _ t ht a t' h => ?_
  obtain ⟨-, rfl⟩ := Prod.mk.inj h
  exact ht

theorem yields_next (hP : Blind P) : Yields P next fun _ => P := fun t ht a t' h => by
  obtain ⟨-, rfl⟩ := Prod.mk.inj h
  exact hP t t.library.calls _ ht

theorem yields_openSocket (hP : Blind P) (d : Direction) : Yields P (openSocket d) fun _ => P :=
  yields_bind (yields_next hP) fun _ => yields_bind (yields_call hP _) fun _ t ht a t' h => by
    obtain ⟨-, rfl⟩ := Prod.mk.inj h
    exact ht

theorem Clear.of_library {t t' : Sockets} (h : t.Clear) (hl : t'.library = t.library) :
    t'.Clear := by
  refine ⟨⟨?_, ?_, ?_⟩, ?_⟩ <;> rw [hl]
  · exact h.poll
  · exact h.fetch
  · exact h.forced
  · exact h.queue

theorem blind_clear : Blind Clear := fun _ _ _ h => ⟨⟨h.poll, h.fetch, h.forced⟩, h.queue⟩

theorem blind_ready : Blind Ready := fun t calls made h =>
  ⟨blind_clear t calls made h.toClear, h.pull, h.watched⟩

/-- The sockets apart from the calls that they made. -/
def inlet (t : Sockets) : Sockets := { t with library := { t.library with calls := [] } }

theorem Blind.of_inlet (hP : Blind P) {t t' : Sockets} (h : P t) (hi : t'.inlet = t.inlet) :
    P t' := by
  have h1 : P t'.inlet := by
    rw [hi]
    exact hP t [] t.library.made h
  exact hP t'.inlet t'.library.calls t'.library.made h1

/-- Sockets that connect have a socket to pull from, and watch one. What they are otherwise stays,
as far as it depends on their library alone. -/
theorem connectStart_yields (hP : Blind P)
    (hl : ∀ {t t' : Sockets}, P t → t'.library = t.library → P t') :
    Yields P connectStart fun _ t => P t ∧ t.pull.isSome = true ∧ t.watched ≠ [] := by
  let Pulling : Sockets → Prop := fun t => P t ∧ t.pull.isSome = true
  let Watching : Sockets → Prop := fun t => P t ∧ t.pull.isSome = true ∧ t.watched ≠ []
  have hpull : Blind Pulling := fun t calls made h => ⟨hP t calls made h.1, h.2⟩
  have hwatch : Blind Watching := fun t calls made h => ⟨hP t calls made h.1, h.2⟩
  refine yields_bind (yields_next hP) fun _ => yields_bind (yields_call hP _)
    fun _ => yields_bind (yields_modify fun _ h => hl h rfl) fun _ =>
    yields_bind (yields_openSocket hP _) fun pull => ?_
  -- the socket that is bound and watched is the one to pull from
  refine yields_bind (Q := Pulling) (yields_modify fun _ h => ⟨hl h rfl, rfl⟩) fun _ =>
    yields_bind (yields_call hpull _) fun _ => yields_bind (yields_call hpull _) fun _ =>
    yields_bind (yields_modify fun _ h => ⟨hl h.1 rfl, h.2⟩) fun _ =>
    yields_bind (yields_call hpull _) fun _ => ?_
  refine yields_bind (Q := Watching)
    (yields_modify fun _ h => ⟨hl h.1 rfl, h.2, List.cons_ne_nil _ _⟩) fun _ =>
    yields_bind (yields_openSocket hwatch _) fun push => yields_bind (Q := Watching)
      (yields_modify fun _ h => ⟨hl h.1 rfl, h.2⟩) fun _ =>
    yields_get fun _ => yields_bind (yields_call hwatch _) fun _ =>
    yields_bind (yields_call hwatch _) fun _ => yields_record hwatch _

/-- Sockets that connect are ready. -/
theorem connectStart_ready : Yields Clear connectStart fun _ => Ready := by
  intro t ht a t' hrun
  obtain ⟨hclear, hpull, hwatched⟩ := connectStart_yields blind_clear
    Clear.of_library t ht a t' hrun
  exact ⟨hclear, hpull, hwatched⟩

end Sockets

/-- What reading an arrival comes to: all of its messages, or a failure. -/
def Arrival.read : Arrival → Except Failure (List Message)
  | failure f => .error f
  | a => a.toFrames.mapM Wire.decode

/-- The messages that are had of an arrival: none if it cannot be read. -/
def Arrival.contents (a : Arrival) : List Message := a.read.toOption.getD []

/-- An arrival with a frame that cannot be read yields nothing, whatever comes before that frame. -/
theorem Arrival.read_malformed {good rest : List Bytes} {bad : Bytes} {ms : List Message}
    {f : Failure} (hg : good.mapM Wire.decode = .ok ms) (hb : Wire.decode bad = .error f) :
    (frames (good ++ bad :: rest)).read = .error f := by
  show (good ++ bad :: rest).mapM Wire.decode = .error f
  rw [List.mapM_append, hg, List.mapM_cons, hb]
  rfl

/-! ### Transports -/

namespace Transport

variable {t t' : Transport}

/-- The transport works over sockets, and every frame that arrived was fetched. -/
def Clear : Transport → Prop
  | scripted _ => False
  | sockets s => s.Clear

/-- The transport works over sockets that are connected, and every frame that arrived was
fetched. -/
def Ready : Transport → Prop
  | scripted _ => False
  | sockets s => s.Ready

/-- The sockets of a transport, if it has any, apart from the calls that they made: what receiving
depends on. -/
def inlet : Transport → Option Sockets
  | scripted _ => none
  | sockets s => some s.inlet

theorem Clear.of_inlet (h : t.Clear) (hi : t'.inlet = t.inlet) : t'.Clear := by
  cases t with
  | scripted s => exact h.elim
  | sockets s =>
    cases t' with
    | scripted s' => cases hi
    | sockets s' => exact Sockets.blind_clear.of_inlet h (Option.some.inj hi)

theorem Ready.of_inlet (h : t.Ready) (hi : t'.inlet = t.inlet) : t'.Ready := by
  cases t with
  | scripted s => exact h.elim
  | sockets s =>
    cases t' with
    | scripted s' => cases hi
    | sockets s' => exact Sockets.blind_ready.of_inlet h (Option.some.inj hi)

/-- Sending has no part in what is received. -/
theorem send_inlet (m : Message) (t : Transport) : (t.send m).2.inlet = t.inlet := by
  cases t with
  | scripted s => rfl
  | sockets s =>
    show (some ((Sockets.send (Wire.encode m)).run s).2.inlet : Option Sockets) = some s.inlet
    unfold Sockets.send
    rw [Sockets.run_get_bind]
    cases s.push <;> rfl

theorem connectEnd_inlet (t : Transport) : t.connectEnd.2.inlet = t.inlet := by
  cases t <;> rfl

theorem Clear.connectStart (h : t.Clear) (hr : t.connectStart.1 = .ok ()) :
    t.connectStart.2.Ready := by
  cases t with
  | scripted s => exact h.elim
  | sockets s => exact Sockets.connectStart_ready s h () _ (Prod.ext hr rfl)

/-- An arrival is read as a whole or not at all. -/
theorem Ready.receive (h : t.Ready) {timeout : Double} (hr : t.refusal timeout = none)
    (a : Arrival) : (t.receive timeout a).1 = a.read ∧
      ∀ ms, a.read = .ok ms → (t.receive timeout a).2.Ready := by
  cases t with
  | scripted s => exact h.elim
  | sockets s =>
    have h : s.Ready := h
    obtain ⟨n, hn⟩ : ∃ n, (Seconds.real timeout).millis = .ok n := by
      obtain ⟨pull, hp⟩ := Option.isSome_iff_exists.mp h.pull
      simp only [refusal, hp] at hr
      split at hr
      · cases hr
      · cases hr
      · exact ⟨_, ‹_›⟩
    have hframes : ∀ frames, ((Sockets.receive (some (.real timeout))).run
        { s with library := { s.library with arriving := [frames] } }).1 =
          frames.mapM Wire.decode ∧ ∀ ms, frames.mapM Wire.decode = .ok ms →
        ((Sockets.receive (some (.real timeout))).run
          { s with library := { s.library with arriving := [frames] } }).2.Ready := by
      intro frames
      obtain ⟨hres, hfetched⟩ := Sockets.receive_reads h hn frames
      refine ⟨hres, fun ms hms => ?_⟩
      obtain ⟨calls, hc⟩ := hfetched ms (hres.trans hms)
      rw [hc]
      exact ⟨⟨⟨h.poll, h.fetch, h.forced⟩, rfl⟩, h.pull, h.watched⟩
    cases a with
    | failure f => exact ⟨rfl, fun ms hms => by cases hms⟩
    | messages ms => exact hframes _
    | frames fs => exact hframes fs

end Transport

end ClusterLink
