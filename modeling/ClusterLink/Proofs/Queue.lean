/-
# Receiving as a queue

Connected sockets are a queue between those who send frames and whoever
receives: what was returned by all receives, and then what is still queued,
is what came in, in order (`Sockets.IsQueue`). Frames may come in at any time.
The library lets some in with each poll, so also between two polls of one
receive, and others between two calls.

One receive polls with its own time span first and with none after that, and
goes on until a poll finds nothing (`Sockets.sweep`, `Sockets.Takes`): it has
then returned every frame that had come in. It fails only if its span is none
that can be waited for, and before it polls (`Sockets.Receives`).

The induction is on the fuel of the loop for one receive
(`Sockets.drain_takes`), and on the steps for a row of them
(`Sockets.run_carries`): each step leaves the sockets connected, and hands on
what was queued and what came in with it (`Sockets.step_carries`).

Key definitions: `Sockets.Connected`, `Sockets.Takes`, `Sockets.Receives`,
`Sockets.incoming`, `Sockets.returned`, `Sockets.IsQueue`.
Key theorems: `Sockets.connect_connected`, `Sockets.drain_takes`,
`Sockets.receive_receives`, `Sockets.run_queue`.
-/
import ClusterLink.Proofs.Intake
import ClusterLink.Proofs.Truncation

namespace ClusterLink

/-- A frame is the serialized form of a message. -/
def Wire.Legible (frame : Bytes) : Prop := ∃ m : Message, m.Fits ∧ Wire.encode m = frame

/-- Messages that fit are told apart by their serialized forms. -/
theorem Wire.map_encode_inj {ms ms' : List Message} (h : ∀ m ∈ ms, m.Fits)
    (h' : ∀ m ∈ ms', m.Fits) (heq : ms.map encode = ms'.map encode) : ms = ms' := by
  induction ms generalizing ms' with
  | nil => exact (List.map_eq_nil_iff.mp heq.symm).symm
  | cons m ms ih =>
    cases ms' with
    | nil => cases heq
    | cons m' ms' =>
      obtain ⟨hm, hms⟩ := List.cons.inj heq
      have hhead : m = m' := by
        have hdec := decode_encode (h m (List.mem_cons_self ..))
        rw [hm, decode_encode (h' m' (List.mem_cons_self ..))] at hdec
        exact (Except.ok.inj hdec).symm
      have htail : ms = ms' :=
        ih (fun x hx => h x (List.mem_cons_of_mem _ hx))
          (fun x hx => h' x (List.mem_cons_of_mem _ hx)) hms
      rw [hhead, htail]

namespace Sockets

open Wire (encode Legible)

variable {α : Type} {t t' : Sockets} {m : Message} {ms : List Message} {frame : Bytes}
  {left : List Bytes} {pull : Socket} {millis : Option Int} {span : Option Seconds} {s : Step}
  {steps : List Step}

/-- The sockets are connected; polling and fetching do not fail, and a poll reports one event if
and only if frames are queued. -/
structure Connected (t : Sockets) : Prop extends Calm t where
  pull : t.pull.isSome = true
  watched : t.watched ≠ []

/-- Every frame that is queued or still to come can be read. -/
def Readable (t : Sockets) : Prop :=
  ∀ frame ∈ t.library.queue ++ t.library.arriving.flatten, Legible frame

/-- The socket that frames are fetched from. -/
def source (t : Sockets) (pull : Socket) : Socket := t.watched.headD pull

/-- The frames that the next poll finds. -/
def atHand (t : Sockets) : List Bytes := t.library.queue ++ t.library.arriving.headD []

/-- The sockets after a poll, when these frames are left and these calls were made. -/
def beyond (t : Sockets) (left : List Bytes) (calls : List LibraryCall) : Sockets :=
  t.stocked left t.library.arriving.tail calls

/-- What is at hand comes before all other frames. -/
theorem queue_arriving (t : Sockets) : t.library.queue ++ t.library.arriving.flatten =
    t.atHand ++ t.library.arriving.tail.flatten := by
  unfold atHand
  cases t.library.arriving with
  | nil => simp
  | cons frames later => simp

theorem Connected.stocked (h : t.Connected) (frames : List Bytes) (later : List (List Bytes))
    (calls : List LibraryCall) : (t.stocked frames later calls).Connected :=
  ⟨⟨h.poll, h.fetch, h.forced⟩, h.pull, h.watched⟩

theorem Connected.beyond (h : t.Connected) (left : List Bytes) (calls : List LibraryCall) :
    (t.beyond left calls).Connected := h.stocked left _ calls

/-- What is left after a frame was fetched can be read as well. -/
theorem Readable.beyond (h : t.Readable) (hq : t.atHand = frame :: left)
    (calls : List LibraryCall) : (t.beyond left calls).Readable := by
  intro x hx
  apply h
  rw [queue_arriving, hq]
  exact List.mem_cons_of_mem _ hx

/-- What the next poll finds: nothing, or a message. -/
theorem Readable.atHand (h : t.Readable) :
    t.atHand = [] ∨ ∃ m left, m.Fits ∧ t.atHand = encode m :: left := by
  cases hq : t.atHand with
  | nil => exact Or.inl rfl
  | cons frame left =>
    have hmem : frame ∈ t.library.queue ++ t.library.arriving.flatten := by
      rw [queue_arriving, hq]
      exact List.mem_cons_self ..
    obtain ⟨m, hm, rfl⟩ := h frame hmem
    exact Or.inr ⟨m, left, hm, rfl⟩

/-- The frames that can still be fetched become one fewer. -/
theorem pending_beyond (hq : t.atHand = frame :: left) (calls : List LibraryCall) :
    (t.beyond left calls).library.pending + 1 = t.library.pending := by
  have hlen := congrArg List.length (queue_arriving t)
  rw [hq] at hlen
  simp only [List.length_append, List.length_cons] at hlen
  show left.length + t.library.arriving.tail.flatten.length + 1 =
    t.library.queue.length + t.library.arriving.flatten.length
  omega

/-! ### One receive -/

theorem receiveOne_none (h : t.Connected) (hq : t.atHand = []) :
    (receiveOne pull millis).run t =
      (.ok none, t.beyond [] (.poll millis :: t.library.calls)) := by
  have hrun := receiveFrame_eq h.toCalm h.watched pull millis
  rw [show t.library.queue ++ t.library.arriving.headD [] = [] from hq] at hrun
  exact run_ok_bind hrun

theorem receiveOne_some (h : t.Connected) (hq : t.atHand = encode m :: left) (hm : m.Fits) :
    (receiveOne pull millis).run t = (.ok (some m),
      t.beyond left (.fetch (t.source pull) :: .poll millis :: t.library.calls)) := by
  have hrun := receiveFrame_eq h.toCalm h.watched pull millis
  rw [show t.library.queue ++ t.library.arriving.headD [] = encode m :: left from hq] at hrun
  unfold receiveOne
  rw [run_ok_bind hrun]
  dsimp only
  rw [Wire.decode_encode hm]
  rfl

/-- The calls of a receive that fetches `n` frames, the first one first. -/
def sweep (source : Socket) (millis : Option Int) (n : Nat) : List LibraryCall :=
  .poll millis :: (List.replicate n [.fetch source, .poll (some 0)]).flatten

theorem sweep_succ (x : Socket) (millis : Option Int) (n : Nat) :
    sweep x millis (n + 1) = .poll millis :: .fetch x :: sweep x (some 0) n := by
  rw [sweep, List.replicate_succ, List.flatten_cons]
  rfl

/-- What was queued, and what came in by the end of so many polls. -/
def available (t : Sockets) (polls : Nat) : List Bytes :=
  t.library.queue ++ (t.library.arriving.take polls).flatten

/-- The sockets after so many polls, the last of which found nothing, and after these calls. -/
def swept (t : Sockets) (polls : Nat) (calls : List LibraryCall) : Sockets :=
  t.stocked [] (t.library.arriving.drop polls) (calls.reverse ++ t.library.calls)

/-- These messages are taken out: one with each poll, up to the first one that finds nothing. -/
structure Takes (t : Sockets) (pull : Socket) (millis : Option Int) (ms : List Message)
    (r : Except Failure (List Message) × Sockets) : Prop where
  result : r = (.ok ms, t.swept (ms.length + 1) (sweep (t.source pull) millis ms.length))
  /-- Each poll but the last one found a frame more than had been fetched. -/
  found : ∀ k < ms.length, k < (t.available (k + 1)).length
  /-- When the last poll was made, everything that came in had been fetched. -/
  drained : t.available (ms.length + 1) = ms.map encode
  fit : ∀ m ∈ ms, m.Fits

theorem available_succ (t : Sockets) (n : Nat) :
    t.available (n + 1) = t.atHand ++ (t.library.arriving.tail.take n).flatten := by
  unfold available atHand
  cases t.library.arriving with
  | nil => simp
  | cons frames later => simp

/-- After a frame was fetched the others are available to the polls that follow. -/
theorem available_beyond (hq : t.atHand = frame :: left) (calls : List LibraryCall) (n : Nat) :
    t.available (n + 1) = frame :: (t.beyond left calls).available n := by
  rw [available_succ, hq]
  rfl

/-- The first poll finds nothing. -/
theorem Takes.nil (hq : t.atHand = []) :
    Takes t pull millis [] (.ok [], t.beyond [] (.poll millis :: t.library.calls)) := by
  refine ⟨?_, fun k hk => absurd hk (Nat.not_lt_zero k), ?_, fun m hm => by cases hm⟩
  · rw [swept, List.length_nil, List.drop_one]
    rfl
  · rw [List.length_nil, available_succ, hq]
    rfl

/-- The first poll finds a message, and the rest of the receive takes the others. -/
theorem Takes.cons {u : Use (List Message)} {t' : Sockets}
    (ht : t' = t.beyond left (.fetch (t.source pull) :: .poll millis :: t.library.calls))
    (hq : t.atHand = encode m :: left) (hm : m.Fits)
    (hu : Takes t' pull (some 0) ms (u.run t')) :
    Takes t pull millis (m :: ms) ((u >>= fun ms => pure (m :: ms)).run t') := by
  have hav (n : Nat) : t.available (n + 1) = encode m :: t'.available n := by
    rw [ht]
    exact available_beyond hq _ n
  refine ⟨?_, ?_, ?_, ?_⟩
  · rw [run_ok_bind hu.result]
    have hswept : t'.swept (ms.length + 1) (sweep (t'.source pull) (some 0) ms.length) =
        t.swept (ms.length + 2) (sweep (t.source pull) millis (ms.length + 1)) := by
      subst ht
      rw [sweep_succ]
      simp [swept, beyond, stocked, source]
    exact Prod.ext rfl hswept
  · intro k hk
    rw [hav]
    cases k with
    | zero => exact Nat.succ_pos _
    | succ k => exact Nat.succ_lt_succ (hu.found k (Nat.lt_of_succ_lt_succ hk))
  · rw [List.length_cons, hav, hu.drained]
    rfl
  · intro x hx
    rcases List.mem_cons.mp hx with rfl | hx
    · exact hm
    · exact hu.fit x hx

/-- The loop takes out all that there is, if its fuel is enough for that and one poll more. -/
theorem drain_takes (h : t.Connected) (hr : t.Readable) (pull : Socket) {fuel : Nat}
    (hf : t.library.pending < fuel) :
    ∃ ms, Takes t pull (some 0) ms ((drain pull fuel).run t) := by
  induction fuel generalizing t with
  | zero => exact absurd hf (Nat.not_lt_zero _)
  | succ fuel ih =>
    unfold drain
    rcases hr.atHand with hq | ⟨m, left, hm, hq⟩
    · rw [run_ok_bind (receiveOne_none h hq)]
      exact ⟨[], .nil hq⟩
    · have hfewer := pending_beyond hq (.fetch (t.source pull) :: .poll (some 0) :: t.library.calls)
      rw [← hfewer] at hf
      obtain ⟨ms, hms⟩ := ih (h.beyond left _) (hr.beyond hq _) (Nat.lt_of_succ_lt_succ hf)
      rw [run_ok_bind (receiveOne_some h hq hm)]
      exact ⟨m :: ms, .cons rfl hq hm hms⟩

/-- What came of a receive: it takes messages out, or its span is none that can be waited for. -/
inductive Receives (t : Sockets) (span : Option Seconds)
    (r : Except Failure (List Message) × Sockets) : Prop
  | takes (pull : Socket) (millis : Option Int) (ms : List Message)
    (hm : millisOf span = .ok millis) (h : Takes t pull millis ms r)
  | refused (f : Failure) (hm : millisOf span = .error f) (h : r = (.error f, t))

theorem receive_receives (h : t.Connected) (hr : t.Readable) (span : Option Seconds) :
    Receives t span ((receive span).run t) := by
  obtain ⟨pull, hp⟩ := Option.isSome_iff_exists.mp h.pull
  unfold receive
  rw [run_get_bind, hp]
  dsimp only
  cases hm : millisOf span with
  | error f => exact .refused f hm rfl
  | ok millis =>
    rcases hr.atHand with hq | ⟨m, left, hfit, hq⟩
    · refine .takes pull millis [] hm ?_
      show Takes t pull millis [] ((receiveOne pull millis >>= _).run t)
      rw [run_ok_bind (receiveOne_none h hq)]
      exact .nil hq
    · obtain ⟨ms, hms⟩ := drain_takes (h.beyond left
        (.fetch (t.source pull) :: .poll millis :: t.library.calls)) (hr.beyond hq _) pull
        (Nat.lt_succ_self _)
      refine .takes pull millis (m :: ms) hm ?_
      show Takes t pull millis (m :: ms) ((receiveOne pull millis >>= _).run t)
      rw [run_ok_bind (receiveOne_some h hq hfit)]
      exact .cons rfl hq hfit hms

/-! ### Rows of steps -/

/-- The steps that leave sockets connected, as long as what arrives can be read. -/
inductive Traffic : Step → Prop
  | arrive (frame : Bytes) (h : Legible frame) : Traffic (.arrive frame)
  | receive (span : Option Seconds) : Traffic (.receive span)
  | send (m : Message) : Traffic (.send m)
  | address : Traffic .address
  | isTransport : Traffic .isTransport

/-- The frames that come in with a step: the one that arrives, or those that its polls let in. -/
def incoming (t : Sockets) : Step → List Bytes
  | .arrive frame => [frame]
  | s => (t.library.arriving.take
      (t.library.arriving.length - (t.step s).2.library.arriving.length)).flatten

/-- The frames that come in with a row of steps. -/
def incomings (t : Sockets) : List Step → List Bytes
  | [] => []
  | s :: ss => t.incoming s ++ (t.step s).2.incomings ss

/-- The messages that an answer returns. -/
def messagesOf : Except Failure Answer → List Message
  | .ok (.messages ms) => ms
  | _ => []

/-- The messages that a row of steps returns. -/
def returned (t : Sockets) (steps : List Step) : List Message :=
  (t.run steps).flatMap fun a => messagesOf a.1

/-- The sockets after a row of steps. -/
def after (t : Sockets) (steps : List Step) : Sockets :=
  steps.foldl (fun t s => (t.step s).2) t

theorem returned_cons (t : Sockets) (s : Step) (steps : List Step) :
    t.returned (s :: steps) = messagesOf (t.step s).1 ++ (t.step s).2.returned steps := rfl

/-- Over a row of steps what comes in goes through the queue, and none of it is lost. -/
structure Carries (t : Sockets) (steps : List Step) : Prop where
  order : t.library.queue ++ t.incomings steps =
    (t.returned steps).map encode ++ (t.after steps).library.queue
  fit : ∀ m ∈ t.returned steps, m.Fits
  connected : (t.after steps).Connected
  readable : (t.after steps).Readable

theorem Carries.nil (h : t.Connected) (hr : t.Readable) : Carries t [] where
  order := List.append_nil _
  fit _ hm := by cases hm
  connected := h
  readable := hr

theorem Carries.cons (h : Carries t [s]) (hs : Carries (t.step s).2 steps) :
    Carries t (s :: steps) := by
  have hone : t.returned [s] = messagesOf (t.step s).1 := List.append_nil _
  refine ⟨?_, ?_, hs.connected, hs.readable⟩
  · have hstep : t.library.queue ++ t.incoming s =
        (messagesOf (t.step s).1).map encode ++ (t.step s).2.library.queue := by
      rw [← hone, ← List.append_nil (t.incoming s)]
      exact h.order
    calc t.library.queue ++ (t.incoming s ++ (t.step s).2.incomings steps)
        = (messagesOf (t.step s).1).map encode ++
            ((t.step s).2.library.queue ++ (t.step s).2.incomings steps) := by
          rw [← List.append_assoc, hstep, List.append_assoc]
      _ = (messagesOf (t.step s).1 ++ (t.step s).2.returned steps).map encode ++
            ((t.step s).2.after steps).library.queue := by
          rw [hs.order, List.map_append, List.append_assoc]
  · intro m hm
    rw [returned_cons, ← hone] at hm
    rcases List.mem_append.mp hm with hm | hm
    · exact h.fit m hm
    · exact hs.fit m hm

theorem blind_connected : Blind Connected := fun _ _ _ h =>
  ⟨⟨h.poll, h.fetch, h.forced⟩, h.pull, h.watched⟩

theorem blind_readable : Blind Readable := fun _ _ _ h => h

/-- A step that makes calls only takes nothing out and lets nothing in. -/
theorem Carries.of_inlet (h : t.Connected) (hr : t.Readable)
    (hin : t.incoming s = (t.library.arriving.take
      (t.library.arriving.length - (t.step s).2.library.arriving.length)).flatten)
    (hi : (t.step s).2.inlet = t.inlet) (hm : messagesOf (t.step s).1 = []) : Carries t [s] := by
  have harriving : (t.step s).2.library.arriving = t.library.arriving :=
    congrArg (fun t => t.library.arriving) hi
  have hqueue : (t.step s).2.library.queue = t.library.queue :=
    congrArg (fun t => t.library.queue) hi
  have hreturned : t.returned [s] = [] := (List.append_nil _).trans hm
  refine ⟨?_, ?_, blind_connected.of_inlet h hi, blind_readable.of_inlet hr hi⟩
  · show t.library.queue ++ (t.incoming s ++ []) = _ ++ (t.step s).2.library.queue
    rw [hin, harriving, hreturned, hqueue]
    simp
  · intro m hmem
    rw [hreturned] at hmem
    cases hmem

theorem send_inlet (frame : Bytes) (t : Sockets) : ((send frame).run t).2.inlet = t.inlet := by
  unfold send
  rw [run_get_bind]
  cases t.push <;> rfl

/-- A receive lets in what its polls did, and returns all that is available then. -/
theorem Takes.carries (h : t.Connected) (hr : t.Readable)
    (ht : Takes t pull millis ms ((Sockets.receive span).run t)) : Carries t [.receive span] := by
  let polls := ms.length + 1
  have hstep : t.step (.receive span) =
      (.ok (.messages ms), t.swept polls (sweep (t.source pull) millis ms.length)) := by
    show (((Sockets.receive span).run t).1.map Answer.messages,
      ((Sockets.receive span).run t).2) = _
    rw [ht.result]
    rfl
  have hreturned : t.returned [.receive span] = ms := by
    rw [returned_cons, hstep]
    exact List.append_nil ms
  have hincoming : t.incoming (.receive span) = (t.library.arriving.take polls).flatten := by
    show (t.library.arriving.take
      (t.library.arriving.length - (t.step (.receive span)).2.library.arriving.length)).flatten = _
    rw [hstep]
    show (t.library.arriving.take
      (t.library.arriving.length - (t.library.arriving.drop polls).length)).flatten = _
    rw [List.length_drop]
    by_cases hlen : polls ≤ t.library.arriving.length
    · rw [Nat.sub_sub_self hlen]
    · rw [List.take_of_length_le (by omega), List.take_of_length_le (by omega)]
  refine ⟨?_, ?_, ?_, ?_⟩
  · show t.library.queue ++ (t.incoming (.receive span) ++ []) =
      _ ++ (t.step (.receive span)).2.library.queue
    rw [hincoming, hreturned, hstep, List.append_nil]
    exact ht.drained.trans (List.append_nil _).symm
  · rw [hreturned]
    exact ht.fit
  · show (t.step (.receive span)).2.Connected
    rw [hstep]
    exact h.stocked [] _ _
  · show (t.step (.receive span)).2.Readable
    rw [hstep]
    intro frame hframe
    apply hr
    obtain ⟨frames, hframes, hmem⟩ := List.mem_flatten.mp hframe
    exact List.mem_append_right _
      (List.mem_flatten.mpr ⟨frames, List.mem_of_mem_drop hframes, hmem⟩)

theorem step_carries (h : t.Connected) (hr : t.Readable) (hs : Traffic s) : Carries t [s] := by
  cases hs with
  | arrive frame hframe =>
    refine ⟨?_, fun m hm => (by cases hm), ⟨⟨h.poll, h.fetch, h.forced⟩, h.pull, h.watched⟩, ?_⟩
    · show t.library.queue ++ [frame] = [] ++ (t.library.queue ++ [frame])
      rw [List.nil_append]
    · intro x hx
      have hmem : x ∈ t.library.queue ++ [frame] ++ t.library.arriving.flatten := hx
      rw [List.append_assoc, List.mem_append, List.mem_append, List.mem_singleton] at hmem
      rcases hmem with hx | rfl | hx
      · exact hr x (List.mem_append_left _ hx)
      · exact hframe
      · exact hr x (List.mem_append_right _ hx)
  | receive span =>
    rcases receive_receives h hr span with ⟨pull, millis, ms, -, ht⟩ | ⟨f, -, hrun⟩
    · exact ht.carries h hr
    · have hstep : t.step (.receive span) = (.error f, t) := by
        show (((receive span).run t).1.map Answer.messages, ((receive span).run t).2) = _
        rw [hrun]
        rfl
      exact .of_inlet h hr rfl (by rw [hstep]) (by rw [hstep]; rfl)
  | send m =>
    refine .of_inlet h hr rfl (send_inlet (encode m) t) ?_
    show messagesOf (((send (encode m)).run t).1.map fun _ => Answer.nothing) = []
    cases ((send (encode m)).run t).1 <;> rfl
  | address =>
    refine .of_inlet h hr rfl rfl ?_
    show messagesOf (t.address.map .text) = []
    cases t.address <;> rfl
  | isTransport =>
    refine .of_inlet h hr rfl rfl ?_
    show messagesOf (t.address.map fun _ => .truth true) = []
    cases t.address <;> rfl

theorem run_carries (h : t.Connected) (hr : t.Readable) (hs : ∀ s ∈ steps, Traffic s) :
    Carries t steps := by
  induction steps generalizing t with
  | nil => exact .nil h hr
  | cons s steps ih =>
    have hstep := step_carries h hr (hs s (List.mem_cons_self ..))
    exact hstep.cons (ih hstep.connected hstep.readable
      fun x hx => hs x (List.mem_cons_of_mem _ hx))

/-- Sockets that connect are connected, and what they let in later stays the same. -/
theorem connect_connected {t' : Sockets} (hc : t.Calm) (hr : t.Readable)
    (hrun : connect.run t = (.ok (), t')) : t'.Connected ∧ t'.Readable := by
  let Sound : Sockets → Prop := fun t => t.Calm ∧ t.Readable
  have hblind : Blind Sound := fun _ _ _ h => ⟨⟨h.1.poll, h.1.fetch, h.1.forced⟩, h.2⟩
  have hlibrary : ∀ {t t' : Sockets}, Sound t → t'.library = t.library → Sound t' := by
    rintro t t' ⟨hc, hr⟩ hl
    refine ⟨⟨?_, ?_, ?_⟩, ?_⟩
    · rw [hl]
      exact hc.poll
    · rw [hl]
      exact hc.fetch
    · rw [hl]
      exact hc.forced
    · unfold Readable
      rw [hl]
      exact hr
  cases hstart : connectStart.run t with
  | mk r t'' =>
    cases r with
    | error f =>
      rw [connect, run_error_bind hstart] at hrun
      cases hrun
    | ok u =>
      rw [connect, run_ok_bind hstart] at hrun
      obtain ⟨⟨hcalm, hreadable⟩, hpull, hwatched⟩ :=
        connectStart_yields hblind hlibrary t ⟨hc, hr⟩ u t'' hstart
      obtain ⟨-, rfl⟩ := Prod.mk.inj hrun
      exact ⟨⟨hcalm, hpull, hwatched⟩, hreadable⟩

/-- Over a row of steps the sockets are a queue. -/
structure IsQueue (t : Sockets) (steps : List Step) : Prop where
  /-- What was returned, and then what is queued, is what came in, in order. -/
  order : t.library.queue ++ t.incomings steps =
    (t.returned steps).map encode ++ (t.after steps).library.queue
  /-- Of the messages that came in the first ones were returned, each once, and the frames of the
  others are queued. -/
  messages : ∀ arrived : List Message, (∀ m ∈ arrived, m.Fits) →
    arrived.map encode = t.library.queue ++ t.incomings steps →
      ∃ left, arrived = t.returned steps ++ left ∧
        (t.after steps).library.queue = left.map encode
  /-- Each receive takes all that is available until a poll finds nothing, or its span is none
  that can be waited for. -/
  receives : ∀ before span later, steps = before ++ .receive span :: later →
    Receives (t.after before) span ((receive span).run (t.after before))

/-- Connected sockets are a queue, whatever comes in and whenever it does. -/
theorem run_queue (h : t.Connected) (hr : t.Readable) (hs : ∀ s ∈ steps, Traffic s) :
    IsQueue t steps := by
  have hcarries := run_carries h hr hs
  refine ⟨hcarries.order, ?_, ?_⟩
  · intro arrived hfit harrived
    rw [hcarries.order] at harrived
    obtain ⟨first, left, rfl, hfirst, hleft⟩ := List.map_eq_append_iff.mp harrived
    have hsame : first = t.returned steps :=
      Wire.map_encode_inj (fun m hm => hfit m (List.mem_append_left _ hm)) hcarries.fit hfirst
    exact ⟨left, by rw [hsame], hleft.symm⟩
  · rintro before span later rfl
    have hbefore := run_carries h hr fun s hs' => hs s (List.mem_append_left _ hs')
    exact receive_receives hbefore.connected hbefore.readable span

/-- Sockets that did not connect yet. The first poll will let two frames in, and the second one a
third. -/
def expecting : Sockets :=
  let library : Library := { Library.fresh 5051 .never with
    arriving := [[encode (.slaveLost [1]), encode (.slaveLost [2])], [encode .disconnected]] }
  fresh library "tcp://localhost:5050" "127.0.0.1" 0 0

/-- Connected sockets with a queue that grows while they receive. -/
def growing : Sockets := (connect.run expecting).2

/-- One receive returns what comes in between its polls as well, and the next one what is sent
after that. -/
theorem growing_queue : growing.Connected ∧ growing.Readable ∧
    (∀ s ∈ [.receive (some (.whole 1)), .arrive (encode .shutdownExecutor), .receive none],
      Traffic s) ∧
    IsQueue growing
      [.receive (some (.whole 1)), .arrive (encode .shutdownExecutor), .receive none] ∧
    growing.returned [.receive (some (.whole 1))] =
      [.slaveLost [1], .slaveLost [2], .disconnected] := by
  have hlegible {m : Message} (hm : m.Fits) : Legible (encode m) := ⟨m, hm, rfl⟩
  have hready : growing.Connected ∧ growing.Readable := by
    refine connect_connected (t := expecting) ⟨fun _ _ => rfl, fun _ _ => rfl, rfl⟩ ?_ rfl
    intro frame hframe
    simp only [expecting, fresh, Library.fresh, List.nil_append, List.flatten_cons,
      List.flatten_nil, List.append_nil, List.mem_append, List.mem_cons, List.not_mem_nil,
      or_false] at hframe
    rcases hframe with (rfl | rfl) | rfl
    · exact hlegible (by decide)
    · exact hlegible (by decide)
    · exact hlegible (by decide)
  have htraffic : ∀ s ∈ [.receive (some (.whole 1)), .arrive (encode .shutdownExecutor),
      .receive none], Traffic s := by
    intro s hs
    simp only [List.mem_cons, List.not_mem_nil, or_false] at hs
    rcases hs with rfl | rfl | rfl
    · exact .receive _
    · exact .arrive _ (hlegible (by decide))
    · exact .receive _
  exact ⟨hready.1, hready.2, htraffic, run_queue hready.1 hready.2 htraffic, by decide +kernel⟩

end Sockets

end ClusterLink
