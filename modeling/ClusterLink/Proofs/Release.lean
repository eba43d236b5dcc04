/-
# Giving back what sockets hold

Closing makes a row of calls, up to the first one that fails
(`Sockets.Makes`): it closes the sockets, and then terminates the context. If
none fails the transport forgets them, and does not reach the library again
until it is told to connect (`Sockets.Disconnected`). Since it held all that
was acquired, everything has been given back then, once and in the right
order (`Library.Settled`).

If a call fails, the transport goes on to hold all that it held, closed or
not (`Sockets.Closing`): what is sent then is sent to a closed socket, and
closing once more closes it again.

Key definitions: `Library.Settled`, `Library.Undisturbed`, `Sockets.releasing`,
`Sockets.Makes`, `Sockets.Disconnected`, `Sockets.Clean`, `Sockets.Shut`,
`Sockets.Closing`.
Key theorems: `Sockets.close_makes`, `Sockets.Holds.settled`,
`Sockets.fresh_clean`, `Sockets.close_closing`.
-/
import ClusterLink.Proofs.Holdings
import Mathlib.Data.List.Nodup

namespace ClusterLink

namespace Library

/-- All that was acquired was given back, the context after its sockets. -/
structure Settled (l : Library) : Prop where
  /-- There was one call for each, -/
  once : ∀ r ∈ l.acquired, l.released.count r = 1
  /-- which succeeded, -/
  succeeded : ∀ c ∈ l.calls, c.releases?.isSome = true → c ∈ l.succeeded
  /-- and none for anything else. -/
  only : ∀ r ∈ l.released, r ∈ l.acquired
  last : ∀ id s, .context id ∈ l.acquired → .socket s ∈ l.acquired →
    [.context id, .socket s].Sublist l.released

/-- None of the calls failed that were made since there had been `n` of them. -/
def Undisturbed (l : Library) (n : Nat) : Prop :=
  ∀ c before, c :: before <:+ l.calls → n ≤ before.length → l.faults before c = none

end Library

namespace Sockets

variable {α : Type} {t t' : Sockets}

/-- The transport holds nothing. -/
structure Detached (t : Sockets) : Prop where
  push : t.push = none
  pull : t.pull = none
  context : t.context = none

/-! ### Closing -/

/-- The calls that closing makes, if none of them fails. -/
def releasing (t : Sockets) : List LibraryCall :=
  t.push.toList.map .close ++ t.pull.toList.map .close ++ t.context.toList.map .terminate

/-- They give back what the transport holds. -/
theorem releasing_releases (t : Sockets) :
    t.releasing.filterMap LibraryCall.releases? = t.held := by
  unfold releasing held
  cases t.push <;> cases t.pull <;> cases t.context <;> rfl

theorem releasing_acquires (t : Sockets) : ∀ c ∈ t.releasing, c.acquires? = none := by
  intro c hc
  simp only [releasing, List.mem_append, List.mem_map] at hc
  rcases hc with (⟨s, -, rfl⟩ | ⟨s, -, rfl⟩) | ⟨n, -, rfl⟩ <;> rfl

theorem called_cons (t : Sockets) (c : LibraryCall) (cs : List LibraryCall) :
    t.called (c :: cs) = (t.called [c]).called cs := by
  simp [called]

/-- None of these calls fails, if they are made one after another. -/
def Passes (t : Sockets) (cs : List LibraryCall) : Prop :=
  (t.called cs).library.succeeded = cs.reverse ++ t.library.succeeded

/-- The calls are made up to the first one that fails. -/
inductive Makes (t : Sockets) (cs : List LibraryCall) : Except Failure Unit × Sockets → Prop
  | all (h : t.Passes cs) : Makes t cs (.ok (), t.called cs)
  | until (made : List LibraryCall) (c : LibraryCall) (rest : List LibraryCall) (f : Failure)
    (hcs : cs = made ++ c :: rest) (h : t.Passes made)
    (hf : t.library.faults (made.reverse ++ t.library.calls) c = some f) :
    Makes t cs (.error f, t.called (made ++ [c]))

/-- A row of calls. -/
def calling : List LibraryCall → Use Unit
  | [] => return ()
  | c :: cs => do
    call c
    calling cs

theorem passes_cons {c : LibraryCall} {cs : List LibraryCall}
    (hc : t.library.faults t.library.calls c = none) (h : (t.called [c]).Passes cs) :
    t.Passes (c :: cs) := by
  have hone : (t.called [c]).library.succeeded = c :: t.library.succeeded := by
    show (t.library.record c).succeeded = _
    rw [Library.succeeded_record, hc]
  unfold Passes at h ⊢
  rw [called_cons, h, hone, List.reverse_cons, List.append_assoc]
  rfl

theorem calling_makes (t : Sockets) (cs : List LibraryCall) :
    Makes t cs ((calling cs).run t) := by
  induction cs generalizing t with
  | nil => exact .all rfl
  | cons c cs ih =>
    unfold calling
    cases hf : t.library.faults t.library.calls c with
    | some f =>
      have hrun : (call c).run t = (.error f, t.called [c]) := by
        rw [call_run, hf]
        rfl
      rw [run_error_bind hrun]
      exact .until [] c cs f rfl rfl hf
    | none =>
      have hrun : (call c).run t = (.ok (), t.called [c]) := call_of_none hf
      rw [run_ok_bind hrun]
      cases hrest : (calling cs).run (t.called [c]) with
      | mk r t' =>
        have hmakes := ih (t.called [c])
        rw [hrest] at hmakes
        cases hmakes with
        | all h =>
          rw [← called_cons]
          exact .all (passes_cons hf h)
        | «until» made c' rest f hcs h hf' =>
          rw [← called_cons]
          refine .until (c :: made) c' rest f (by rw [hcs]; rfl) (passes_cons hf h) ?_
          rw [List.reverse_cons, List.append_assoc]
          exact hf'

/-- What closing forgets, if no call failed. -/
def detached (t : Sockets) : Sockets := { t with push := none, pull := none, context := none }

theorem close_eq (t : Sockets) : close.run t =
    (calling t.releasing >>= fun _ => modify detached).run t := by
  unfold close releasing closeSocket terminate
  rw [run_get_bind]
  cases t.push <;> cases t.pull <;> cases t.context <;>
    simp only [Option.toList_none, Option.toList_some, List.map_nil, List.map_cons, List.nil_append,
      List.append_nil, List.cons_append, calling, bind_assoc, pure_bind] <;> rfl

/-- Closing makes its calls up to the first one that fails, and forgets what the transport holds
if none does. -/
theorem close_makes (t : Sockets) :
    (close.run t = (.ok (), (t.called t.releasing).detached) ∧ t.Passes t.releasing) ∨
    ∃ f t', close.run t = (.error f, t') ∧ Makes t t.releasing (.error f, t') := by
  rw [close_eq]
  have hmakes := calling_makes t t.releasing
  cases hr : (calling t.releasing).run t with
  | mk r t' =>
    rw [hr] at hmakes
    cases hmakes with
    | all h =>
      rw [run_ok_bind hr]
      exact .inl ⟨rfl, h⟩
    | «until» made c rest f hcs h hf =>
      rw [run_error_bind hr]
      exact .inr ⟨f, _, rfl, .until made c rest f hcs h hf⟩

/-! ### Sockets that hold nothing -/

variable {s : Step} {steps : List Step} {m : Message} {span : Option Seconds}

theorem detached_detached (t : Sockets) : t.detached.Detached := ⟨rfl, rfl, rfl⟩

theorem Detached.close_run (h : t.Detached) : close.run t = (.ok (), t) := by
  obtain ⟨hpush, hpull, hcontext⟩ := h
  cases t
  subst hpush hpull hcontext
  rfl

theorem send_of_none (h : t.push = none) (frame : Bytes) :
    (send frame).run t = (.error .notConnected, t) := by
  unfold send
  rw [run_get_bind, h]
  rfl

theorem receive_of_none (h : t.pull = none) (span : Option Seconds) :
    (receive span).run t = (.error .notConnected, t) := by
  unfold receive
  rw [run_get_bind, h]
  rfl

theorem step_send_of_none (h : t.push = none) (m : Message) :
    t.step (.send m) = (.error .notConnected, t) := by
  show (((Sockets.send (Wire.encode m)).run t).1.map fun _ => Answer.nothing,
    ((Sockets.send (Wire.encode m)).run t).2) = _
  rw [send_of_none h]
  rfl

theorem step_receive_of_none (h : t.pull = none) (span : Option Seconds) :
    t.step (.receive span) = (.error .notConnected, t) := by
  show (((Sockets.receive span).run t).1.map Answer.messages,
    ((Sockets.receive span).run t).2) = _
  rw [receive_of_none h]
  rfl

/-- They hold nothing and make no call until they connect. -/
theorem Detached.step (h : t.Detached) (hs : s ≠ .connect) :
    (t.step s).2.Detached ∧ (t.step s).2.library.calls = t.library.calls := by
  cases s with
  | connect => exact absurd rfl hs
  | close =>
    show (close.run t).2.Detached ∧ (close.run t).2.library.calls = _
    rw [h.close_run]
    exact ⟨h, rfl⟩
  | send m =>
    rw [step_send_of_none h.push]
    exact ⟨h, rfl⟩
  | receive span =>
    rw [step_receive_of_none h.pull]
    exact ⟨h, rfl⟩
  | address => exact ⟨h, rfl⟩
  | isTransport => exact ⟨h, rfl⟩
  | arrive frame => exact ⟨⟨h.push, h.pull, h.context⟩, rfl⟩
  | force events => exact ⟨⟨h.push, h.pull, h.context⟩, rfl⟩

theorem Detached.after (h : t.Detached) (hs : Step.connect ∉ steps) :
    (t.after steps).Detached ∧ (t.after steps).library.calls = t.library.calls := by
  induction steps generalizing t with
  | nil => exact ⟨h, rfl⟩
  | cons s steps ih =>
    obtain ⟨hd, hc⟩ := h.step (s := s) fun hs' => hs (hs' ▸ List.mem_cons_self ..)
    obtain ⟨hd', hc'⟩ := ih hd fun hmem => hs (List.mem_cons_of_mem _ hmem)
    exact ⟨hd', hc'.trans hc⟩

/-- Sends and receives fail, and there is no call of the library, until the sockets connect. -/
structure Disconnected (t : Sockets) : Prop where
  quiet : ∀ steps, Step.connect ∉ steps → (t.after steps).library.calls = t.library.calls
  send : ∀ steps m, Step.connect ∉ steps →
    (t.after steps).step (.send m) = (.error .notConnected, t.after steps)
  receive : ∀ steps span, Step.connect ∉ steps →
    (t.after steps).step (.receive span) = (.error .notConnected, t.after steps)

theorem Detached.disconnected (h : t.Detached) : t.Disconnected where
  quiet _ hs := (h.after hs).2
  send _ m hs := step_send_of_none (h.after hs).1.push m
  receive _ span hs := step_receive_of_none (h.after hs).1.pull span

/-! ### From connecting to closing -/

/-- Sockets that give back what they hold, by calls that all succeed, have given back all that
they acquired. -/
theorem Holds.settled (h : t.Holds) (hp : t.Passes t.releasing) :
    (t.called t.releasing).library.Settled := by
  have hacquired : (t.called t.releasing).library.acquired = t.held := by
    unfold Library.acquired
    rw [hp, List.filterMap_append, List.filterMap_eq_nil_iff.mpr fun c hc =>
      t.releasing_acquires c (List.mem_reverse.mp hc)]
    exact h.acquired
  have hreleased : (t.called t.releasing).library.released = t.held.reverse := by
    show (t.releasing.reverse ++ t.library.calls).filterMap LibraryCall.releases? = _
    rw [List.filterMap_append, List.filterMap_reverse, releasing_releases]
    show t.held.reverse ++ t.library.released = _
    rw [h.released, List.append_nil]
  refine ⟨fun r hr => ?_, fun c hc hr => ?_, fun r hr => ?_, fun id s hid hs => ?_⟩
  · rw [hacquired] at hr
    rw [hreleased, List.count_reverse]
    exact List.count_eq_one_of_mem h.distinct hr
  · rw [hp]
    rcases List.mem_append.mp hc with hc | hc
    · exact List.mem_append_left _ hc
    · obtain ⟨r, hr⟩ := Option.isSome_iff_exists.mp hr
      have hmem : r ∈ t.library.released := List.mem_filterMap.mpr ⟨c, hc, hr⟩
      rw [h.released] at hmem
      cases hmem
  · rw [hacquired]
    rw [hreleased] at hr
    exact List.mem_reverse.mp hr
  · rw [hacquired] at hid hs
    rw [hreleased]
    have hid' : Resource.context id ∈ t.context.toList.map Resource.context := by
      simpa [held] using hid
    have hs' : Resource.socket s ∈
        t.push.toList.map Resource.socket ++ t.pull.toList.map Resource.socket := by
      simpa [held] using hs
    unfold held
    rw [List.reverse_append]
    exact (List.singleton_sublist.mpr (List.mem_reverse.mpr hid')).append
      (List.singleton_sublist.mpr (List.mem_reverse.mpr hs'))

/-- If the library is not disturbed meanwhile, closing returns and settles what the transport
holds. -/
theorem Holds.closing (h : t.Holds)
    (hu : (t.step .close).2.library.Undisturbed t.library.calls.length) :
    (t.step .close).1 = .ok .nothing ∧ (t.step .close).2.library.Settled ∧
      (t.step .close).2.Disconnected := by
  have hstep : t.step .close = ((close.run t).1.map fun _ => .nothing, (close.run t).2) := rfl
  rcases close_makes t with ⟨hrun, hp⟩ | ⟨f, t', hrun, hmakes⟩
  · rw [hstep, hrun]
    exact ⟨rfl, h.settled hp, (detached_detached _).disconnected⟩
  · rw [hstep, hrun] at hu
    cases hmakes with
    | «until» made c rest f hcs hp hf =>
      have hcalls : (t.called (made ++ [c])).library.calls =
          c :: (made.reverse ++ t.library.calls) := by
        simp [called]
      have hnone := hu c (made.reverse ++ t.library.calls) (hcalls ▸ List.suffix_refl _) (by simp)
      rw [show (t.called (made ++ [c])).library.faults = t.library.faults from rfl, hf] at hnone
      cases hnone

/-- Sockets close all that they acquired as they connected. -/
structure Clean (t : Sockets) : Prop where
  /-- Until they connect they make no call, also as they are closed. -/
  unconnected : t.Disconnected
  /-- After that it does not matter how far connecting got and what they were used for. -/
  closed : ∀ before between t', Step.connect ∉ before → (∀ s ∈ between, s.isUse = true) →
    t' = t.after (before ++ .connect :: between) →
    (t'.step .close).2.library.Undisturbed t'.library.calls.length →
      (t'.step .close).1 = .ok .nothing ∧ (t'.step .close).2.library.Settled ∧
        (t'.step .close).2.Disconnected

/-- Sockets over a library that was not used yet leave nothing behind, whichever of its calls fail
as they connect and while they are used. -/
theorem fresh_clean {library : Library} (hl : library.calls = []) (remote host : String)
    (lingerMs sendTimeoutMs : Int) :
    Clean (fresh library remote host lingerMs sendTimeoutMs) := by
  let t := fresh library remote host lingerMs sendTimeoutMs
  have hdetached : t.Detached := ⟨rfl, rfl, rfl⟩
  refine ⟨hdetached.disconnected, fun before between t' hb hs ht' hu => ?_⟩
  obtain ⟨hd, hcalls⟩ := hdetached.after hb
  have hnone : (t.after before).library.calls = [] := hcalls.trans hl
  have hstage : Stage none none none [] (t.after before) := by
    refine ⟨hd.context, hd.pull, hd.push, ?_, ?_⟩
    · unfold Library.acquired Library.succeeded
      rw [hnone]
      rfl
    · unfold Library.released
      rw [hnone]
      rfl
  have hholds : t'.Holds := by
    rw [ht', after, List.foldl_append]
    exact (after_untouched _ hs).holds (connect_holds hstage)
  exact hholds.closing hu

/-- Sockets whose port cannot be bound. -/
def unbound : Sockets :=
  fresh (.fresh 5051 (.scripted (some (.raised "ZMQError" (some "in use"))) none none []))
    "tcp://localhost:5050" "127.0.0.1" 0 0

/-- They have a socket to pull from by then but none to push to, and close it before they
terminate the context. -/
theorem unbound_clean : Clean unbound ∧
    (unbound.step .connect).1 = .error (.raised "ZMQError" (some "in use")) ∧
    ((unbound.after [.connect, .receive (some (.whole 0)), .close]).callsSince 4) =
      [.poll (some 0), .close ⟨1, .pull⟩, .terminate 0] ∧
    ((unbound.after [.connect, .receive (some (.whole 0)), .close])).library.Settled := by
  have hclean : Clean unbound := fresh_clean rfl _ _ _ _
  have hclosed := hclean.closed [] [.receive (some (.whole 0))] _ (by simp) (by decide) rfl ?_
  · exact ⟨hclean, rfl, rfl, hclosed.2.1⟩
  · intro c before hc hlen
    rcases List.suffix_cons_iff.mp hc with h | hc
    · rw [(List.cons.inj h).1]
      rfl
    rcases List.suffix_cons_iff.mp hc with h | hc
    · rw [(List.cons.inj h).1]
      rfl
    exact absurd hc.length_le (Nat.not_le.mpr (Nat.succ_lt_succ hlen))

/-! ### Closing that fails -/

/-- Sends and receives fail at once, and closing does not close a socket that was closed. -/
structure Shut (t : Sockets) : Prop where
  send : ∀ m, t.step (.send m) = (.error .notConnected, t)
  receive : ∀ span, t.step (.receive span) = (.error .notConnected, t)
  close : ∀ s, .close s ∈ (t.step .close).2.callsSince t.library.calls.length →
    .close s ∉ t.library.succeeded

/-- What comes of closing. -/
structure Closing (t : Sockets) : Prop where
  /-- If it returns, it made all its calls and nothing is held any more. -/
  returned : (t.step .close).1 = .ok .nothing →
    (t.step .close).2 = (t.called t.releasing).detached ∧ (t.step .close).2.Disconnected
  /-- If it fails, it made them up to the one that failed, and all is still held. -/
  failed : ∀ f, (t.step .close).1 = .error f → ∃ made c rest, t.releasing = made ++ c :: rest ∧
    t.Passes made ∧ t.library.faults (made.reverse ++ t.library.calls) c = some f ∧
    (t.step .close).2 = t.called (made ++ [c])
  /-- Hence the transport is shut afterwards only if it returned, or if there are no sockets. -/
  shut : (t.step .close).2.Shut ↔
    (t.step .close).1 = .ok .nothing ∨ t.push = none ∧ t.pull = none

theorem Makes.calls {cs : List LibraryCall} {r : Except Failure Unit × Sockets}
    (h : Makes t cs r) : ∃ made rest, cs = made ++ rest ∧ r.2 = t.called made := by
  cases h with
  | all h => exact ⟨cs, [], (List.append_nil cs).symm, rfl⟩
  | «until» made c rest f hcs h hf =>
    exact ⟨made ++ [c], rest, by rw [hcs, List.append_assoc]; rfl, rfl⟩

theorem callsSince_called (t : Sockets) (cs : List LibraryCall) :
    (t.called cs).callsSince t.library.calls.length = cs := by
  simp [callsSince, called]

/-- Closing makes some of its calls, in order. -/
theorem close_calls (t : Sockets) : ∃ made rest, t.releasing = made ++ rest ∧
    (t.step .close).2.callsSince t.library.calls.length = made := by
  have hstep : (t.step .close).2 = (close.run t).2 := rfl
  rw [hstep]
  rcases close_makes t with ⟨hrun, -⟩ | ⟨f, t', hrun, hmakes⟩
  · rw [hrun]
    exact ⟨t.releasing, [], (List.append_nil _).symm, t.callsSince_called _⟩
  · rw [hrun]
    obtain ⟨made, rest, hcs, hr⟩ := hmakes.calls
    refine ⟨made, rest, hcs, ?_⟩
    rw [show t' = t.called made from hr]
    exact t.callsSince_called made

/-- Without sockets there is only a context to terminate. -/
theorem shut_of_none (hpush : t.push = none) (hpull : t.pull = none) : t.Shut := by
  refine ⟨step_send_of_none hpush, step_receive_of_none hpull, fun s hs => ?_⟩
  obtain ⟨made, rest, hcs, hmade⟩ := t.close_calls
  rw [hmade] at hs
  have hmem : LibraryCall.close s ∈ t.releasing := by
    rw [hcs]
    exact List.mem_append_left _ hs
  simp [releasing, hpush, hpull] at hmem

/-- A use that makes a call does not leave the sockets as they are. -/
theorem Starts.changes {c : LibraryCall} {u : Use α} (h : Starts c u) (t : Sockets) :
    (u.run t).2 ≠ t := fun heq => by
  have hcalls : c :: t.library.calls <:+ t.library.calls := by
    have hcalls := (h t).calls
    rwa [heq] at hcalls
  exact absurd hcalls.length_le (Nat.not_succ_le_self _)

theorem Shut.vacant (h : t.Shut) : t.push = none ∧ t.pull = none := by
  refine ⟨?_, ?_⟩
  · cases hp : t.push with
    | none => rfl
    | some p =>
      have hrun : ((Sockets.send (Wire.encode .disconnected)).run t).2 = t :=
        congrArg Prod.snd (h.send .disconnected)
      unfold Sockets.send at hrun
      rw [run_get_bind, hp] at hrun
      exact absurd hrun ((starts_call _).changes t)
  · cases hp : t.pull with
    | none => rfl
    | some p =>
      have hrun : ((Sockets.receive none).run t).2 = t := congrArg Prod.snd (h.receive none)
      unfold Sockets.receive at hrun
      rw [run_get_bind, hp] at hrun
      exact absurd hrun ((starts_bind (starts_receiveOne p none) (harmless_rest p)).changes t)

/-- Closing lets go of the sockets only after its last call. -/
theorem close_closing (t : Sockets) : Closing t := by
  have hstep : t.step .close = ((close.run t).1.map fun _ => .nothing, (close.run t).2) := rfl
  rcases close_makes t with ⟨hrun, -⟩ | ⟨f, t', hrun, hmakes⟩
  · have hdetached := detached_detached (t.called t.releasing)
    rw [hrun] at hstep
    refine ⟨fun _ => ?_, fun f hf => ?_, ?_⟩
    · rw [hstep]
      exact ⟨rfl, hdetached.disconnected⟩
    · rw [hstep] at hf
      cases hf
    · rw [hstep]
      exact iff_of_true (shut_of_none hdetached.push hdetached.pull) (.inl rfl)
  · rw [hrun] at hstep
    refine ⟨fun h => ?_, fun g hg => ?_, ?_⟩
    · rw [hstep] at h
      cases h
    · rw [hstep] at hg ⊢
      obtain rfl : f = g := Except.error.inj hg
      cases hmakes with
      | «until» made c rest f hcs h hf => exact ⟨made, c, rest, hcs, h, hf, rfl⟩
    · obtain ⟨made, -, -, hr⟩ := hmakes.calls
      rw [hstep, show t' = t.called made from hr]
      refine ⟨fun h => .inr h.vacant, ?_⟩
      rintro (h | ⟨hpush, hpull⟩)
      · cases h
      · exact shut_of_none hpush hpull

/-- Sockets whose context cannot be terminated. -/
def stuck : Sockets :=
  fresh (.fresh 5050 (.scripted none none (some (.raised "OSError" (some "busy"))) []))
    "tcp://localhost:5050" "127.0.0.1" 0 1000

/-- Closing them fails, and what is sent afterwards still goes to the closed socket; closing them
again closes both sockets again. -/
theorem stuck_sends :
    let m : Message := .reviveOffers [102]
    let closes : List LibraryCall := [.close ⟨2, .push⟩, .close ⟨1, .pull⟩, .terminate 0]
    let busy : Except Failure Answer := .error (.raised "OSError" (some "busy"))
    (stuck.run [.connect, .close, .send m, .close]).drop 1 =
      [(busy, closes), (.ok .nothing, [.send ⟨2, .push⟩ (Wire.encode m)]), (busy, closes)] ∧
    ¬ (stuck.after [.connect, .close]).Shut := by
  refine ⟨rfl, fun h => ?_⟩
  have hsend : Except.ok Answer.nothing = .error Failure.notConnected :=
    congrArg Prod.fst (h.send (.reviveOffers [102]))
  cases hsend

end Sockets

end ClusterLink
