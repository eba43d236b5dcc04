/-
# What sockets hold

A transport over sockets acquires a context and two sockets as it connects.
Any call on the way may fail. However far connecting gets, what was acquired
is what the transport holds (`Sockets.Holds`), since a call that fails
acquires nothing, and one that succeeds is followed at once by keeping what
it made.

What a use does to the sockets is followed in two ways. Most uses are
harmless (`Sockets.Harmless`): whatever comes of them, the transport holds
what it held. Connecting goes from one stage to the next, and may stop in
each of them (`Sockets.Stage`): a use leads from sockets of one kind to
sockets of another if it succeeds, and to sockets that hold what was acquired
if it fails (`Sockets.Settles`).

Key definitions: `Resource`, `Library.acquired`, `Library.released`,
`Sockets.held`, `Sockets.Holds`, `Sockets.Harmless`, `Sockets.Settles`.
Key theorems: `Sockets.connectStart_settles`, `Sockets.connect_holds`,
`Sockets.after_untouched`.
-/
import ClusterLink.Proofs.Queue

namespace ClusterLink

/-- What the library gives out and takes back. -/
inductive Resource
  | context (id : Nat)
  | socket (s : Socket)
  deriving DecidableEq, Repr

namespace LibraryCall

/-- What the call acquires, if it succeeds. -/
def acquires? : LibraryCall → Option Resource
  | context id => some (.context id)
  | .open s => some (.socket s)
  | _ => none

/-- What the call gives back. -/
def releases? : LibraryCall → Option Resource
  | close s => some (.socket s)
  | terminate id => some (.context id)
  | _ => none

/-- Whether the call neither acquires nor gives back anything. -/
def isPlain (c : LibraryCall) : Bool := c.acquires?.isNone && c.releases?.isNone

theorem acquires?_of_isPlain {c : LibraryCall} (h : c.isPlain = true) : c.acquires? = none := by
  simp only [isPlain, Bool.and_eq_true, Option.isNone_iff_eq_none] at h
  exact h.1

theorem releases?_of_isPlain {c : LibraryCall} (h : c.isPlain = true) : c.releases? = none := by
  simp only [isPlain, Bool.and_eq_true, Option.isNone_iff_eq_none] at h
  exact h.2

end LibraryCall

/-- The calls that succeeded of these, the last one first. -/
def Faults.succeeded (faults : Faults) : List LibraryCall → List LibraryCall
  | [] => []
  | c :: before =>
    match faults before c with
    | none => c :: faults.succeeded before
    | some _ => faults.succeeded before

namespace Library

/-- The calls that succeeded, the last one first. -/
def succeeded (l : Library) : List LibraryCall := l.faults.succeeded l.calls

/-- What was acquired, the last one first. -/
def acquired (l : Library) : List Resource := l.succeeded.filterMap LibraryCall.acquires?

/-- What was to be given back, the last one first. -/
def released (l : Library) : List Resource := l.calls.filterMap LibraryCall.releases?

variable {l : Library} {c : LibraryCall}

theorem succeeded_record (l : Library) (c : LibraryCall) : (l.record c).succeeded =
    match l.faults l.calls c with
    | none => c :: l.succeeded
    | some _ => l.succeeded := rfl

theorem acquired_record_of_none (h : c.acquires? = none) : (l.record c).acquired = l.acquired := by
  unfold acquired
  rw [succeeded_record]
  split
  · rw [List.filterMap_cons, h]
  · rfl

theorem acquired_record {r : Resource} (hc : c.acquires? = some r)
    (h : l.faults l.calls c = none) : (l.record c).acquired = r :: l.acquired := by
  unfold acquired
  rw [succeeded_record, h]
  simp only [List.filterMap_cons, hc]

theorem acquired_record_of_fault {f : Failure} (h : l.faults l.calls c = some f) :
    (l.record c).acquired = l.acquired := by
  unfold acquired
  rw [succeeded_record, h]

theorem released_record_of_none (h : c.releases? = none) : (l.record c).released = l.released := by
  unfold released record
  rw [List.filterMap_cons, h]

end Library

namespace Sockets

variable {α β : Type} {t t' : Sockets}

/-- What the transport holds: the sockets, and then their context. -/
def held (t : Sockets) : List Resource :=
  t.push.toList.map .socket ++ t.pull.toList.map .socket ++ t.context.toList.map .context

/-- The transport holds what was acquired, and nothing was given back yet. -/
structure Holds (t : Sockets) : Prop where
  acquired : t.library.acquired = t.held
  released : t.library.released = []
  distinct : t.held.Nodup

/-! ### Using the transport -/

/-- The transport holds what it held, and calls were made which neither acquired nor gave back
anything. -/
structure Untouched (t t' : Sockets) : Prop where
  push : t'.push = t.push
  pull : t'.pull = t.pull
  context : t'.context = t.context
  acquired : t'.library.acquired = t.library.acquired
  released : t'.library.released = t.library.released
  calls : t.library.calls <:+ t'.library.calls

namespace Untouched

theorem refl (t : Sockets) : Untouched t t := ⟨rfl, rfl, rfl, rfl, rfl, List.suffix_refl _⟩

theorem trans {t'' : Sockets} (h : Untouched t t') (h' : Untouched t' t'') : Untouched t t'' :=
  ⟨h'.push.trans h.push, h'.pull.trans h.pull, h'.context.trans h.context,
    h'.acquired.trans h.acquired, h'.released.trans h.released, h.calls.trans h'.calls⟩

theorem held (h : Untouched t t') : t'.held = t.held := by
  unfold Sockets.held
  rw [h.push, h.pull, h.context]

theorem holds (h : Untouched t t') (ht : t.Holds) : t'.Holds :=
  ⟨by rw [h.acquired, h.held, ht.acquired], h.released.trans ht.released, by
    rw [h.held]
    exact ht.distinct⟩

end Untouched

/-- Whatever comes of the use, it leaves what the transport holds alone. -/
def Harmless (u : Use α) : Prop := ∀ t, Untouched t (u.run t).2

theorem harmless_of_eq {u : Use α} (h : ∀ t, (u.run t).2 = t) : Harmless u := fun t => by
  rw [h t]
  exact .refl t

theorem harmless_modify {g : Sockets → Sockets} (hg : ∀ t, Untouched t (g t)) :
    Harmless (modify g : Use Unit) := hg

theorem harmless_bind {u : Use α} {f : α → Use β} (hu : Harmless u) (hf : ∀ a, Harmless (f a)) :
    Harmless (u >>= f) := fun t => by
  rw [run_bind]
  have h := hu t
  cases hr : u.run t with
  | mk r t' =>
    rw [hr] at h
    cases r with
    | error f => exact h
    | ok a => exact h.trans (hf a t')

theorem harmless_call {c : LibraryCall} (h : c.isPlain = true) : Harmless (call c) := fun _ =>
  ⟨rfl, rfl, rfl, Library.acquired_record_of_none (LibraryCall.acquires?_of_isPlain h),
    Library.released_record_of_none (LibraryCall.releases?_of_isPlain h), List.suffix_cons _ _⟩

/-- The sockets after these calls. -/
def called (t : Sockets) (cs : List LibraryCall) : Sockets :=
  { t with library := { t.library with calls := cs.reverse ++ t.library.calls } }

/-- The use makes this call first, and leaves what the transport holds alone after that. -/
def Starts (c : LibraryCall) (u : Use α) : Prop := ∀ t, Untouched (t.called [c]) (u.run t).2

theorem starts_call (c : LibraryCall) : Starts c (call c) := fun _ => .refl _

theorem starts_bind {c : LibraryCall} {u : Use α} {f : α → Use β} (hu : Starts c u)
    (hf : ∀ a, Harmless (f a)) : Starts c (u >>= f) := fun t => by
  rw [run_bind]
  have h := hu t
  cases hr : u.run t with
  | mk r t' =>
    rw [hr] at h
    cases r with
    | error f => exact h
    | ok a => exact h.trans (hf a t')

theorem Starts.harmless {c : LibraryCall} {u : Use α} (h : Starts c u) (hc : c.isPlain = true) :
    Harmless u := fun t => (harmless_call hc t).trans (h t)

theorem starts_receiveFrame (pull : Socket) (millis : Option Int) :
    Starts (.poll millis) (receiveFrame pull millis) := by
  have hin : ∀ t : Sockets, Untouched t { t with library := t.library.letIn } := fun t => by
    rw [Library.letIn_eq]
    exact ⟨rfl, rfl, rfl, rfl, rfl, List.suffix_refl _⟩
  have hpop : ∀ t : Sockets, Untouched t { t with library := t.library.pop.2 } := fun t => by
    unfold Library.pop
    split <;> exact ⟨rfl, rfl, rfl, rfl, rfl, List.suffix_refl _⟩
  refine starts_bind (starts_call _) fun _ => harmless_bind (harmless_modify hin) fun _ =>
    harmless_bind (harmless_of_eq fun _ => rfl) fun _ => ?_
  split
  · exact harmless_of_eq fun _ => rfl
  · refine harmless_bind (harmless_call rfl) fun _ t => ?_
    show Untouched t ((ExceptT.mk (pure t.library.pop.1) >>= fun frame => pure (some frame) :
      Use (Option Bytes)).run { t with library := t.library.pop.2 }).2
    rw [run_bind]
    cases t.library.pop.1 <;> exact hpop t
  · exact harmless_of_eq fun _ => rfl

theorem starts_receiveOne (pull : Socket) (millis : Option Int) :
    Starts (.poll millis) (receiveOne pull millis) := by
  refine starts_bind (starts_receiveFrame pull millis) fun frame => ?_
  cases frame with
  | none => exact harmless_of_eq fun _ => rfl
  | some frame =>
    exact harmless_bind (harmless_of_eq fun _ => rfl) fun _ => harmless_of_eq fun _ => rfl

theorem harmless_receiveOne (pull : Socket) (millis : Option Int) :
    Harmless (receiveOne pull millis) := (starts_receiveOne pull millis).harmless rfl

theorem harmless_drain (pull : Socket) (fuel : Nat) : Harmless (drain pull fuel) := by
  induction fuel with
  | zero => exact harmless_of_eq fun _ => rfl
  | succ fuel ih =>
    refine harmless_bind (harmless_receiveOne pull _) fun m => ?_
    cases m with
    | none => exact harmless_of_eq fun _ => rfl
    | some m => exact harmless_bind ih fun _ => harmless_of_eq fun _ => rfl

/-- What follows on the first poll of a receive. -/
theorem harmless_rest (pull : Socket) (m : Option Message) :
    Harmless (match m with
      | none => return []
      | some m => do
        let t ← get
        return m :: (← drain pull (t.library.pending + 1)) : Use (List Message)) := by
  cases m with
  | none => exact harmless_of_eq fun _ => rfl
  | some m =>
    exact harmless_bind (harmless_of_eq fun _ => rfl) fun _ =>
      harmless_bind (harmless_drain pull _) fun _ => harmless_of_eq fun _ => rfl

theorem harmless_receive (span : Option Seconds) : Harmless (receive span) := by
  refine harmless_bind (harmless_of_eq fun _ => rfl) fun t => ?_
  cases t.pull with
  | none => exact harmless_of_eq fun _ => rfl
  | some pull =>
    exact harmless_bind (harmless_of_eq fun _ => rfl) fun _ =>
      harmless_bind (harmless_receiveOne pull _) fun m => harmless_rest pull m

theorem harmless_send (frame : Bytes) : Harmless (send frame) := by
  refine harmless_bind (harmless_of_eq fun _ => rfl) fun t => ?_
  cases t.push with
  | none => exact harmless_of_eq fun _ => rfl
  | some s => exact harmless_call rfl

variable {s : Step} {steps : List Step}

/-- Whether the step neither connects nor closes. -/
def Step.isUse : Step → Bool
  | .connect | .close => false
  | _ => true

theorem step_untouched (t : Sockets) (hs : s.isUse = true) : Untouched t (t.step s).2 := by
  cases s with
  | connect => cases hs
  | close => cases hs
  | send m => exact harmless_send _ t
  | receive span => exact harmless_receive span t
  | address => exact .refl t
  | isTransport => exact .refl t
  | arrive frame => exact ⟨rfl, rfl, rfl, rfl, rfl, List.suffix_refl _⟩
  | force events => exact ⟨rfl, rfl, rfl, rfl, rfl, List.suffix_refl _⟩

theorem after_untouched (t : Sockets) (hs : ∀ s ∈ steps, s.isUse = true) :
    Untouched t (t.after steps) := by
  induction steps generalizing t with
  | nil => exact .refl t
  | cons s steps ih =>
    exact (step_untouched t (hs s (List.mem_cons_self ..))).trans
      (ih _ fun x hx => hs x (List.mem_cons_of_mem _ hx))

/-! ### Connecting -/

/-- From sockets of one kind, a use that succeeds leads to sockets of another, and one that fails
to sockets that hold what was acquired. -/
def Settles (P : Sockets → Prop) (u : Use α) (Q : α → Sockets → Prop) : Prop :=
  ∀ t, P t → (∀ a t', u.run t = (.ok a, t') → Q a t') ∧
    ∀ f t', u.run t = (.error f, t') → t'.Holds

variable {P : Sockets → Prop}

theorem settles_bind {Q : α → Sockets → Prop} {R : β → Sockets → Prop} {u : Use α}
    {f : α → Use β} (hu : Settles P u Q) (hf : ∀ a, Settles (Q a) (f a) R) :
    Settles P (u >>= f) R := fun t ht => by
  obtain ⟨hok, herror⟩ := hu t ht
  cases hr : u.run t with
  | mk r t' =>
    cases r with
    | error e =>
      rw [run_error_bind hr]
      refine ⟨fun b x hx => (by cases hx), fun g x hx => ?_⟩
      obtain ⟨-, rfl⟩ := Prod.mk.inj hx
      exact herror e t' hr
    | ok a =>
      rw [run_ok_bind hr]
      exact hf a t' (hok a t' hr)

/-- What succeeds in any case. -/
theorem settles_of_ok {Q : α → Sockets → Prop} {u : Use α}
    (h : ∀ t, P t → ∃ a, (u.run t).1 = .ok a ∧ Q a (u.run t).2) : Settles P u Q := fun t ht => by
  obtain ⟨a, ha, hq⟩ := h t ht
  refine ⟨fun b t' hr => ?_, fun f t' hr => ?_⟩
  · rw [hr] at ha hq
    obtain rfl := Except.ok.inj ha
    exact hq
  · rw [hr] at ha
    cases ha

theorem settles_modify {Q : Sockets → Prop} {g : Sockets → Sockets} (hg : ∀ t, P t → Q (g t)) :
    Settles P (modify g : Use Unit) fun _ => Q :=
  settles_of_ok fun t ht => ⟨(), rfl, hg t ht⟩

theorem call_run (c : LibraryCall) (t : Sockets) : (call c).run t =
    (match t.library.faults t.library.calls c with
      | some f => .error f
      | none => .ok (), { t with library := t.library.record c }) := rfl

/-- The sockets while they connect: what they hold so far, and what was acquired so far. -/
structure Stage (context : Option Nat) (pull push : Option Socket) (acquired : List Resource)
    (t : Sockets) : Prop where
  context : t.context = context
  pull : t.pull = pull
  push : t.push = push
  acquired : t.library.acquired = acquired
  released : t.library.released = []

variable {context : Option Nat} {pull push : Option Socket} {rs : List Resource}

theorem Stage.untouched (h : Stage context pull push rs t) (hu : Untouched t t') :
    Stage context pull push rs t' :=
  ⟨hu.context.trans h.context, hu.pull.trans h.pull, hu.push.trans h.push,
    hu.acquired.trans h.acquired, hu.released.trans h.released⟩

/-- What was acquired is held by then. -/
theorem Stage.holds (h : Stage context pull push rs t)
    (hr : rs = push.toList.map .socket ++ pull.toList.map .socket ++ context.toList.map .context)
    (hn : rs.Nodup) : t.Holds := by
  have hheld : t.held = rs := by
    unfold held
    rw [h.context, h.pull, h.push, hr]
  exact ⟨h.acquired.trans hheld.symm, h.released, by rwa [hheld]⟩

/-- What neither acquires nor gives back anything leaves the sockets at their stage. -/
theorem settles_harmless {u : Use α} (hu : Harmless u)
    (hh : ∀ t, Stage context pull push rs t → t.Holds) :
    Settles (Stage context pull push rs) u fun _ => Stage context pull push rs := fun t ht => by
  have h := hu t
  refine ⟨fun a t' hr => ?_, fun f t' hr => ?_⟩
  · rw [hr] at h
    exact ht.untouched h
  · rw [hr] at h
    exact hh t' (ht.untouched h)

/-- A call that acquires something does so if it succeeds. -/
theorem settles_acquire {c : LibraryCall} {r : Resource} (hc : c.acquires? = some r)
    (hn : c.releases? = none) (hh : ∀ t, Stage context pull push rs t → t.Holds) :
    Settles (Stage context pull push rs) (call c) fun _ =>
      Stage context pull push (r :: rs) := fun t ht => by
  have hreleased := (Library.released_record_of_none (l := t.library) hn).trans ht.released
  rw [call_run]
  cases hf : t.library.faults t.library.calls c with
  | none =>
    refine ⟨fun a t' hr => ?_, fun f t' hr => by cases hr⟩
    obtain ⟨-, rfl⟩ := Prod.mk.inj hr
    refine ⟨ht.context, ht.pull, ht.push, ?_, hreleased⟩
    exact (Library.acquired_record hc hf).trans (congrArg (r :: ·) ht.acquired)
  | some f =>
    refine ⟨fun a t' hr => (by cases hr), fun g t' hr => ?_⟩
    obtain ⟨-, rfl⟩ := Prod.mk.inj hr
    refine hh _ ⟨ht.context, ht.pull, ht.push, ?_, hreleased⟩
    exact (Library.acquired_record_of_fault hf).trans ht.acquired

theorem harmless_next : Harmless next := fun _ =>
  ⟨rfl, rfl, rfl, rfl, rfl, List.suffix_refl _⟩

theorem settles_openSocket (d : Direction) (hh : ∀ t, Stage context pull push rs t → t.Holds) :
    Settles (Stage context pull push rs) (openSocket d) fun s t =>
      s.direction = d ∧ Stage context pull push (.socket s :: rs) t := by
  refine settles_bind (settles_harmless harmless_next hh) fun n =>
    settles_bind (settles_acquire (r := .socket ⟨n, d⟩) rfl rfl hh) fun _ => ?_
  exact settles_of_ok fun t ht => ⟨_, rfl, rfl, ht⟩

/-- A condition apart from the sockets. -/
theorem settles_and {p : Prop} {Q : α → Sockets → Prop} {u : Use α}
    (h : p → Settles P u Q) : Settles (fun t => p ∧ P t) u Q := fun t ht => h ht.1 t ht.2

/-- Sockets hold what they acquire as they begin to connect, however far they get. -/
theorem connectStart_settles :
    Settles (Stage none none none []) connectStart fun _ => Holds := by
  have hnone : ∀ t, Stage none none none [] t → t.Holds := fun t h =>
    h.holds rfl List.nodup_nil
  refine settles_bind (settles_harmless harmless_next hnone) fun n =>
    settles_bind (settles_acquire rfl rfl hnone) fun _ =>
    settles_bind (Q := fun _ => Stage (some n) none none [.context n])
      (settles_modify fun t h => ⟨rfl, h.pull, h.push, h.acquired, h.released⟩) fun _ => ?_
  -- the context is there
  have hcontext : ∀ t, Stage (some n) none none [.context n] t → t.Holds := fun t h =>
    h.holds rfl (by simp)
  refine settles_bind (settles_openSocket .pull hcontext) fun pull => settles_and fun hpull =>
    settles_bind (Q := fun _ => Stage (some n) (some pull) none [.socket pull, .context n])
      (settles_modify fun t h => ⟨h.context, rfl, h.push, h.acquired, h.released⟩) fun _ => ?_
  -- and the socket to pull from
  have hone : ∀ t, Stage (some n) (some pull) none [.socket pull, .context n] t → t.Holds :=
    fun t h => h.holds rfl (by simp)
  have hkeep {β : Type} {u : Use β} (hu : Harmless u) := settles_harmless hu hone
  refine settles_bind (hkeep (harmless_call rfl)) fun _ =>
    settles_bind (hkeep (harmless_call rfl)) fun _ =>
    settles_bind (hkeep (harmless_modify fun t => ⟨rfl, rfl, rfl, rfl, rfl, List.suffix_refl _⟩))
      fun _ =>
    settles_bind (hkeep (harmless_call rfl)) fun _ =>
    settles_bind (hkeep (harmless_modify fun t => ⟨rfl, rfl, rfl, rfl, rfl, List.suffix_refl _⟩))
      fun _ =>
    settles_bind (settles_openSocket .push hone) fun push => settles_and fun hpush =>
    settles_bind (Q := fun _ => Stage (some n) (some pull) (some push)
        [.socket push, .socket pull, .context n])
      (settles_modify fun t h => ⟨h.context, h.pull, rfl, h.acquired, h.released⟩) fun _ => ?_
  -- and the one to push to
  have hne : push ≠ pull := by
    rintro rfl
    rw [hpull] at hpush
    cases hpush
  have hboth : ∀ t, Stage (some n) (some pull) (some push)
      [.socket push, .socket pull, .context n] t → t.Holds :=
    fun t h => h.holds rfl (by simp [hne])
  have hkeep {β : Type} {u : Use β} (hu : Harmless u) := settles_harmless hu hboth
  refine settles_bind (hkeep (harmless_of_eq fun _ => rfl)) fun t =>
    settles_bind (hkeep (harmless_call rfl)) fun _ =>
    settles_bind (hkeep (harmless_call rfl)) fun _ => ?_
  refine settles_of_ok fun t ht => ⟨(), rfl, hboth _ (ht.untouched ?_)⟩
  exact ⟨rfl, rfl, rfl, Library.acquired_record_of_none rfl,
    Library.released_record_of_none rfl, List.suffix_cons _ _⟩

/-- Sockets hold what they acquire as they connect, whether they succeed or not. -/
theorem connect_holds (h : Stage none none none [] t) : (connect.run t).2.Holds := by
  obtain ⟨hok, herror⟩ := connectStart_settles t h
  unfold connect
  rw [run_bind]
  cases hr : connectStart.run t with
  | mk r t' =>
    cases r with
    | error f => exact herror f t' hr
    | ok u => exact hok u t' hr

end Sockets

end ClusterLink
