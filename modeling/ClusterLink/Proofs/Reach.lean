/-
# The address of a transport

A transport announces itself if its address can be told once it connected.
One over sockets always does (`connectStart_reachable`), since connecting
binds a socket of its own; a scripted one does if its script says so.
Nothing that is done with a transport takes either away (`Transport.Keeps`).

Over sockets this is about one field, which no use of them clears
(`Sockets.Keeps`) and which the first half of connecting fills
(`Sockets.Binds`).

Key definitions: `Transport.Announces`, `Transport.Reachable`,
`Transport.Keeps`.
-/
import ClusterLink.Transport

namespace ClusterLink

/-! ### Sockets -/

namespace Sockets

variable {α β : Type}

theorem run_bind (u : Use α) (f : α → Use β) (t : Sockets) :
    (u >>= f).run t = match u.run t with
      | (.ok a, t') => (f a).run t'
      | (.error e, t') => (.error e, t') := by
  rcases h : u.run t with ⟨r, t'⟩
  simp only [bind, ExceptT.bind, ExceptT.run, ExceptT.mk, StateT.bind] at h ⊢
  rw [h]
  cases r <;> rfl

/-- A use of the sockets does not clear the own address. -/
def Keeps (u : Use α) : Prop := ∀ t, t.known.isSome = true → (u.run t).2.known.isSome = true

/-- A use of the sockets that succeeds leaves the own address known. -/
def Binds (u : Use α) : Prop := ∀ t a, (u.run t).1 = .ok a → (u.run t).2.known.isSome = true

theorem keeps_pure (a : α) : Keeps (pure a) := fun _ h => h

theorem keeps_throw (f : Failure) : Keeps (throw f : Use α) := fun _ h => h

theorem keeps_mk (r : Except Failure α) : Keeps (ExceptT.mk (pure r) : Use α) := fun _ h => h

theorem keeps_get : Keeps (get : Use Sockets) := fun _ h => h

theorem keeps_modify {g : Sockets → Sockets} (hg : ∀ t, (g t).known = t.known) :
    Keeps (modify g : Use Unit) := fun t h => by
  show (g t).known.isSome = true
  rw [hg]; exact h

theorem keeps_bind {u : Use α} {f : α → Use β} (hu : Keeps u) (hf : ∀ a, Keeps (f a)) :
    Keeps (u >>= f) := fun t h => by
  rw [run_bind]
  have h1 := hu t h
  rcases hr : u.run t with ⟨r | a, t'⟩
  · simpa [hr] using h1
  · exact hf a t' (by simpa [hr] using h1)

theorem binds_bind {u : Use α} {f : α → Use β} (hf : ∀ a, Binds (f a)) : Binds (u >>= f) :=
  fun t b hb => by
    rw [run_bind] at hb ⊢
    rcases hr : u.run t with ⟨r | a, t'⟩
    · rw [hr] at hb; cases hb
    · rw [hr] at hb; exact hf a t' b hb

theorem binds_modify_bind {g : Sockets → Sockets} {f : Unit → Use α}
    (hg : ∀ t, (g t).known.isSome = true) (hf : ∀ a, Keeps (f a)) :
    Binds ((modify g : Use Unit) >>= f) := fun t _ _ => by
  rw [run_bind]
  exact hf () (g t) (hg t)

theorem keeps_record (c : LibraryCall) : Keeps (record c) := keeps_modify fun _ => rfl

theorem keeps_outcome : Keeps outcome := keeps_bind keeps_get fun _ => keeps_mk _

theorem keeps_call (c : LibraryCall) : Keeps (call c) :=
  keeps_bind (keeps_record c) fun _ => keeps_outcome

/-- Reading the transport and writing it back with the same address clears nothing. -/
theorem keeps_update {g : Sockets → Sockets} {f : Sockets → Use α}
    (hg : ∀ t, (g t).known = t.known) (hf : ∀ t, Keeps (f t)) :
    Keeps (get >>= fun t => set (g t) >>= fun (_ : PUnit) => f t) := fun t h => by
  rw [run_bind]
  show ((set (g t) >>= fun (_ : PUnit) => f t).run t).2.known.isSome = true
  rw [run_bind]
  exact hf t (g t) (by rw [hg]; exact h)

theorem keeps_next : Keeps next := keeps_update (fun _ => rfl) fun _ => keeps_pure _

theorem keeps_openSocket (d : Direction) : Keeps (openSocket d) :=
  keeps_bind keeps_next fun _ => keeps_bind (keeps_call _) fun _ => keeps_pure _

theorem keeps_connectStart : Keeps connectStart := by
  refine keeps_bind keeps_next fun _ => keeps_bind (keeps_call _) fun _ =>
    keeps_bind (keeps_modify fun _ => rfl) fun _ => keeps_bind (keeps_openSocket _) fun pull =>
    keeps_bind (keeps_modify fun _ => rfl) fun _ => keeps_bind (keeps_call _) fun _ =>
    keeps_bind (keeps_call _) fun _ => keeps_bind (fun _ _ => rfl) fun _ =>
    keeps_bind (keeps_call _) fun _ => keeps_bind (keeps_modify fun _ => rfl) fun _ =>
    keeps_bind (keeps_openSocket _) fun push => keeps_bind (keeps_modify fun _ => rfl) fun _ =>
    keeps_bind keeps_get fun _ => keeps_bind (keeps_call _) fun _ =>
    keeps_bind (keeps_call _) fun _ => keeps_record _

theorem binds_connectStart : Binds connectStart := by
  refine binds_bind fun _ => binds_bind fun _ => binds_bind fun _ => binds_bind fun pull =>
    binds_bind fun _ => binds_bind fun _ => binds_bind fun _ =>
    binds_modify_bind (fun _ => rfl) fun _ => ?_
  exact keeps_bind (keeps_call _) fun _ => keeps_bind (keeps_modify fun _ => rfl) fun _ =>
    keeps_bind (keeps_openSocket _) fun push => keeps_bind (keeps_modify fun _ => rfl) fun _ =>
    keeps_bind keeps_get fun _ => keeps_bind (keeps_call _) fun _ =>
    keeps_bind (keeps_call _) fun _ => keeps_record _

theorem keeps_send (frame : Bytes) : Keeps (send frame) := by
  refine keeps_bind keeps_get fun t => ?_
  cases t.push with
  | none => exact keeps_throw _
  | some s => exact keeps_call _

theorem keeps_receiveFrame (pull : Socket) (millis : Option Int) :
    Keeps (receiveFrame pull millis) := by
  refine keeps_bind (keeps_call _) fun _ => keeps_bind (keeps_modify fun _ => rfl) fun _ =>
    keeps_bind keeps_get fun t => ?_
  split
  · exact keeps_pure _
  · refine keeps_bind (keeps_call _) fun _ => ?_
    exact keeps_update (g := fun t => { t with library := t.library.pop.2 }) (fun _ => rfl)
      fun t => keeps_bind (keeps_mk _) fun _ => keeps_pure _
  · exact keeps_throw _

theorem keeps_receiveOne (pull : Socket) (millis : Option Int) :
    Keeps (receiveOne pull millis) := by
  refine keeps_bind (keeps_receiveFrame pull millis) fun frame => ?_
  cases frame with
  | none => exact keeps_pure _
  | some frame => exact keeps_bind (keeps_mk _) fun _ => keeps_pure _

theorem keeps_drain (pull : Socket) : ∀ fuel, Keeps (drain pull fuel)
  | 0 => keeps_pure _
  | fuel + 1 => by
    refine keeps_bind (keeps_receiveOne pull _) fun m => ?_
    cases m with
    | none => exact keeps_pure _
    | some m => exact keeps_bind (keeps_drain pull fuel) fun _ => keeps_pure _

theorem keeps_receive (span : Option Seconds) : Keeps (receive span) := by
  refine keeps_bind keeps_get fun t => ?_
  cases t.pull with
  | none => exact keeps_throw _
  | some pull =>
    refine keeps_bind (keeps_mk _) fun _ => keeps_bind (keeps_receiveOne pull _) fun m => ?_
    cases m with
    | none => exact keeps_pure _
    | some m =>
      exact keeps_bind keeps_get fun _ => keeps_bind (keeps_drain pull _) fun _ => keeps_pure _

theorem keeps_closeSocket (s : Option Socket) : Keeps (closeSocket s) := by
  cases s with
  | none => exact keeps_pure _
  | some s => exact keeps_call _

theorem keeps_terminate (c : Option Nat) : Keeps (terminate c) := by
  cases c with
  | none => exact keeps_pure _
  | some c => exact keeps_call _

theorem keeps_close : Keeps close :=
  keeps_bind keeps_get fun _ => keeps_bind (keeps_closeSocket _) fun _ =>
    keeps_bind (keeps_closeSocket _) fun _ => keeps_bind (keeps_terminate _) fun _ =>
      keeps_modify fun _ => rfl

end Sockets

/-! ### Transports -/

namespace Transport

variable {α : Type}

/-- The address can be told once the transport connected. -/
def Announces : Transport → Prop
  | scripted s => ∃ a, s.address = .ok a
  | sockets _ => True

/-- The address can be told. -/
def Reachable (t : Transport) : Prop := ∃ a, t.address = .ok a

/-- What can be told about the address of one transport can be told about that of the other. -/
def Keeps (t t' : Transport) : Prop :=
  (t.Announces → t'.Announces) ∧ (t.Reachable → t'.Reachable)

theorem Keeps.refl (t : Transport) : t.Keeps t := ⟨id, id⟩

theorem Keeps.trans {t u v : Transport} (h : t.Keeps u) (h' : u.Keeps v) : t.Keeps v :=
  ⟨h'.1 ∘ h.1, h'.2 ∘ h.2⟩

theorem reachable_sockets {s : Sockets} : Reachable (sockets s) ↔ s.known.isSome = true := by
  unfold Reachable address Sockets.address
  cases hk : s.known <;> simp [hk]

/-- A scripted transport with the same address. -/
theorem keeps_scripted {s s' : Scripted} (h : s'.address = s.address) :
    Keeps (scripted s) (scripted s') := by
  unfold Keeps Announces Reachable address
  simp only [h]
  exact ⟨id, id⟩

theorem keeps_through {s : Sockets} {u : Sockets.Use α} (hu : Sockets.Keeps u) :
    Keeps (sockets s) (through s u).2 := by
  refine ⟨fun _ => trivial, fun h => ?_⟩
  rw [reachable_sockets] at h
  exact reachable_sockets.mpr (hu s h)

theorem keeps_connectStart (t : Transport) : t.Keeps t.connectStart.2 := by
  cases t with
  | scripted s => exact .refl _
  | sockets s => exact keeps_through Sockets.keeps_connectStart

theorem keeps_connectEnd (t : Transport) : t.Keeps t.connectEnd.2 := by
  cases t with
  | scripted s => exact .refl _
  | sockets s => exact keeps_through Sockets.keeps_outcome

theorem keeps_send (m : Message) (t : Transport) : t.Keeps (t.send m).2 := by
  cases t with
  | scripted s => exact keeps_scripted rfl
  | sockets s => exact keeps_through (u := Sockets.send (Wire.encode m)) (Sockets.keeps_send _)

theorem keeps_receive (timeout : Double) (a : Arrival) (t : Transport) :
    t.Keeps (t.receive timeout a).2 := by
  cases t with
  | scripted s => cases a <;> exact .refl _
  | sockets s =>
    have hl : ∀ l : Library, Keeps (sockets s) (sockets { s with library := l }) := fun l =>
      ⟨fun _ => trivial, fun h => reachable_sockets.mpr (reachable_sockets.mp h)⟩
    cases a with
    | failure f => exact .refl _
    | messages ms =>
      exact (hl _).trans (keeps_through
        (u := Sockets.receive (some (.real timeout))) (Sockets.keeps_receive _))
    | frames fs =>
      exact (hl _).trans (keeps_through
        (u := Sockets.receive (some (.real timeout))) (Sockets.keeps_receive _))

theorem keeps_close (t : Transport) : t.Keeps t.close.2 := by
  cases t with
  | scripted s => exact .refl _
  | sockets s => exact keeps_through Sockets.keeps_close

/-- A transport that announces itself can tell its address once it began to connect. -/
theorem connectStart_reachable {t : Transport} (ht : t.Announces)
    (h : t.connectStart.1 = .ok ()) : t.connectStart.2.Reachable := by
  cases t with
  | scripted s => exact ht
  | sockets s => exact reachable_sockets.mpr (Sockets.binds_connectStart s () h)

end Transport

end ClusterLink
