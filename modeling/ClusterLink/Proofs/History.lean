/-
# Histories

What can be read off the history of a driver: the state that it is in, what
was passed to the transport and how that went, what was accepted for
sending, and which callbacks began. A history has the last event first; the
logs read off it are in order of time.

A property of events that may look back at what happened before is `Always`
true if it holds of every event of the history.

Key definitions: `History.state`, `History.passed`, `History.accepted`,
`History.begun`, `History.Always`.
-/
import ClusterLink.Driver.Event
import Mathlib.Data.List.Infix

namespace ClusterLink

/-- Whether the driver was shut down. -/
def Lifecycle.isShut : Lifecycle → Bool
  | stopped | aborted | destroyed => true
  | _ => false

theorem Lifecycle.not_active_of_isShut {s : Lifecycle} (h : s.isShut = true) :
    s.isActive = false := by
  cases s <;> first | rfl | cases h

theorem Lifecycle.isShut_of_ne {s : Lifecycle} (hc : s ≠ .created) (hs : s ≠ .started)
    (hr : s ≠ .running) : s.isShut = true := by
  cases s <;> first | rfl | contradiction

/-- A driver that was shut down can only be destroyed. -/
theorem Lifecycle.Step.eq_destroyed {s s' : Lifecycle} (h : s.Step s') (hs : s.isShut = true) :
    s' = .destroyed := by
  cases h with
  | start | connect => cases hs
  | stop ha | abort ha => exact absurd (ha.symm.trans (not_active_of_isShut hs)) Bool.noConfusion
  | destroy => rfl

theorem Lifecycle.Step.isShut {s s' : Lifecycle} (h : s.Step s') (hs : s.isShut = true) :
    s'.isShut = true := by
  rw [h.eq_destroyed hs]
  rfl

namespace Event

/-- The state that the event puts the driver in. -/
def state? : Event → Option Lifecycle
  | became s => some s
  | _ => none

/-- The message that is passed to the transport, and whether it went out. -/
def passed? : Event → Option (Message × Bool)
  | sent m _ _ => some (m, true)
  | notSent m _ _ _ => some (m, false)
  | _ => none

/-- The message that is accepted for sending. -/
def accepted? : Event → Option Message
  | accepted _ m => some m
  | _ => none

/-- The slot whose callback begins. -/
def begun? : Event → Option Slot
  | began slot .. => some slot
  | _ => none

/-- Whether the event is none of the above, and no callback that fails or makes a call. -/
def isAside : Event → Bool
  | became _ | sent .. | notSent .. | accepted .. | began .. | broke .. | acted .. => false
  | _ => true

theorem isAside.passed? {v : Event} (h : v.isAside = true) : v.passed? = none := by
  cases v <;> first | rfl | cases h

theorem isAside.accepted? {v : Event} (h : v.isAside = true) : v.accepted? = none := by
  cases v <;> first | rfl | cases h

end Event

namespace History

/-- The state that a driver is in after a history. -/
def state : List Event → Lifecycle
  | [] => .created
  | v :: h => v.state?.getD (state h)

/-- The messages passed to the transport, each with whether it went out. -/
def passed (h : List Event) : List (Message × Bool) := (h.filterMap Event.passed?).reverse

/-- The messages accepted for sending. -/
def accepted (h : List Event) : List Message := (h.filterMap Event.accepted?).reverse

/-- The slots whose callbacks began. -/
def begun (h : List Event) : List Slot := (h.filterMap Event.begun?).reverse

/-- A property holds of every event and what happened before it. -/
def Always (P : Event → List Event → Prop) : List Event → Prop
  | [] => True
  | v :: h => P v h ∧ Always P h

variable {P : Event → List Event → Prop} {v : Event} {h new : List Event}

@[simp] theorem state_cons : state (v :: h) = v.state?.getD (state h) := rfl

@[simp] theorem passed_cons : passed (v :: h) = passed h ++ v.passed?.toList := by
  cases hv : v.passed? <;> simp [passed, hv]

@[simp] theorem accepted_cons : accepted (v :: h) = accepted h ++ v.accepted?.toList := by
  cases hv : v.accepted? <;> simp [accepted, hv]

@[simp] theorem begun_cons : begun (v :: h) = begun h ++ v.begun?.toList := by
  cases hv : v.begun? <;> simp [begun, hv]

/-- A property that always holds does so wherever the history is cut. -/
theorem always_iff : Always P h ↔ ∀ v t, v :: t <:+ h → P v t := by
  induction h with
  | nil => simp [Always]
  | cons w h ih =>
    constructor
    · rintro ⟨hw, H⟩ v t hs
      rcases List.suffix_cons_iff.mp hs with he | hs
      · obtain ⟨rfl, rfl⟩ := List.cons.inj he
        exact hw
      · exact ih.mp H v t hs
    · intro H
      exact ⟨H w h (List.suffix_refl _),
        ih.mpr fun v t hs => H v t (hs.trans (List.suffix_cons _ _))⟩

/-- What began is an event of the history. -/
theorem mem_begun {slot : Slot} : slot ∈ begun h ↔
    ∃ l payload args t, .began slot l payload args :: t <:+ h := by
  induction h with
  | nil => simp [begun]
  | cons w h ih =>
    rw [begun_cons, List.mem_append, ih]
    constructor
    · rintro (⟨l, payload, args, t, ht⟩ | hw)
      · exact ⟨l, payload, args, t, ht.trans (List.suffix_cons _ _)⟩
      · cases w with
        | began slot' l payload args =>
          obtain rfl : slot = slot' := by simpa [Event.begun?] using hw
          exact ⟨l, payload, args, h, List.suffix_refl _⟩
        | _ => simp [Event.begun?] at hw
    · rintro ⟨l, payload, args, t, ht⟩
      rcases List.suffix_cons_iff.mp ht with he | ht
      · obtain ⟨rfl, -⟩ := List.cons.inj he
        exact Or.inr (by simp [Event.begun?])
      · exact Or.inl ⟨l, payload, args, t, ht⟩

/-- Events that set no state leave the state alone. -/
theorem state_append (hn : ∀ w ∈ new, w.state? = none) : state (new ++ h) = state h := by
  induction new with
  | nil => rfl
  | cons w new ih =>
    rw [List.cons_append, state_cons, hn w List.mem_cons_self]
    exact ih fun x hx => hn x (List.mem_cons_of_mem _ hx)

end History

end ClusterLink
