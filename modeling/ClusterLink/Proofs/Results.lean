/-
# Results

What becomes of steps that may fail, one after the other: they succeed if
each of them does (`Except.bind_eq_ok_iff`), and fail in the ways in which
one of them may (`FailsBy`).

Key definition: `FailsBy`.
Key theorems: `Except.bind_eq_ok_iff`, `Except.map_eq_ok_iff`,
`FailsBy.bind`.
-/
import ClusterLink.Failure

namespace ClusterLink

theorem Except.bind_eq_ok_iff {ε α β : Type} {x : Except ε α} {f : α → Except ε β} {b : β} :
    x >>= f = .ok b ↔ ∃ a, x = .ok a ∧ f a = .ok b := by
  cases x with
  | error e => exact ⟨fun h => (by cases h), fun ⟨_, h, _⟩ => (by cases h)⟩
  | ok a => exact ⟨fun h => ⟨a, rfl, h⟩, fun ⟨_, h, hf⟩ => (by cases h; exact hf)⟩

theorem Except.map_eq_ok_iff {ε α β : Type} {x : Except ε α} {f : α → β} {b : β} :
    x.map f = .ok b ↔ ∃ a, x = .ok a ∧ f a = b := by
  cases x with
  | error e => exact ⟨fun h => (by cases h), fun ⟨_, h, _⟩ => (by cases h)⟩
  | ok a =>
    exact ⟨fun h => ⟨a, rfl, Except.ok.inj h⟩, fun ⟨_, h, hf⟩ => (by cases h; cases hf; rfl)⟩

theorem not_exists_ok {ε α : Type} {e : ε} : ¬ ∃ a : α, (.error e : Except ε α) = .ok a := by
  rintro ⟨a, h⟩
  cases h

/-- If it fails, then in one of these ways. -/
def FailsBy {α : Type} (P : Failure → Prop) (x : Except Failure α) : Prop :=
  ∀ f, x = .error f → P f

namespace FailsBy

variable {α β : Type} {P : Failure → Prop} {x : Except Failure α}

theorem ok (a : α) : FailsBy P (.ok a) := fun f h => by cases h

theorem error {f : Failure} (h : P f) : FailsBy P (.error f : Except Failure α) := by
  intro g hg
  cases hg
  exact h

theorem imp {Q : Failure → Prop} (hx : FailsBy P x) (h : ∀ f, P f → Q f) : FailsBy Q x :=
  fun f hf => h f (hx f hf)

theorem bind_of_ok {f : α → Except Failure β} (hx : FailsBy P x)
    (hf : ∀ a, x = .ok a → FailsBy P (f a)) : FailsBy P (x >>= f) := by
  intro e he
  cases x with
  | error e' =>
    cases he
    exact hx e rfl
  | ok a => exact hf a rfl e he

theorem bind {f : α → Except Failure β} (hx : FailsBy P x) (hf : ∀ a, FailsBy P (f a)) :
    FailsBy P (x >>= f) :=
  hx.bind_of_ok fun a _ => hf a

theorem map (hx : FailsBy P x) (f : α → β) : FailsBy P (x.map f) := by
  intro e he
  cases x with
  | error e' =>
    cases he
    exact hx e rfl
  | ok a => cases he

theorem mapM {f : α → Except Failure β} (hf : ∀ a, FailsBy P (f a)) (as : List α) :
    FailsBy P (as.mapM f) := by
  induction as with
  | nil => exact ok []
  | cons a as ih =>
    rw [List.mapM_cons]
    exact (hf a).bind fun b => ih.bind fun bs => ok (b :: bs)

end FailsBy

end ClusterLink
