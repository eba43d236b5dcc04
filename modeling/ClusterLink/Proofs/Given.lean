/-
# What a driver is given

The settings and identifiers that a driver is made with stay as they are,
whatever happens to it. Only a scheduler's framework identifier does not,
since it is told that one when it is registered.

Key definition: `Driver.given`.
Key theorems: `Endpoint.Passage.given`, `System.run_given`.
-/
import ClusterLink.Proofs.Passage

namespace ClusterLink

/-- What a driver keeps from its making on. -/
structure Given where
  settings : Settings
  executorId : Bytes
  /-- The framework identifier of an executor. -/
  frameworkId : Option Bytes

/-- What the driver was given. -/
def Driver.given (d : Driver) : Given where
  settings := d.settings
  executorId := d.executorId
  frameworkId :=
    match d.role with
    | .scheduler => none
    | .executor => some d.frameworkId

namespace Endpoint

variable {e e' : Endpoint}

theorem push_given (e : Endpoint) (m : Message) : (e.push m).driver.given = e.driver.given := by
  obtain ⟨b, p, h⟩ := e.push_driver m
  rw [h]
  rfl

theorem Work.given (h : Work e e') : e'.driver.given = e.driver.given := by
  cases h with
  | identify f hr => simp [Driver.given, hr]
  | submit why => exact push_given _ _
  | again => exact push_given _ _
  | _ => rfl

theorem enter_given (e : Endpoint) : e.enter.2.driver.given = e.driver.given := by
  rcases e.enter_cases with ⟨-, h⟩ | ⟨-, f, -, h⟩ | ⟨-, replyTo, -, h⟩ <;> rw [h]
  · rfl
  · rfl
  · obtain ⟨b, p, hd⟩ := e.flush_driver replyTo
    show (e.flush replyTo).driver.given = _
    rw [hd]
    rfl

theorem settle_given (e : Endpoint) (uuid : Bytes) :
    (e.settle uuid).driver.given = e.driver.given := by
  unfold settle
  split <;> rfl

theorem Passage.given {told : List Event} (h : Passage e told e') :
    e'.driver.given = e.driver.given := by
  induction h with
  | work _ hw ih => exact hw.given.trans ih
  | settle _ f u _ _ ih => exact (settle_given _ u).trans ih
  | issue _ status _ ih => exact (push_given _ _).trans ih
  | enter _ _ ih => exact (enter_given _).trans ih
  | rest => rfl
  | tale _ _ ih => exact ih
  | tell _ _ _ _ ih => exact ih
  | finish _ _ _ ih => exact ih

/-- Of two endpoints whose drivers were given the same, the age for sending again is the same. -/
theorem resendAge_of_given (h : e'.driver.given = e.driver.given) : e'.resendAge = e.resendAge := by
  unfold resendAge
  rw [show e'.driver.settings = e.driver.settings from congrArg Given.settings h]

end Endpoint

namespace System

variable {s : System}

theorem step_given (h : s.Sound) (m : Move) : (s.step m).driver.given = s.driver.given := by
  by_cases ht : ∃ nanos, m = .elapse nanos
  · obtain ⟨nanos, rfl⟩ := ht
    rfl
  · exact (step_passage h fun nanos hm => ht ⟨nanos, hm⟩).given

/-- What the driver was given is the same throughout every run. -/
theorem run_given (h : s.Sound) (moves : List Move) :
    (s.run moves).driver.given = s.driver.given :=
  run_invariant (P := fun t => t.driver.given = s.driver.given)
    (fun _ m ht hd => (step_given ht m).trans hd) h rfl moves

end System

end ClusterLink
