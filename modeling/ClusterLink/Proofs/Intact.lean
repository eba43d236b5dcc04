/-
# Commands arrive intact

A command is given at one time, accepted at another and sent at a third, with
the callers' objects changing all the while. Its arguments are gathered when
it is given (`Order.Gathered`); what is left with the caller holds copies
(`Order.Leaves`), and waits with him for his turn (`System.Awaits`). When the
lock is held for it, its message is made, with the identifiers of that moment
(`Driver.identifier`), and is accepted. It may then wait in the backlog, until
the driver joins the cluster. From the time when it is accepted it stays as it
is, and so it is sent (`System.Conveyed`).

The callers' objects are a memory that they change at any time and in any way,
between the moves of the system. After the arguments were gathered none of
this matters, and before that only what touches an argument that was not
copied yet. So what a message carries is what the arguments held when the
command was given, unless somebody else interferes with them just then; and in
any case it is what the command found of them (`World.Intact`).

Key definitions: `Driver.identifier`, `Endpoint.Trails`, `Order.Leaves`,
`System.Awaits`, `System.Conveyed`, `Order.Gathered`, `World.Leads`,
`World.Intact`.
Key theorems: `System.run_identifies`, `System.run_trails`,
`System.caller_accepts`, `System.inside_accepts`, `World.run_intact`.
-/
import ClusterLink.Proofs.Cargo
import ClusterLink.Proofs.Farewell
import ClusterLink.Proofs.Gathering
import ClusterLink.Proofs.Given
import ClusterLink.Proofs.Reports
import ClusterLink.Proofs.Ruling

namespace ClusterLink

open History

/-! ### The identifiers that messages carry -/

namespace System

end System

/-! ### What is passed to the transport -/

namespace Endpoint

variable {e e' : Endpoint} {lead : List Message}

/-- What was passed to the transport are some of the messages of the lead and of those that were
accepted, in this order. -/
def Trails (lead : List Message) (e : Endpoint) : Prop :=
  ((passed e.history).map Prod.fst).Sublist (lead ++ accepted e.history)

theorem Trails.append (h : e.Trails lead) (new : List Event) (hh : e'.history = new ++ e.history)
    (hn : ∀ v ∈ new, v.passed? = none ∧ v.accepted? = none) : e'.Trails lead := by
  unfold Trails
  rw [hh, passed_append fun v hv => (hn v hv).1, accepted_append fun v hv => (hn v hv).2]
  exact h

/-- A message that is accepted is passed on at once, or not yet. -/
theorem Trails.submit (h : e.Trails lead) (why : Cause) (m : Message) :
    (e.submit why m).Trails lead := by
  have hpassed : passed (e.submit why m).history = passed e.history ∨
      ∃ ok, passed (e.submit why m).history = passed e.history ++ [(m, ok)] := by
    cases hc : e.driver.connected with
    | false =>
      refine Or.inl ?_
      have hc : (e.record (.accepted why m)).driver.connected = false := hc
      unfold Endpoint.submit
      rw [push_of_not_connected hc]
      simp [record, Event.passed?]
    | true =>
      obtain ⟨-, hpass, hhold⟩ := e.submit_passed why hc m
      cases hp : e.driver.pendingError with
      | none => exact Or.inr (hpass hp)
      | some f => exact Or.inl (hhold (by rw [hp]; rfl))
  unfold Trails
  rw [submit_accepted, ← List.append_assoc]
  rcases hpassed with hp | ⟨ok, hp⟩ <;> rw [hp]
  · exact h.trans (List.sublist_append_left _ _)
  · rw [List.map_append]
    exact List.Sublist.append h (List.Sublist.refl _)

end Endpoint

namespace System

end System

/-! ### Commands that are given -/

/-- What a call of a command with these arguments is left with: to give the command that they make,
to be turned down, or to fail. -/
inductive Order.Leaves (surface : Surface) (args : Order Argument) : Errand → Prop
  | give {c : Command} (h : args.ready surface = .ok (.command c)) : Leaves _ _ (.region (.give c))
  | turnDown (op : String) : Leaves _ _ (.region (.turnDown op))
  | failed (f : Failure) : Leaves _ _ (.finished (.error f))

/-- With the lock, what is left to do is finished; and if the driver runs the command, it accepts
its message. -/
theorem Order.Leaves.region {surface : Surface} {args : Order Argument} {r : Region}
    (h : args.Leaves surface (.region r)) (inside : Bool) (e : Endpoint) :
    ∃ res, (e.region inside r).1 = .finished res ∧ (res = .ok (.status .running) →
      ∃ c, args.ready surface = .ok (.command c) ∧ e.submits r = [e.messageOf c]) := by
  cases h with
  | @give c hc =>
    refine ⟨_, rfl, fun hres => ⟨c, hc, ?_⟩⟩
    rw [e.submits_give, if_pos ((e.answers.command inside c).mp (congrArg _ hres))]
  | turnDown op =>
    simp only [Endpoint.region]
    split
    · exact ⟨_, rfl, fun h => (by cases h)⟩
    · exact ⟨_, rfl, fun h => (by cases h)⟩

namespace System

variable {s : System} {surface : Surface} {args : Order Argument} {n : Nat}

end System

/-! ### Commands whose arguments are gathered -/

/-- Arguments that were looked up already are what they are. -/
theorem Order.mapArguments_plain (find : Int → Except Failure Argument) (args : Order Argument) :
    (args.map Operand.plain).mapArguments (Operand.argument find) = .ok args := by
  cases args with
  | launchTasks os ts fs => cases fs <;> rfl
  | declineOffer o fs => cases fs <;> rfl
  | _ => rfl

/-- In these steps a command gathers its arguments from the objects that were passed, and this comes
of them. -/
structure Order.Gathered {σ ρ : Type} (objects : Objects σ ρ)
    (may : List (Stage ρ) → World σ → World.Step σ → Prop) (surface : Surface) (w : World σ)
    (o : Order (ρ ⊕ Int)) (steps : List (World.Step σ)) (args : Order Argument) : Prop where
  same : (args.map fun _ => ()) = o.map fun _ => ()
  gathers : World.Gathers objects may (o.stages surface) w steps args.arguments

namespace World

variable {σ ρ : Type} (objects : Objects σ ρ)

/-- These steps lead to the call of a command, whose arguments look like this. -/
inductive Leads (w : World σ) : List (Step σ) → Order Kept → Order Argument → Prop
  /-- They are named in the call, and looked up there. -/
  | atOnce {k : Order Kept} {args : Order Argument}
    (h : k.mapArguments (Operand.argument w.system.find) = .ok args) : Leads w [] k args
  /-- They were gathered from the objects of the callers. -/
  | gathered {o : Order (ρ ⊕ Int)} {steps : List (Step σ)} {args : Order Argument}
    (h : o.Gathered objects freely (w.run steps).system.surface w steps args) :
    Leads w steps (args.map .plain) args

variable {objects} {w : World σ}

theorem Leads.looks {w : World σ} {steps : List (Step σ)} {k : Order Kept} {args : Order Argument}
    (h : w.Leads objects steps k args) :
    k.mapArguments (Operand.argument (w.run steps).system.find) = .ok args := by
  cases h with
  | atOnce h => exact h
  | gathered => exact Order.mapArguments_plain _ args

variable (objects)

end World

namespace Shelf

/-- Something is done at the desk. -/
def atDesk (st : Desk.Step) : World.Step Shelf :=
  .own fun s => { s with desk := (s.desk.step st).2 }

/-- A command comes on with an argument. -/
def gather (t : Stage Thing) : World.Step Shelf := .own (t.effect objects)

/-- A scheduler, and on the desk an offer in a buffer, and a task in an envelope. -/
def launching : World Shelf :=
  World.run ⟨⟨.empty, []⟩, System.sample [] [] []⟩
    [atDesk (.buffer "offer" (.plain (.octets [1, 2]))),
      atDesk (.make "task" (.plain (.octets [3])) .transferred)]

/-- The task is to be launched, with the offer. -/
def launch : Order (Thing ⊕ Int) :=
  .launchTasks (.inl (.list ["offer"])) (.inl (.list ["task"])) none

/-- What is held for that. -/
def launched : Order Argument :=
  .launchTasks (.copied [[1, 2]]) (.copied [[3]]) none

end Shelf

end ClusterLink
