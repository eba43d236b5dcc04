/-
# Operands

An argument as it is written down, before the call is made: it may name an
object that the caller holds, whose state is only looked at when the call is
made. `ρ` is the type of such names. All operands of a call become arguments
before anything else is done, in order; one that cannot is the failure of
the call.

Key definitions: `Operand`, `Operand.argument`.
-/
import ClusterLink.Envelope
import ClusterLink.Envelope.Records

namespace ClusterLink

/-- An argument as it is written down. -/
inductive Operand (ρ : Type)
  | plain (a : Argument)
  | held (r : ρ)
  | list (xs : List (Operand ρ))
  /-- An envelope with the packed sequence of the elements. -/
  | packed (xs : List (Operand ρ))
  deriving Repr, Inhabited

namespace Operand

variable {ρ : Type} (find : ρ → Except Failure Argument)

/-- The bytes of the elements of a sequence, one after the other. -/
def copyAll (xs : List Argument) : Except Failure (List Bytes) := xs.mapM Argument.copyIn

mutual

/-- The argument that is meant, the names being looked up. -/
def argument : Operand ρ → Except Failure Argument
  | plain a => .ok a
  | held r => find r
  | list xs => (arguments xs).map .list
  | packed xs => do
    let bs ← copyAll (← arguments xs)
    .ok (.envelope (.fresh (Records.pack bs) .owned))

/-- The arguments that are meant by several operands. -/
def arguments : List (Operand ρ) → Except Failure (List Argument)
  | [] => .ok []
  | x :: xs => do
    let a ← argument x
    let as ← arguments xs
    .ok (a :: as)

end

end Operand

end ClusterLink
