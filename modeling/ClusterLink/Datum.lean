/-
# Structured values

What a caller may hand over without the library knowing its type: a
setting that was not checked yet, or the payload that is echoed back on
every callback. Integers and real numbers are kept apart, since settings
treat them differently.

Key definitions: `Datum`, `Datum.isTrue`, `Datum.field?`.
-/
import ClusterLink.Double

namespace ClusterLink

/-- A structured value. -/
inductive Datum
  | null
  | bool (b : Bool)
  | integer (n : Int)
  | real (x : Double)
  | text (s : String)
  | list (xs : List Datum)
  | record (fields : List (String × Datum))
  deriving Repr, Inhabited

namespace Datum

/-- Whether the value counts as true: all but null, false, nought and what is empty. -/
def isTrue : Datum → Bool
  | null => false
  | bool b => b
  | integer n => decide (n ≠ 0)
  | real x => !x.isZero
  | text s => !s.isEmpty
  | list xs => !xs.isEmpty
  | record fs => !fs.isEmpty

/-- The field of a record, if there is one of that name. -/
def field? (fields : List (String × Datum)) (name : String) : Option Datum :=
  (fields.find? fun f => f.1 = name).map (·.2)

end Datum

end ClusterLink
