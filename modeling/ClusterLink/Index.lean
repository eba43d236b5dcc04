/-
# Indices

How a number names a place in a row, or two numbers a part of it. A negative
number counts from the end. A place has to exist, and its number has to be
one that a size can be; a part is cut down to what there is, whatever the
numbers are.

Key definitions: `Index.isSize`, `Index.place`, `Index.part`.
-/
import ClusterLink.Failure

namespace ClusterLink.Index

/-- Whether a number is in the range of sizes and indices, which have 64 bits. -/
def isSize (n : Int) : Bool := decide (-0x8000000000000000 ≤ n) && decide (n < 0x8000000000000000)

/-- The most bytes that a byte string may have. -/
def maxLength : Int := 0x8000000000000000 - 34

/-- The number of bytes that is more than there is memory for. -/
def memory : Int := 0x1000000000

/-- An index counted from the start of a row of length `n`. -/
def fromStart (n : Nat) (i : Int) : Int := if i < 0 then i + n else i

/-- The place of an index in a row of length `n`; `beyond` is the failure of one outside. -/
def place (n : Nat) (beyond : Failure) (i : Int) : Except Failure Nat :=
  if isSize i = false then .error .indexRange
  else if 0 ≤ fromStart n i ∧ fromStart n i < n then .ok (fromStart n i).toNat
  else .error beyond

/-- Where a bound of a part falls in a row of length `n`. -/
def cut (n : Nat) (i : Int) : Nat := if i < 0 then (i + n).toNat else min i.toNat n

/-- The part of a row from `first` on, and before `last`; either may be left open. -/
def part {α : Type} (xs : List α) (first last : Option Int) : List α :=
  let n := xs.length
  (xs.take ((last.map (cut n)).getD n)).drop ((first.map (cut n)).getD 0)

end ClusterLink.Index
