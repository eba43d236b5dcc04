/-
# The ledger of status updates

The status updates that an executor sent and its agent did not acknowledge
yet, in the order in which they were issued, each with the time at which it
was last handed over for sending. An update is found by its identifier; one
that is put under an identifier in use takes the place of the former.

Key definitions: `Update`, `Ledger`, `Ledger.put`, `Ledger.remove?`.
-/
import ClusterLink.Message

namespace ClusterLink

/-- A status update that was not acknowledged. -/
structure Update where
  uuid : Bytes
  status : Bytes
  /-- When it was last handed over, in nanoseconds. -/
  stamp : Int
  deriving DecidableEq, Repr, Inhabited

/-- The message that carries the update. -/
def Update.message (u : Update) : Message := .statusUpdate u.status u.uuid

/-- The updates in flight, in order of issue. -/
abbrev Ledger := List Update

namespace Ledger

/-- Whether an update is in flight under the identifier. -/
def holds (l : Ledger) (uuid : Bytes) : Bool := l.any fun u => u.uuid = uuid

/-- The ledger with an update. -/
def put (l : Ledger) (u : Update) : Ledger :=
  if l.holds u.uuid then l.map fun v => if v.uuid = u.uuid then u else v else l ++ [u]

/-- The ledger without the update of an identifier, if there is one. -/
def remove? (l : Ledger) (uuid : Bytes) : Option Ledger :=
  if l.holds uuid then some (l.filter fun u => u.uuid ≠ uuid) else none

theorem holds_eq_false_iff {l : Ledger} {uuid : Bytes} :
    l.holds uuid = false ↔ ∀ u ∈ l, u.uuid ≠ uuid := by
  simp [holds]

/-- An update under a new identifier comes last. -/
theorem put_of_not_holds {l : Ledger} {u : Update} (h : l.holds u.uuid = false) :
    l.put u = l ++ [u] := by
  simp [put, h]

/-- Removing succeeds exactly for identifiers in flight. -/
theorem remove?_eq_none_iff {l : Ledger} {uuid : Bytes} :
    l.remove? uuid = none ↔ l.holds uuid = false := by
  unfold remove?
  split <;> simp_all

/-- What is left is what has other identifiers. -/
theorem eq_filter_of_remove? {l rest : Ledger} {uuid : Bytes} (h : l.remove? uuid = some rest) :
    rest = l.filter fun u => u.uuid ≠ uuid := by
  unfold remove? at h
  split at h
  · exact (Option.some.inj h).symm
  · cases h

end Ledger

end ClusterLink
