/-
# Answers

What a call returns when it succeeds.

Key definition: `Answer`.
-/
import ClusterLink.Datum
import ClusterLink.Lifecycle
import ClusterLink.Message

namespace ClusterLink

/-- The result of a call. -/
inductive Answer
  | nothing
  | number (n : Int)
  | truth (b : Bool)
  | text (s : String)
  | octets (b : Bytes)
  | batch (bs : List Bytes)
  | datum (d : Datum)
  | status (s : Status)
  | state (s : Lifecycle)
  /-- Status updates in flight: identifier, status, and time of the last send. -/
  | updates (us : List (Bytes × Bytes × Int))
  | messages (ms : List Message)
  deriving Repr, Inhabited

end ClusterLink
