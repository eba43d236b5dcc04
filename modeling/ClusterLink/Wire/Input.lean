/-
# Arguments in a stream

Cutting the arguments of opcodes off a stream: so many bytes, numbers of a
fixed width, blocks behind their size, lines, and texts. Each gives what was
cut off and the rest, or tells what is wrong.

Key definitions: `Input.take`, `Input.number`, `Input.block`,
`Input.longBlock`, `Input.line`, `Input.text`, `Input.name`.
-/
import ClusterLink.Failure
import ClusterLink.Index

namespace ClusterLink.Wire.Input

/-- The first `n` bytes, and the rest. -/
def take (n : Nat) (bs : Bytes) : Except Failure (Bytes × Bytes) :=
  let a := bs.take n
  if a.length < n then .error (.wire .cutShort) else .ok (a, bs.drop n)

/-- The number whose bytes in two's complement are given, least first. -/
def ofSigned (bs : Bytes) : Int :=
  let n := Bytes.ofLittleEndian bs
  if 2 * n < Bytes.room bs.length then n else (n : Int) - Bytes.room bs.length

/-- A number of `w` bytes, and the rest. -/
def number (w : Nat) (bs : Bytes) : Except Failure (Nat × Bytes) := do
  let (a, rest) ← take w bs
  .ok (Bytes.ofLittleEndian a, rest)

/-- A number with sign of `w` bytes, and the rest. -/
def signedNumber (w : Nat) (bs : Bytes) : Except Failure (Int × Bytes) := do
  let (a, rest) ← take w bs
  .ok (ofSigned a, rest)

/-- So many bytes as a number of `w` bytes says, and the rest. -/
def block (w : Nat) (bs : Bytes) : Except Failure (Bytes × Bytes) := do
  let (n, rest) ← number w bs
  take n rest

/-- The greatest size that can be within reach behind an opcode and a size of eight bytes. -/
def reach : Nat := 0x8000000000000000 - 10

/-- What is wrong with a size that is more than what is left; `range` is the fault of one that is
no size at all. -/
def excess (range : Fault) (n : Nat) : Fault :=
  if 0x8000000000000000 ≤ n then range else if reach < n then .beyondReach else .cutShort

/-- What is wrong with such a size if room is made before anything is read. -/
def excessRoom (range : Fault) (n : Nat) : Failure :=
  if 0x8000000000000000 ≤ n then .wire range
  else if Index.memory ≤ n then .outOfMemory
  else .wire .cutShort

/-- A block behind a size of eight bytes; `wrong` tells what is wrong with a size that is more than
what is left. -/
def longBlock (wrong : Nat → Failure) (bs : Bytes) : Except Failure (Bytes × Bytes) := do
  let (n, rest) ← number 8 bs
  match take n rest with
  | .ok cut => .ok cut
  | .error _ => .error (wrong n)

/-- A block behind a size with sign of four bytes. -/
def signedBlock (bs : Bytes) : Except Failure (Bytes × Bytes) := do
  let (n, rest) ← signedNumber 4 bs
  if n < 0 then .error (.wire .negativeSize) else take n.toNat rest

/-- A line without its end. An empty line counts as cut short. -/
def line (bs : Bytes) : Except Failure (Bytes × Bytes) :=
  let a := bs.takeWhile (· != 10)
  if a = [] ∨ a.length = bs.length then .error (.wire .cutShort)
  else .ok (a, bs.drop (a.length + 1))

/-- A text from its bytes. -/
def text (b : Bytes) : Except Failure WideText :=
  match WideText.ofBytes? b with
  | some t => .ok t
  | none => .error (.wire .noMessage)

/-- A text that names something, which has no surrogates. -/
def name (t : WideText) : Except Failure String :=
  match t.plain? with
  | some s => .ok s
  | none => .error (.wire .noMessage)

@[simp] theorem name_ofString (s : String) : name s = .ok s := by
  unfold name
  rw [WideText.plain?_ofString]

end ClusterLink.Wire.Input
