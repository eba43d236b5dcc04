/-
# Reading instructions

A stream is read instruction by instruction: a token, in any of its
spellings, or a rare instruction. Reading a frame that is cut short fails,
whatever it holds.

Key definitions: `Instruction`, `Instruction.read`.
-/
import ClusterLink.Wire.Rare
import ClusterLink.Wire.Token

namespace ClusterLink.Wire

/-- One instruction of a stream. -/
inductive Instruction
  | token (t : Token)
  | rare (r : Rare)
  deriving DecidableEq, Repr

namespace Instruction

/-- What was read, and the rest of the stream. -/
abbrev Read := Except Failure (Instruction × Bytes)

/-- A text. -/
def text (decode : Bytes → Except Failure WideText) (cut : Except Failure (Bytes × Bytes)) :
    Read := do
  let (b, rest) ← cut
  .ok (token (.text (← decode b)), rest)

/-- A byte string. -/
def octets (cut : Except Failure (Bytes × Bytes)) : Read := do
  let (b, rest) ← cut
  .ok (token (.octets b), rest)

/-- An integer without sign of `w` bytes. -/
def natural (w : Nat) (bs : Bytes) : Read := do
  let (n, rest) ← Input.number w bs
  .ok (token (.integer n), rest)

/-- An integer with sign. -/
def signed (cut : Except Failure (Bytes × Bytes)) : Read := do
  let (b, rest) ← cut
  .ok (token (.integer (Input.ofSigned b)), rest)

/-- A number under which something is remembered, of `w` bytes. -/
def reuse (w : Nat) (bs : Bytes) : Read := do
  let (i, rest) ← Input.number w bs
  .ok (token (.reuse i), rest)

/-- The greatest version of the format that is known. -/
def maxFormat : Nat := 5

/-- A version. -/
def format (bs : Bytes) : Read := do
  let (n, rest) ← Input.number 1 bs
  if maxFormat < n then .error (.wire (.badFormat (UInt8.ofNat n)))
  else .ok (token (.format (UInt8.ofNat n)), rest)

/-- The size of a frame, which is there as a whole. -/
def frame (bs : Bytes) : Read := do
  let (b, _) ← Input.longBlock (fun n => .wire (Input.excess .frameRange n)) bs
  .ok (token (.frame b.length), bs.drop 8)

/-- An integer in a line, which `mark` may end; nothing else is one. -/
def numeral (mark : List UInt8) (bs : Bytes) : Read := do
  let (b, rest) ← Input.line bs
  let digits := if b.getLast?.any mark.contains then b.dropLast else b
  match Rare.decimal? digits with
  | some n => .ok (token (.integer n), rest)
  | none => .error (.wire (.notNumeral (Rare.shownLine b)))

/-- An integer in a line, or a truth value, which is written `00` or `01`. -/
def numeralOrTruth (bs : Bytes) : Read := do
  let (b, rest) ← Input.line bs
  if b = [0x30, 0x30] ∨ b = [0x30, 0x31] then .ok (rare (.value "bool"), rest) else numeral [] bs

/-- A number under which something is remembered, in a line. -/
def reuseLine (bs : Bytes) : Read := do
  let (b, rest) ← Input.line bs
  .ok (token (.reuse (← Rare.place b)), rest)

/-- An instruction by an opcode that `Token.bytes` does not write. -/
def other (code : UInt8) (rest : Bytes) : Read :=
  match code.toNat with
  | 0x56 => text Rare.ascii (Input.line rest)
  | 0x53 => text Rare.unquoted (Input.line rest)
  | 0x55 => text Rare.ascii (Input.block 1 rest)
  | 0x54 => text Rare.ascii (Input.block 4 rest)
  | 0x49 => numeralOrTruth rest
  | 0x4c => numeral [0x4c] rest
  | 0x67 => reuseLine rest
  | n =>
    match Rare.read? n rest with
    | some cut => cut.map fun x => (rare x.1, x.2)
    | none => .error (.wire (.badOpcode code))

/-- The instruction by an opcode. -/
def behind (code : UInt8) (rest : Bytes) : Read :=
  match code.toNat with
  | 0x80 => format rest
  | 0x95 => frame rest
  | 0x8c => text Input.text (Input.block 1 rest)
  | 0x58 => text Input.text (Input.block 4 rest)
  | 0x8d =>
    text Input.text
      (Input.longBlock (fun n => .wire (Input.excess (.sizeRange "BINUNICODE") n)) rest)
  | 0x43 => octets (Input.block 1 rest)
  | 0x42 => octets (Input.block 4 rest)
  | 0x8e =>
    octets (Input.longBlock (fun n => .wire (Input.excess (.sizeRange "BINBYTES") n)) rest)
  | 0x4b => natural 1 rest
  | 0x4d => natural 2 rest
  | 0x4a => signed (Input.take 4 rest)
  | 0x8a => signed (Input.block 1 rest)
  | 0x8b => signed (Input.signedBlock rest)
  | 0x5d => .ok (token .emptyList, rest)
  | 0x29 => .ok (token .emptyTuple, rest)
  | 0x7d => .ok (token .emptyRecord, rest)
  | 0x28 => .ok (token .mark, rest)
  | 0x61 => .ok (token .append, rest)
  | 0x65 => .ok (token .appendAll, rest)
  | 0x73 => .ok (token .setField, rest)
  | 0x75 => .ok (token .setFields, rest)
  | 0x93 => .ok (token .classOf, rest)
  | 0x81 => .ok (token .newInstance, rest)
  | 0x62 => .ok (token .build, rest)
  | 0x94 => .ok (token .memoize, rest)
  | 0x68 => reuse 1 rest
  | 0x6a => reuse 4 rest
  | 0x2e => .ok (token .stop, rest)
  | _ => other code rest

/-- The first instruction, and the rest. -/
def read (bs : Bytes) : Read :=
  match bs with
  | [] => .error (.wire .outOfInput)
  | code :: rest => behind code rest

end Instruction

end ClusterLink.Wire
