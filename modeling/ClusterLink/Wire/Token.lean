/-
# Tokens of the wire format

A serialized message is a program for a small stack machine, token by token.
A token is an opcode of one byte and, for some opcodes, an argument of fixed
or stated size. Lengths and small numbers have several spellings, of which
`Token.bytes` writes the shortest one.

A frame is a token too: it states how many bytes follow that belong
together.

Key definitions: `Token`, `Token.bytes`.
-/
import ClusterLink.Text.Wide

namespace ClusterLink.Wire

/-- One instruction of the stack machine. -/
inductive Token
  /-- The version of the format. -/
  | format (version : UInt8)
  /-- The next so many bytes belong together. -/
  | frame (size : Nat)
  | text (t : WideText)
  | octets (b : Bytes)
  | integer (n : Int)
  | emptyList
  | emptyTuple
  | emptyRecord
  | mark
  /-- Append one element, or all down to the mark. -/
  | append
  | appendAll
  /-- Set one field of a record, or all down to the mark. -/
  | setField
  | setFields
  /-- A class, by the module and the name on the stack. -/
  | classOf
  | newInstance
  /-- Give the instance on the stack the fields of the record above it. -/
  | build
  /-- Remember the top of the stack under the next number. -/
  | memoize
  /-- Push what is remembered under a number. -/
  | reuse (i : Nat)
  | stop
  deriving DecidableEq, Repr

namespace Token

/-! ### Numbers -/

/-- The bytes of a number in two's complement, least first, in `w` bytes. -/
def signed (w : Nat) (n : Int) : Bytes :=
  Bytes.littleEndian w (n % Bytes.room w).toNat

/-- The fewest bytes that hold a number in two's complement. -/
def signedSize (n : Int) : Nat :=
  let magnitude := if 0 ≤ n then n.toNat else (-n - 1).toNat
  if magnitude = 0 then 1 else (Nat.log2 magnitude + 1) / 8 + 1

/-! ### Writing -/

/-- A length with the opcode for its size: up to 255, up to 32 bits, or beyond. -/
def sized (short medium long : UInt8) (n : Nat) : Bytes :=
  if n < 0x100 then short :: Bytes.littleEndian 1 n
  else if n < 0x100000000 then medium :: Bytes.littleEndian 4 n
  else long :: Bytes.littleEndian 8 n

/-- The token of an integer. -/
def integerBytes (n : Int) : Bytes :=
  if 0 ≤ n ∧ n < 0x100 then 0x4b :: Bytes.littleEndian 1 n.toNat
  else if 0 ≤ n ∧ n < 0x10000 then 0x4d :: Bytes.littleEndian 2 n.toNat
  else if -0x80000000 ≤ n ∧ n < 0x80000000 then 0x4a :: signed 4 n
  else
    let w := signedSize n
    if w < 0x100 then 0x8a :: Bytes.littleEndian 1 w ++ signed w n
    else 0x8b :: Bytes.littleEndian 4 w ++ signed w n

/-- The bytes of a token. -/
def bytes : Token → Bytes
  | format v => [0x80, v]
  | frame n => 0x95 :: Bytes.littleEndian 8 n
  | text t => sized 0x8c 0x58 0x8d t.bytes.length ++ t.bytes
  | octets b => sized 0x43 0x42 0x8e b.length ++ b
  | integer n => integerBytes n
  | emptyList => [0x5d]
  | emptyTuple => [0x29]
  | emptyRecord => [0x7d]
  | mark => [0x28]
  | append => [0x61]
  | appendAll => [0x65]
  | setField => [0x73]
  | setFields => [0x75]
  | classOf => [0x93]
  | newInstance => [0x81]
  | build => [0x62]
  | memoize => [0x94]
  | reuse i => if i < 0x100 then 0x68 :: Bytes.littleEndian 1 i else 0x6a :: Bytes.littleEndian 4 i
  | stop => [0x2e]

end Token

end ClusterLink.Wire
