/-
# Reading messages

A serialized message is read by running it until the first `stop`;
the message is then on top of the stack, and what follows is not looked at.
A stream that ends before is refused: at the place of an opcode for want of
input, elsewhere as cut short.

Key definitions: `run`, `decode`.
-/
import ClusterLink.Wire.Machine

namespace ClusterLink.Wire

/-- The message that a stream leaves on the stack; the fuel bounds the number of
instructions. -/
def runFor : Nat → Machine → Bytes → Except Failure Message
  | 0, _, _ => .error (.wire .outOfInput)
  | k + 1, m, bs => do
    let (i, rest) ← Instruction.read bs
    if i = .token .stop then m.result
    else
      let m ← m.run i
      runFor k m rest

/-- The message that a stream leaves on the stack. Every instruction takes a byte, so that the
fuel is enough for all of them and the end of the stream. -/
def run (bs : Bytes) : Except Failure Message := runFor (bs.length + 1) .start bs

/-- The message with the given bytes. The version is that of the first two bytes, or of what there
is of them. -/
def decode (bs : Bytes) : Except Failure Message :=
  let v := Bytes.ofBigEndian (bs.take 2)
  if v = version then run (bs.drop 2) else .error (.wire (.badVersion v))

end ClusterLink.Wire
