/-
# Frames

The bytes of a serialized message are gathered into frames, so that a reader
can fetch them in large pieces. A frame is closed where the next object
begins once it holds 64 KiB; a token with that much content stands outside
of all frames, and the next token opens a new one. A frame of less than four
bytes is not worth its header, and its bytes stand alone.

Key definitions: `Framing`, `Framing.close`, `Framing.put`, `framed`.
-/
import ClusterLink.Wire.Token

namespace ClusterLink.Wire

/-- The content at which a frame is closed. -/
def frameTarget : Nat := 64 * 1024

/-- The least content of a frame. -/
def frameMinimum : Nat := 4

/-- What was written, and the content of the open frame, if one is open; both in pieces, the last
one first. -/
structure Framing where
  written : List Bytes
  «open» : Option (List Bytes)

namespace Framing

/-- Nothing written yet. -/
def start : Framing := ⟨[], none⟩

/-- The number of bytes in pieces. -/
def sizeOf (pieces : List Bytes) : Nat := pieces.foldl (fun n p => n + p.length) 0

/-- The open frame is written. -/
def close (f : Framing) : Framing :=
  match f.open with
  | none => f
  | some pieces =>
    let n := sizeOf pieces
    let header := if frameMinimum ≤ n then [(Token.frame n).bytes] else []
    ⟨pieces ++ header ++ f.written, none⟩

/-- The open frame is written if it holds enough, since an object begins here. -/
def boundary (f : Framing) : Framing :=
  match f.open with
  | none => f
  | some pieces => if frameTarget ≤ sizeOf pieces then f.close else f

/-- The size of the content of a token that counts for standing outside of frames. -/
def contentSize : Token → Nat
  | .text t => t.bytes.length
  | .octets b => b.length
  | _ => 0

/-- A token is written: into the open frame, or outside of all if its content is large. -/
def put (f : Framing) (t : Token) : Framing :=
  if frameTarget ≤ contentSize t then
    let f := f.close
    { f with written := t.bytes :: f.written }
  else { f with «open» := some (t.bytes :: f.open.getD []) }

/-- All bytes, in order. -/
def result (f : Framing) : Bytes := f.close.written.reverse.flatten

end Framing

/-- The bytes of a stream of tokens, which comes in groups: an object begins with each group. -/
def framed (groups : List (List Token)) : Bytes :=
  (groups.foldl (fun f g => g.foldl Framing.put f.boundary) Framing.start).result

end ClusterLink.Wire
