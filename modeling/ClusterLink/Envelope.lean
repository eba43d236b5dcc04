/-
# Envelopes and arguments

An envelope carries one serialized message across the boundary. Its bytes
are copied when it is made, so that they and their number are fixed before
anyone sees it. Once released it holds nothing, and every read is misuse.

A caller hands over arguments of any type. `Argument.copyIn` is the only way
in for a command: it takes envelopes, byte strings, buffers and views, and
copies what they hold at that moment, so that nothing the caller does to
them later matters. Sequences of arguments are copied element by element,
and the first element that is refused decides (`Argument.copyInAll`).

Key definitions: `Envelope`, `Envelope.read`, `Envelope.released`,
`Argument`, `Argument.copyIn`, `Argument.elements`, `Argument.copyInAll`,
`Argument.toBytes`, `Argument.toBuffer`, `Argument.shown`.
-/
import ClusterLink.Index

namespace ClusterLink

/-- One serialized message, and who may use it. -/
structure Envelope where
  data : Bytes
  ownership : Ownership
  released : Bool
  deriving DecidableEq, Repr, Inhabited

namespace Envelope

/-- A fresh envelope. -/
def fresh (data : Bytes) (ownership : Ownership) : Envelope := ⟨data, ownership, false⟩

/-- The envelope after its release. -/
def release (e : Envelope) : Envelope := { e with data := [], released := true }

/-- The bytes of the envelope, while it is not released. -/
def read (e : Envelope) : Except Failure Bytes :=
  if e.released then .error (.released e.ownership) else .ok e.data

/-- The bytes of a transferred envelope, for a receiver that takes it over. -/
def reclaim (e : Envelope) : Except Failure Bytes :=
  if e.ownership = .transferred then e.read else .error (.notTransferred e.ownership)

/-- How the envelope is shown; this is no access to its bytes. -/
def shown (e : Envelope) : String :=
  if e.released then "Envelope(<released " ++ e.ownership.name ++ ">)"
  else "Envelope(size=" ++ toString e.data.length ++ ", " ++ e.ownership.name ++ ")"

@[simp] theorem read_fresh (d : Bytes) (o : Ownership) : (fresh d o).read = .ok d := rfl

@[simp] theorem read_release (e : Envelope) : e.release.read = .error (.released e.ownership) := rfl

end Envelope

/-- An argument of a call, as it is when the call is made. -/
inductive Argument
  | none
  | text (s : String)
  | number (n : Int)
  | list (xs : List Argument)
  /-- A byte string. -/
  | octets (b : Bytes)
  /-- A buffer that its holder may write to. -/
  | buffer (b : Bytes)
  /-- A view of the bytes of something else; nothing if it was released. -/
  | view (content : Option Bytes)
  | envelope (e : Envelope)
  deriving Repr, Inhabited

namespace Argument

/-- The name of the argument's type. -/
def typeName : Argument → String
  | none => "NoneType"
  | text _ => "str"
  | number _ => "int"
  | list _ => "list"
  | octets _ => "bytes"
  | buffer _ => "bytearray"
  | view _ => "memoryview"
  | envelope _ => "Envelope"

/-- The name of the argument's type, with the module it is of. -/
def fullTypeName : Argument → String
  | envelope _ => "mesosbridge.envelope.Envelope"
  | a => a.typeName

/-- The bytes of a view. -/
def readView (content : Option Bytes) : Except Failure Bytes :=
  match content with
  | some b => .ok b
  | Option.none => .error .viewReleased

/-- The bytes of an argument that carries a message. -/
def copyIn : Argument → Except Failure Bytes
  | envelope e => e.read
  | octets b => .ok b
  | buffer b => .ok b
  | view c => readView c
  | a => .error (.notBytes a.fullTypeName)

/-- The elements of a sequence: of bytes the numbers, of a text the characters. -/
def elements : Argument → Except Failure (List Argument)
  | list xs => .ok xs
  | octets b => .ok (b.map fun x => number x.toNat)
  | buffer b => .ok (b.map fun x => number x.toNat)
  | view c => (readView c).map fun b => b.map fun x => number x.toNat
  | text s => .ok (s.toList.map fun c => text (String.singleton c))
  | a => .error (.notIterable a.typeName)

/-- The bytes of all elements of a sequence of arguments that carry messages. -/
def copyInAll (a : Argument) : Except Failure (List Bytes) := do
  let xs ← a.elements
  xs.mapM copyIn

/-- The bytes of an optional argument: none at all are those of nothing. -/
def copyInOptional : Option Argument → Except Failure Bytes
  | Option.none | some none => .ok []
  | some a => a.copyIn

/-- So many zero bytes. -/
def zeros (n : Int) : Except Failure Bytes :=
  if Index.isSize n = false then .error .countRange
  else if n < 0 then .error .negativeCount
  else if Index.memory ≤ n then .error .outOfMemory
  else .ok (List.replicate n.toNat 0)

/-- One byte of a list of numbers; a number out of range is the failure given. -/
def toByte (range : Failure) : Argument → Except Failure UInt8
  | number n => if 0 ≤ n ∧ n < 256 then .ok (UInt8.ofNat n.toNat) else .error range
  | a => .error (.elementNotInteger a.typeName)

/-- The bytes that an envelope is made of: a number asks for so many zero bytes. -/
def toBytes : Argument → Except Failure Bytes
  | none => .error (.notConvertible "NoneType" "bytes")
  | text _ => .error .noEncoding
  | number n =>
    if Index.maxLength < n ∧ Index.isSize n = true then .error .stringTooLong else zeros n
  | list xs => xs.mapM (toByte .elementRange)
  | a => a.copyIn

/-- The bytes that a buffer is made of, which takes no envelope. -/
def toBuffer : Argument → Except Failure Bytes
  | text _ => .error .noEncoding
  | number n => zeros n
  | list xs => xs.mapM (toByte .byteRange)
  | none => .error (.notConvertible "NoneType" "bytearray")
  | envelope _ => .error (.notConvertible "Envelope" "bytearray")
  | a => a.copyIn

/-- The most digits that a number can be shown with. -/
def maxDigits : Nat := 4300

/-- How a number is shown inside a message, unless it has too many digits. -/
def shownNumber (n : Int) : Except Failure String :=
  if maxDigits < (Nat.toDigits 10 n.natAbs).length then .error .longNumber else .ok (toString n)

/-- How a buffer is shown inside a message. -/
def shownBuffer (b : Bytes) : String := "bytearray(" ++ Text.quotedBuffer b ++ ")"

/-- How a view is shown inside a message, of which only tells whether it was released. -/
def shownView (content : Option Bytes) : String :=
  if content.isSome then "<memory>" else "<released memory>"

/-- How an argument is shown inside a message, unless it holds a number that cannot be. -/
def shown : Argument → Except Failure String
  | none => .ok "None"
  | text s => .ok (Text.quoted s)
  | number n => shownNumber n
  | list xs => (shownAll xs).map fun ss => "[" ++ ", ".intercalate ss ++ "]"
  | octets b => .ok (Text.quotedBytes b)
  | buffer b => .ok (shownBuffer b)
  | view c => .ok (shownView c)
  | envelope e => .ok e.shown
where
  /-- How the elements of a list are shown. -/
  shownAll : List Argument → Except Failure (List String)
    | [] => .ok []
    | x :: xs => do
      let s ← shown x
      let ss ← shownAll xs
      .ok (s :: ss)

end Argument

end ClusterLink
