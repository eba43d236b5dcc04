/-
# Writing messages

A message is written as an instance of its class with the record of its
fields. Every object but numbers and the empty tuple is remembered under the
next number, and byte strings of at most one byte, of which equal ones are
one object, are recalled when they come again. The elements of a list are
appended in batches of 1000; a list of one element takes a token of its own.

The stream begins with the version of the messages, two bytes, and the
version of the format, which stands outside of the frames.

Key definitions: `Memo`, `groups`, `encode`.
-/
import ClusterLink.Message
import ClusterLink.Wire.Frame

namespace ClusterLink.Wire

/-- The version of the messages. -/
def version : Nat := 1

/-- The version of the format, in front of the frames. -/
def formatVersion : UInt8 := 4

/-- The module that the classes of messages are in. -/
def moduleName : String := "mesosbridge.msg"

/-- The most elements that are appended at once. -/
def batchSize : Nat := 1000

/-- How many objects are remembered, and which short byte strings under which numbers. -/
structure Memo where
  count : Nat
  short : List (Bytes × Nat)

namespace Memo

/-- One more object is remembered. -/
def add (m : Memo) : Memo := { m with count := m.count + 1 }

/-- A byte string: its tokens, and what is remembered after it. -/
def octets (m : Memo) (b : Bytes) : List Token × Memo :=
  if b.length ≤ 1 then
    match m.short.find? fun e => e.1 = b with
    | some e => ([.reuse e.2], m)
    | none => ([.octets b, .memoize], ⟨m.count + 1, (b, m.count) :: m.short⟩)
  else ([.octets b, .memoize], m.add)

/-- Several byte strings, a group each; the last of them is followed by the tokens `last`. -/
def batch (m : Memo) (last : List Token) : List Bytes → List (List Token) × Memo
  | [] => ([], m)
  | [b] => let (ts, m) := m.octets b; ([ts ++ last], m)
  | b :: bs =>
    let (ts, m) := m.octets b
    let (gs, m) := m.batch last bs
    (ts :: gs, m)

end Memo

/-- Consecutive parts of at most `n` elements; the fuel `k` bounds their number. -/
def chunks (n : Nat) : Nat → List Bytes → List (List Bytes)
  | 0, _ => []
  | _, [] => []
  | k + 1, bs => bs.take n :: chunks n k (bs.drop n)

/-- The groups of the batches of a list. The first batch is preceded by a mark in the group before
it; every other batch has its mark behind the batch before. -/
def batches (m : Memo) : List (List Bytes) → List (List Token) × Memo
  | [] => ([], m)
  | [c] => m.batch [.appendAll] c
  | c :: cs =>
    let (gs, m) := m.batch [.appendAll, .mark] c
    let (hs, m) := batches m cs
    (gs ++ hs, m)

/-- The groups of a list of byte strings. -/
def listGroups (m : Memo) (bs : List Bytes) : List (List Token) × Memo :=
  let m := m.add
  match bs with
  | [] => ([[.emptyList, .memoize]], m)
  | [b] =>
    let (gs, m) := m.batch [.append] [b]
    ([.emptyList, .memoize] :: gs, m)
  | bs =>
    let (gs, m) := batches m (chunks batchSize bs.length bs)
    ([.emptyList, .memoize, .mark] :: gs, m)

/-- The groups of a field's content. -/
def fieldGroups (m : Memo) : Field → List (List Token) × Memo
  | .octets b => let (ts, m) := m.octets b; ([ts], m)
  | .batch bs => listGroups m bs
  | .text s => ([[.text s, .memoize]], m.add)
  | .integer n => ([[.integer n]], m)

/-- The groups of the names and contents of fields. -/
def recordGroups (m : Memo) : List (String × Field) → List (List Token)
  | [] => []
  | (name, f) :: fs =>
    let (gs, m) := fieldGroups m.add f
    [.text name, .memoize] :: gs ++ recordGroups m fs

/-- The groups with tokens behind the last one. -/
def closeWith (last : List Token) : List (List Token) → List (List Token)
  | [] => [last]
  | [g] => [g ++ last]
  | g :: gs => g :: closeWith last gs

/-- The groups of a message: its class, an instance of it, and the record of its fields. Before
the fields, five objects are remembered: two names, the class, the instance and the record. -/
def groups (m : Message) : List (List Token) :=
  let head := [[.text moduleName, .memoize], [.text m.className, .memoize, .classOf, .memoize]]
  let memo : Memo := ⟨5, []⟩
  match m.fields with
  | [] => head ++ [[.emptyTuple, .newInstance, .memoize, .stop]]
  | [f] =>
    head ++ [[.emptyTuple, .newInstance, .memoize], [.emptyRecord, .memoize]] ++
      closeWith [.setField, .build, .stop] (recordGroups memo [f])
  | fs =>
    head ++ [[.emptyTuple, .newInstance, .memoize], [.emptyRecord, .memoize, .mark]] ++
      closeWith [.setFields, .build, .stop] (recordGroups memo fs)

/-- The bytes of a message. -/
def encode (m : Message) : Bytes :=
  Bytes.bigEndian 2 version ++ (Token.format formatVersion).bytes ++ framed (groups m)

end ClusterLink.Wire
