/-
# The store of envelopes

Envelopes are shared: a callback may keep one, or a view of one, beyond the
call it was lent for. The store holds the state of all envelopes and views
under numbers that are never reused. Releasing an envelope also ends its
views; a slice of a view is a view of its own, bound to no envelope.

Key definitions: `View`, `Store`, `Store.lend`, `Store.release`,
`Store.lendEach`, `Store.view`, `Store.slice`, `Store.reclaim`, `Object`,
`Query`, `Store.ask`.
-/
import ClusterLink.Answer
import ClusterLink.Envelope

namespace ClusterLink

/-- A read-only view of some bytes; nothing once it was released. -/
structure View where
  /-- The envelope that it is released with. -/
  owner : Option Nat
  content : Option Bytes
  deriving DecidableEq, Repr, Inhabited

/-- All envelopes and views. -/
structure Store where
  envelopes : List Envelope
  views : List View
  deriving DecidableEq, Repr, Inhabited

/-- Something that a caller holds. -/
inductive Object
  | envelope (id : Nat)
  | view (id : Nat)
  | buffer (b : Bytes)
  deriving DecidableEq, Repr, Inhabited

/-- A question to an object. -/
inductive Query
  | size | length | bytes | copy | isAbsent | truth | ownership | released | shown | hash
  | reclaim | readOnly
  deriving DecidableEq, Repr, Inhabited

/-- The name of the object's type. -/
def Object.typeName : Object → String
  | envelope _ => "Envelope"
  | view _ => "memoryview"
  | buffer _ => "bytearray"

/-- The failure of an object that is asked for something that its type does not have. -/
def Object.lacks (o : Object) (member : String) : Failure :=
  .noMember ("'" ++ o.typeName ++ "' object") member

/-- The name of what is asked for. -/
def Query.member : Query → String
  | size => "size"
  | length => "len"
  | bytes => "bytes"
  | copy => "tobytes"
  | isAbsent => "is_absent"
  | truth => "bool"
  | ownership => "ownership"
  | released => "released"
  | shown => "repr"
  | hash => "hash"
  | reclaim => "reclaim"
  | readOnly => "readonly"

namespace Store

/-- The empty store. -/
def empty : Store := ⟨[], []⟩

/-- The envelope of that number. -/
def envelope (s : Store) (id : Nat) : Envelope := s.envelopes.getD id ⟨[], .owned, true⟩

/-- The bytes that a view shows, while it is not released. -/
def seen (s : Store) (id : Nat) : Option Bytes := (s.views.getD id ⟨none, none⟩).content

/-- The store with one more envelope, and its number. -/
def add (s : Store) (e : Envelope) : Nat × Store :=
  (s.envelopes.length, { s with envelopes := s.envelopes ++ [e] })

/-- The store with borrowed envelopes of the payloads, and their numbers. -/
def lend (s : Store) : List Bytes → List Nat × Store
  | [] => ([], s)
  | p :: ps =>
    let (id, s) := s.add (.fresh p .borrowed)
    let (ids, s) := s.lend ps
    (id :: ids, s)

/-- The store after the release of an envelope, which ends its views. -/
def release (s : Store) (id : Nat) : Store where
  envelopes := s.envelopes.modify id Envelope.release
  views := s.views.map fun v => if v.owner = some id then { v with content := none } else v

/-- The store after the release of several envelopes, the last one first. -/
def releaseAll (s : Store) (ids : List Nat) : Store := ids.foldr (fun id s => s.release id) s

/-- Borrowed envelopes of the arguments are made one after the other, beside those `lent` so far.
An argument that cannot be converted ends that, and all that was lent is released. -/
def lendEach (s : Store) (lent : List Nat) : List Argument → Except Failure (List Nat) × Store
  | [] => (.ok lent, s)
  | a :: as =>
    match a.toBytes with
    | .error f => (.error f, s.releaseAll lent)
    | .ok b =>
      let (id, s) := s.add (.fresh b .borrowed)
      s.lendEach (lent ++ [id]) as

/-- A view of an envelope. -/
def view (s : Store) (id : Nat) : Except Failure (Nat × Store) := do
  let data ← (s.envelope id).read
  .ok (s.views.length, { s with views := s.views ++ [⟨some id, some data⟩] })

/-- A view of a part of what a view shows. -/
def slice (s : Store) (id : Nat) (first last : Option Int) : Except Failure (Nat × Store) := do
  let data ← Argument.readView (s.seen id)
  .ok (s.views.length, { s with views := s.views ++ [⟨none, some (Index.part data first last)⟩] })

/-- The bytes of an envelope that its receiver takes over, which releases it. -/
def reclaim (s : Store) (id : Nat) : Except Failure Bytes × Store :=
  match (s.envelope id).reclaim with
  | .ok data => (.ok data, s.release id)
  | .error f => (.error f, s)

/-- What an object is as the argument of a call. -/
def argument (s : Store) : Object → Argument
  | .envelope id => .envelope (s.envelope id)
  | .view id => .view (s.seen id)
  | .buffer b => .buffer b

/-- The answer of an envelope to a question. -/
def askEnvelope (s : Store) (id : Nat) (q : Query) : Except Failure Answer × Store :=
  let e := s.envelope id
  match q with
  | .size | .length => (e.read.map fun d => .number d.length, s)
  | .bytes | .copy => (e.read.map .octets, s)
  | .isAbsent => (e.read.map fun d => .truth (decide (d.length = 0)), s)
  | .truth => (e.read.map fun d => .truth (decide (d.length ≠ 0)), s)
  | .ownership => (.ok (.text e.ownership.name), s)
  | .released => (.ok (.truth e.released), s)
  | .shown => (.ok (.text e.shown), s)
  | .hash => (.error (.unhashable "Envelope"), s)
  | .reclaim => let (r, s) := s.reclaim id; (r.map .octets, s)
  | .readOnly => (.error ((Object.envelope id).lacks q.member), s)

/-- The answer of a view to a question. -/
def askView (s : Store) (id : Nat) (q : Query) : Except Failure Answer :=
  let data := Argument.readView (s.seen id)
  match q with
  | .length => data.map fun d => .number d.length
  | .bytes | .copy => data.map .octets
  | .truth => data.map fun d => .truth (decide (d.length ≠ 0))
  | .readOnly => data.map fun _ => .truth true
  | .shown => .ok (.text (Argument.shownView (s.seen id)))
  | .hash => data.map fun _ => .nothing
  | .size | .isAbsent | .ownership | .released | .reclaim =>
    .error ((Object.view id).lacks q.member)

/-- The answer of a buffer to a question. -/
def askBuffer (b : Bytes) (q : Query) : Except Failure Answer :=
  match q with
  | .length => .ok (.number b.length)
  | .bytes => .ok (.octets b)
  | .truth => .ok (.truth (decide (b.length ≠ 0)))
  | .shown => .ok (.text (Argument.shownBuffer b))
  | .hash => .error (.unhashable "bytearray")
  | .copy | .size | .isAbsent | .ownership | .released | .reclaim | .readOnly =>
    .error ((Object.buffer b).lacks q.member)

/-- The answer of an object to a question. -/
def ask (s : Store) (o : Object) (q : Query) : Except Failure Answer × Store :=
  match o with
  | .envelope id => s.askEnvelope id q
  | .view id => (s.askView id q, s)
  | .buffer b => (askBuffer b q, s)

end Store

end ClusterLink
