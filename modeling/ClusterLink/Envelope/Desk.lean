/-
# A desk with envelopes

Any use of envelopes outside of a driver: making, lending, viewing, reading
and reclaiming them, step by step. A desk keeps the objects under the names
that the steps give them, and the open borrow scopes, the innermost first.
A scope lends envelopes of its payloads and, however its body ends, releases
exactly these; a payload that cannot be converted ends the scope before it
opens, and what was lent for it by then is released.

Key definitions: `Desk`, `Desk.Step`, `Desk.step`, `Desk.run`.
-/
import ClusterLink.Envelope.Operand
import ClusterLink.Envelope.Store

namespace ClusterLink

/-- Envelopes, views and buffers under names, and the open borrow scopes. -/
structure Desk where
  store : Store
  objects : List (String × Object)
  scopes : List (List Nat)
  deriving Repr, Inhabited

namespace Desk

/-- An argument whose names are those of the desk. -/
abbrev Named := Operand String

/-- One use of the desk. -/
inductive Step
  /-- Make an envelope of what the value converts to. -/
  | make (name : String) (value : Named) (ownership : Ownership)
  /-- Make a buffer. -/
  | buffer (name : String) (value : Named)
  /-- Open a borrow scope. -/
  | lend (names : List String) (values : List Named)
  /-- Leave the innermost borrow scope, by that failure of its body if there is one. -/
  | leave (failure : Option Failure)
  /-- Ask an object. -/
  | ask (name : String) (q : Query)
  /-- Compare an object with a value; `same` tells whether for being equal or unequal. -/
  | compare (name : String) (value : Named) (same : Bool)
  /-- Merge an envelope into a message that holds the bytes `into`. -/
  | merge (name : String) (into : Bytes)
  | view (envelope name : String)
  | slice (view : String) (first last : Option Int) (name : String)
  /-- Read one byte of a view. -/
  | peek (name : String) (index : Int)
  /-- Write one byte of a buffer, or through a view. -/
  | poke (name : String) (index byte : Int)
  | copyIn (value : Named)
  | copyInAll (value : Named)
  | pack (value : Named)
  | unpack (value : Named)
  /-- Whether an object, or else a message, can be serialized and merged into. -/
  | isMessage (name : Option String)
  deriving Repr

/-- An empty desk. -/
def empty : Desk := ⟨.empty, [], []⟩

/-- The object of that name. -/
def object (d : Desk) (name : String) : Except Failure Object :=
  match d.objects.find? fun o => o.1 = name with
  | some o => .ok o.2
  | none => .error (.unknownName name)

/-- The desk with an object under a name, in place of what had the name. -/
def bind (d : Desk) (name : String) (o : Object) : Desk :=
  { d with objects := (name, o) :: d.objects.filter fun x => x.1 ≠ name }

/-- The value that is meant, the names being those of the desk. -/
def argument (d : Desk) (value : Named) : Except Failure Argument :=
  value.argument fun name => (d.object name).map d.store.argument

/-- The packed sequence of an argument. -/
def packArgument (a : Argument) : Except Failure Bytes := do
  let bs ← a.copyInAll
  .ok (Records.pack bs)

/-- One byte of what is shown; `beyond` is the failure of an index outside. -/
def peekAt (data : Bytes) (beyond : Failure) (i : Int) : Except Failure Answer :=
  (Index.place data.length beyond i).map fun k => .number (data.getD k 0).toNat

/-- The buffer with one byte written. The byte is checked before the place is looked for. -/
def pokeAt (data : Bytes) (i byte : Int) : Except Failure Bytes :=
  if Index.isSize i = false then .error .indexRange
  else if byte < 0 ∨ 256 ≤ byte then .error .byteRange
  else (Index.place data.length .bufferIndex i).map fun k => data.set k (UInt8.ofNat byte.toNat)

/-- The bytes of a byte string, a buffer or a view, if it was not released. -/
def plainBytes? : Argument → Option Bytes
  | .octets b | .buffer b => some b
  | .view c => c
  | _ => none

/-- Whether two values are equal. Envelopes are read for that; no envelope equals anything else. -/
def equal (a b : Argument) : Except Failure Bool :=
  match a, b with
  | .envelope e, .envelope other => do
    let x ← e.read
    let y ← other.read
    .ok (decide (x = y))
  | a, b =>
    match plainBytes? a, plainBytes? b with
    | some x, some y => .ok (decide (x = y))
    | _, _ => .ok false

/-- Whether a value is the very view of that number. -/
def isView (d : Desk) (id : Nat) : Named → Bool
  | .held name => (d.object name).toOption = some (.view id)
  | _ => false

/-- Whether an object is equal to a value. A view is equal to itself even when it was released. -/
def compare (d : Desk) (name : String) (value : Named) : Except Failure Bool := do
  let o ← d.object name
  let a ← d.argument value
  match o with
  | .view id => if d.isView id value then .ok true else equal (d.store.argument o) a
  | o => equal (d.store.argument o) a

/-- The number of the envelope of that name; nothing else has the member. -/
def envelope (d : Desk) (name member : String) : Except Failure Nat := do
  match ← d.object name with
  | .envelope id => .ok id
  | o => .error (o.lacks member)

/-- The part of a view or of a buffer: a view of its own, or a buffer of its own. -/
def slice (d : Desk) (name : String) (first last : Option Int) :
    Except Failure (Object × Desk) := do
  match ← d.object name with
  | .envelope _ => .error (.notIndexable "Envelope")
  | .view id =>
    let (v, store) ← d.store.slice id first last
    .ok (.view v, { d with store })
  | .buffer b => .ok (.buffer (Index.part b first last), d)

/-- One byte of a view or of a buffer. -/
def peek (d : Desk) (name : String) (index : Int) : Except Failure Answer := do
  match ← d.object name with
  | .envelope _ => .error (.notIndexable "Envelope")
  | .view id =>
    let data ← Argument.readView (d.store.seen id)
    peekAt data .viewIndex index
  | .buffer b => peekAt b .bufferIndex index

/-- The desk after one byte of a buffer was written, which is all that can be written to. -/
def poke (d : Desk) (name : String) (index byte : Int) : Except Failure Desk := do
  match ← d.object name with
  | .envelope _ => .error (.notAssignable "Envelope")
  | .view id =>
    let _ ← Argument.readView (d.store.seen id)
    .error .viewReadOnly
  | .buffer b =>
    let b ← pokeAt b index byte
    .ok (d.bind name (.buffer b))

/-- The desk after a step that only answers. -/
def answer (d : Desk) (r : Except Failure Answer) : Except Failure Answer × Desk := (r, d)

/-- The desk after a step, which leaves it as it is if it fails. -/
def change (d : Desk) (r : Except Failure (Answer × Desk)) : Except Failure Answer × Desk :=
  match r with
  | .ok (a, d) => (.ok a, d)
  | .error f => (.error f, d)

/-- The desk with a borrow scope open, in which envelopes of the payloads have the names. -/
def openScope (d : Desk) (names : List String) (ids : List Nat) : Desk :=
  (names.zip ids).foldl (fun d p => d.bind p.1 (.envelope p.2))
    { d with scopes := ids :: d.scopes }

/-- A borrow scope is opened, unless a payload cannot be converted. -/
def borrow (d : Desk) (names : List String) (payloads : List Argument) :
    Except Failure Answer × Desk :=
  match d.store.lendEach [] payloads with
  | (.error f, store) => (.error f, { d with store })
  | (.ok ids, store) => (.ok (.number ids.length), { d with store }.openScope names ids)

/-- One step at the desk: its answer, and the desk after it. -/
def step (d : Desk) : Step → Except Failure Answer × Desk
  | .make name value ownership => d.change do
    let a ← d.argument value
    let b ← a.toBytes
    let (id, store) := d.store.add (.fresh b ownership)
    .ok (.nothing, { d with store }.bind name (.envelope id))
  | .buffer name value => d.change do
    let a ← d.argument value
    let b ← a.toBuffer
    .ok (.nothing, d.bind name (.buffer b))
  | .lend names values =>
    match values.mapM d.argument with
    | .error f => (.error f, d)
    | .ok as => d.borrow names as
  | .leave _ =>
    match d.scopes with
    | [] => (.error .noScope, d)
    | ids :: rest =>
      (.ok (.truth false), { d with store := d.store.releaseAll ids, scopes := rest })
  | .ask name q =>
    match d.object name with
    | .ok o => let (r, store) := d.store.ask o q; (r, { d with store })
    | .error f => (.error f, d)
  | .compare name value same => d.answer do
    let b ← d.compare name value
    .ok (.truth (b == same))
  | .merge name into => d.answer do
    let id ← d.envelope name "merge_into"
    let b ← (d.store.envelope id).read
    .ok (.octets (into ++ b))
  | .view envelope name => d.change do
    let id ← d.envelope envelope "view"
    let (v, store) ← d.store.view id
    .ok (.nothing, { d with store }.bind name (.view v))
  | .slice view first last name => d.change do
    let (o, d) ← d.slice view first last
    .ok (.nothing, d.bind name o)
  | .peek name index => d.answer (d.peek name index)
  | .poke name index byte => d.change do
    let d ← d.poke name index byte
    .ok (.nothing, d)
  | .copyIn value => d.answer do
    let a ← d.argument value
    let b ← a.copyIn
    .ok (.octets b)
  | .copyInAll value => d.answer do
    let a ← d.argument value
    let bs ← a.copyInAll
    .ok (.batch bs)
  | .pack value => d.answer do
    let a ← d.argument value
    let b ← packArgument a
    .ok (.octets b)
  | .unpack value => d.answer do
    let a ← d.argument value
    let b ← a.copyIn
    let bs ← Records.unpack b
    .ok (.batch bs)
  | .isMessage name => d.answer do
    match name with
    | none => .ok (.truth true)
    | some name =>
      let _ ← d.object name
      .ok (.truth false)

/-- The answers to a row of steps, and the desk after them. -/
def run (d : Desk) : List Step → List (Except Failure Answer) × Desk
  | [] => ([], d)
  | s :: ss =>
    let (r, d) := d.step s
    let (rs, d) := d.run ss
    (r :: rs, d)

end Desk

end ClusterLink
