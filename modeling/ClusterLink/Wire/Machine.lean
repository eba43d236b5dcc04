/-
# The stack machine

The machine that runs a stream of tokens. Its stack holds the values that
are being put together, and marks; what is below the topmost mark is out of
reach until the mark is removed. Values may be remembered under numbers.

A message is made of texts, byte strings, integers, lists of byte strings,
and records that become instances of classes. Of all other values only the
type is kept (`Item.value`), which is all that a fault about them can tell.

Key definitions: `Item`, `Machine`, `Machine.step`, `Machine.run`,
`Machine.result`.
-/
import ClusterLink.Wire.Instruction
import ClusterLink.Wire.Writer

namespace ClusterLink.Wire

/-- What the machine's stack and memory hold. -/
inductive Item
  | mark
  | unit
  | field (f : Field)
  | record (fs : List (String × Field))
  | «class» (name : String)
  | instance_ (name : String) (fs : List (String × Field))
  /-- Any other value, of that type. -/
  | value (type : String)
  deriving DecidableEq, Repr, Inhabited

namespace Item

/-- Whether an item is a mark. -/
def isMark : Item → Bool
  | mark => true
  | _ => false

/-- The name of the item's type. -/
def typeName : Item → String
  | mark => ""
  | unit => "tuple"
  | field (.octets _) => "bytes"
  | field (.batch _) => "list"
  | field (.text _) => "str"
  | field (.integer _) => "int"
  | record _ => "dict"
  | «class» _ => "type"
  | instance_ name _ => name
  | value type => type

/-- The failure of an item that is used as a key, if it cannot be one. -/
def unhashable? (i : Item) : Option Failure :=
  if ["list", "dict", "set", "bytearray"].contains i.typeName then some (.unhashable i.typeName)
  else none

/-- The failure of an item that does not have a member. -/
def lacks (i : Item) (member : String) : Failure :=
  match i with
  | «class» name => .noMember ("type object '" ++ name ++ "'") member
  | i => .noMember ("'" ++ i.typeName ++ "' object") member

end Item

/-- The stack, its top first, and what is remembered, in order. -/
structure Machine where
  stack : List Item
  memory : Array Item
  deriving Repr, Inhabited

namespace Machine

/-- The machine before the first token. -/
def start : Machine := ⟨[], #[]⟩

/-- The machine with one more item on the stack. -/
def push (m : Machine) (i : Item) : Except Failure Machine := .ok { m with stack := i :: m.stack }

/-- What is wrong if more items are needed than are within reach on the stack. -/
def underflow {α : Type} (stack : List Item) : Except Failure α :=
  .error (.wire (if stack.any Item.isMark then .unexpectedMark else .underflow))

/-- Whether `n` items are within reach on a stack. -/
def holds : Nat → List Item → Bool
  | 0, _ => true
  | _ + 1, [] => false
  | n + 1, i :: rest => !i.isMark && holds n rest

/-- The items above the topmost mark, in the order in which they were pushed, and the stack below
the mark. -/
def popMark (acc : List Item) : List Item → Except Failure (List Item × List Item)
  | [] => .error (.wire .noMark)
  | .mark :: rest => .ok (acc, rest)
  | i :: rest => popMark (i :: acc) rest

/-! ### Lists and records -/

/-- The byte strings among items. -/
def octetsOf : List Item → Option (List Bytes)
  | [] => some []
  | .field (.octets b) :: is => (octetsOf is).map (b :: ·)
  | _ => none

/-- The names and contents in a row of items. -/
def pairsOf : List Item → Option (List (String × Field))
  | [] => some []
  | .field (.text name) :: .field f :: is =>
    name.plain?.bind fun name => (pairsOf is).map ((name, f) :: ·)
  | _ => none

/-- The failure of the first key in a row of keys and contents that cannot be one. -/
def badKey? : List Item → Option Failure
  | k :: _ :: is => k.unhashable?.or (badKey? is)
  | _ => none

/-- Items are appended to the list on top of the stack. -/
def appendTo (m : Machine) (is : List Item) (stack : List Item) : Except Failure Machine :=
  if holds 1 stack = false then underflow stack
  else match is, stack, octetsOf is with
    | [], _, _ => .ok { m with stack }
    | _, .field (.batch bs) :: rest, some new =>
      .ok { m with stack := .field (.batch (bs ++ new)) :: rest }
    | _, .field (.batch _) :: rest, none => .ok { m with stack := .value "list" :: rest }
    | _, .value "list" :: _, _ => .ok { m with stack }
    | _, .value "bytearray" :: _, _ => .error (.wire .noMessage)
    | _, i :: _, _ => .error (i.lacks "append")
    | _, [], _ => underflow stack

/-- Fields are set in the record on top of the stack. -/
def setIn (m : Machine) (is : List Item) (stack : List Item) : Except Failure Machine :=
  if holds 1 stack = false then underflow stack
  else if is = [] then .ok { m with stack }
  else if is.length % 2 = 1 then .error (.wire (.oddItems "SETITEMS"))
  else match stack, pairsOf is, badKey? is with
    | .record fs :: rest, some new, _ => .ok { m with stack := .record (fs ++ new) :: rest }
    | .record _ :: _, none, some f | .value "dict" :: _, _, some f => .error f
    | .record _ :: rest, none, none => .ok { m with stack := .value "dict" :: rest }
    | .value "dict" :: _, _, none => .ok { m with stack }
    | .field (.batch _) :: _, _, _ | .value "list" :: _, _, _ | .value "bytearray" :: _, _, _ =>
      .error (.wire .noMessage)
    | i :: _, _, _ => .error (.notAssignable i.typeName)
    | [], _, _ => underflow stack

/-! ### Classes and instances -/

/-- The class of that name, which is in one module. -/
def classNamed (module name : String) : Except Failure Item :=
  if module = moduleName then .ok (.class name) else .error (.wire (.unknownModule module))

/-- An instance of a class; `what` tells which instruction makes it. -/
def instanceOf (what : String) (cls args : Item) : Except Failure Item :=
  match cls, args with
  | .class name, .unit | .class name, .value "tuple" => .ok (.instance_ name [])
  | .class _, args => .error (.wire (.notArguments what args.typeName))
  | cls, _ => .error (.wire (.notClass what cls.typeName))

/-- An instance with the fields of a record. -/
def built (inst state : Item) : Except Failure Item :=
  match inst, state with
  | .instance_ name gs, .record fs => .ok (.instance_ name (gs ++ fs))
  | inst, .value "NoneType" => .ok inst
  | .instance_ .., .value "dict" => .error (.wire .noMessage)
  | inst, .record _ | inst, .value "dict" => .error (inst.lacks "__dict__")
  | _, .value "tuple" => .error (.wire .noMessage)
  | _, _ => .error (.wire .notRecord)

/-- A call with arguments; no call makes a message. -/
def called {α : Type} (function args : Item) : Except Failure α :=
  match args, function with
  | .unit, .class _ | .value "tuple", .class _ => .error (.wire .noMessage)
  | .unit, f | .value "tuple", f => .error (.wire (.notCallable f.typeName))
  | _, _ => .error (.wire .notTuple)

/-! ### Rare instructions -/

/-- A tuple. -/
def tupleOf (is : List Item) : Item := if is.isEmpty then .unit else .value "tuple"

/-- A list. -/
def listOf (is : List Item) : Item :=
  match octetsOf is with
  | some bs => .field (.batch bs)
  | none => .value "list"

/-- A record of names and contents. -/
def recordOf (is : List Item) : Except Failure Item :=
  if is.length % 2 = 1 then .error (.wire (.oddItems "DICT"))
  else match pairsOf is, badKey? is with
    | some fs, _ => .ok (.record fs)
    | none, some f => .error f
    | none, none => .ok (.value "dict")

/-- The failure of the first item that cannot be in a set. -/
def badMember? (is : List Item) : Option Failure := is.findSome? Item.unhashable?

/-- Items are added to the set on top of the stack. -/
def addTo (m : Machine) (is : List Item) (stack : List Item) : Except Failure Machine :=
  if holds 1 stack = false then underflow stack
  else match is, stack, badMember? is with
    | [], _, _ | _, .value "set" :: _, none => .ok { m with stack }
    | _, .value "set" :: _, some f => .error f
    | _, i :: _, _ => .error (i.lacks "add")
    | _, [], _ => underflow stack

/-- An item is remembered under a number; in a row no number is left out. -/
def remember (m : Machine) (i : Nat) (x : Item) : Except Failure Machine :=
  if i = m.memory.size then .ok { m with memory := m.memory.push x }
  else if i < m.memory.size then .ok { m with memory := m.memory.setIfInBounds i x }
  else .error (.wire .noMessage)

/-- The machine after a rare instruction. -/
def stepRare (m : Machine) : Rare → Except Failure Machine
  | .value type => m.push (.value type)
  | .drop =>
    match m.stack with
    | _ :: rest => .ok { m with stack := rest }
    | [] => underflow []
  | .dropAll => do
    let (_, rest) ← popMark [] m.stack
    .ok { m with stack := rest }
  | .duplicate =>
    match holds 1 m.stack, m.stack with
    | true, i :: _ => m.push i
    | _, stack => underflow stack
  | .store i =>
    match holds 1 m.stack, m.stack, i with
    | true, x :: _, some i =>
      if i < 0 then .error (.wire .negativePlace) else m.remember i.toNat x
    | true, _, _ => .error (.wire .noMessage)
    | false, stack, _ => underflow stack
  | .tuple n =>
    if holds n m.stack then
      .ok { m with stack := tupleOf (m.stack.take n) :: m.stack.drop n }
    else underflow m.stack
  | .tupleAll => do
    let (is, rest) ← popMark [] m.stack
    .ok { m with stack := tupleOf is :: rest }
  | .listAll => do
    let (is, rest) ← popMark [] m.stack
    .ok { m with stack := listOf is :: rest }
  | .recordAll => do
    let (is, rest) ← popMark [] m.stack
    .ok { m with stack := (← recordOf is) :: rest }
  | .setAll => do
    let (is, rest) ← popMark [] m.stack
    match badMember? is with
    | some f => .error f
    | none => .ok { m with stack := .value "frozenset" :: rest }
  | .addAll => do
    let (is, rest) ← popMark [] m.stack
    m.addTo is rest
  | .call =>
    match holds 2 m.stack, m.stack with
    | true, args :: function :: _ => called function args
    | _, stack => underflow stack
  | .callAll => do
    let (is, rest) ← popMark [] m.stack
    match is with
    | function :: args => called function (tupleOf args)
    | [] => underflow rest
  | .newInstanceWith =>
    match holds 3 m.stack, m.stack with
    | true, options :: args :: cls :: rest => do
      let i ← instanceOf "NEWOBJ_EX" cls args
      match options with
      | .record _ | .value "dict" => .ok { m with stack := i :: rest }
      | o => .error (.wire (.notOptions o.typeName))
    | _, stack => underflow stack
  | .named module name => do m.push (← classNamed module name)
  | .instanceAll name => do
    let _ ← popMark [] m.stack
    match name with
    | none => .error (.wire .cutShort)
    | some (module, name) =>
      let _ ← classNamed module name
      .error (.wire .noMessage)
  | .readOnly =>
    match holds 1 m.stack, m.stack with
    | true, .field (.octets _) :: _ => .ok m
    | true, .value "bytearray" :: rest => .ok { m with stack := .value "memoryview" :: rest }
    | true, i :: _ => .error (.wire (.notBuffer i.typeName))
    | _, stack => underflow stack

/-! ### Tokens -/

/-- The machine after a token other than `stop`. -/
def step (m : Machine) : Token → Except Failure Machine
  | .format _ | .frame _ | .stop => .ok m
  | .text s => m.push (.field (.text s))
  | .octets b => m.push (.field (.octets b))
  | .integer n => m.push (.field (.integer n))
  | .emptyList => m.push (.field (.batch []))
  | .emptyTuple => m.push .unit
  | .emptyRecord => m.push (.record [])
  | .mark => m.push .mark
  | .append =>
    match holds 1 m.stack, m.stack with
    | true, i :: rest => m.appendTo [i] rest
    | _, stack => underflow stack
  | .appendAll => do
    let (is, rest) ← popMark [] m.stack
    m.appendTo is rest
  | .setField =>
    match holds 2 m.stack, m.stack with
    | true, v :: k :: rest => m.setIn [k, v] rest
    | _, stack => underflow stack
  | .setFields => do
    let (is, rest) ← popMark [] m.stack
    m.setIn is rest
  | .classOf =>
    match holds 2 m.stack, m.stack with
    | true, .field (.text name) :: .field (.text module) :: rest => do
      let c ← classNamed (← Input.name module) (← Input.name name)
      .ok { m with stack := c :: rest }
    | true, _ => .error (.wire .notNames)
    | false, stack => underflow stack
  | .newInstance =>
    match holds 2 m.stack, m.stack with
    | true, args :: cls :: rest => do
      .ok { m with stack := (← instanceOf "NEWOBJ" cls args) :: rest }
    | _, stack => underflow stack
  | .build =>
    match holds 2 m.stack, m.stack with
    | true, state :: inst :: rest => do .ok { m with stack := (← built inst state) :: rest }
    | _, stack => underflow stack
  | .memoize =>
    match holds 1 m.stack, m.stack with
    | true, i :: _ => .ok { m with memory := m.memory.push i }
    | _, stack => underflow stack
  | .reuse i =>
    match m.memory[i]? with
    | some x => m.push x
    | none => .error (.wire (.notRemembered i))

/-- The machine after an instruction. -/
def run (m : Machine) : Instruction → Except Failure Machine
  | .token t => m.step t
  | .rare r => m.stepRare r

/-- The message on top of the stack. -/
def result (m : Machine) : Except Failure Message :=
  match holds 1 m.stack, m.stack with
  | true, .instance_ name fs :: _ =>
    match Message.ofRecord? name fs with
    | some x => .ok x
    | none => .error (.wire .noMessage)
  | true, _ => .error (.wire .noMessage)
  | false, stack => underflow stack

end Machine

end ClusterLink.Wire
