/-
# Rare instructions

The wire format has instructions that no message needs. A stream with one of
them was not written by `encode`; it may still be run for a while, and may
even hold a message, so that what is wrong with it in the end depends on
what its instructions do.

Of values that no message holds only the type counts.

Key definitions: `Rare`, `Rare.read?`.
-/
import ClusterLink.Settings.Numeral
import ClusterLink.Wire.Input

namespace ClusterLink.Wire

/-- An instruction that no message needs. -/
inductive Rare
  /-- Push a value that no message holds, of that type. -/
  | value (type : String)
  /-- Drop the top, or all down to the mark. -/
  | drop
  | dropAll
  | duplicate
  /-- Remember the top under a number; nothing if the number was not readable. -/
  | store (i : Option Int)
  /-- Make a tuple of so many items, or of all down to the mark. -/
  | tuple (n : Nat)
  | tupleAll
  | listAll
  | recordAll
  | setAll
  /-- Add all down to the mark to a set. -/
  | addAll
  /-- Call what is below the arguments, or the item above the mark with the others. -/
  | call
  | callAll
  | newInstanceWith
  /-- Push a class. -/
  | named (module name : String)
  /-- Make an instance of a class of all down to the mark; nothing if its name is cut short. -/
  | instanceAll (name : Option (String × String))
  | readOnly
  deriving DecidableEq, Repr

namespace Rare

/-- A decimal number with an optional minus. -/
def decimal? (b : Bytes) : Option Int :=
  let (negative, ds) := Numeral.minus (b.map fun x : UInt8 => Char.ofNat x.toNat)
  if ds = [] ∨ ds.all Numeral.isDigit = false then none
  else some (if negative then -(Numeral.value ds : Int) else Numeral.value ds)

/-- A line as it is shown. -/
def shownLine (b : Bytes) : String :=
  Text.quoted (String.ofList (b.map (fun x => Char.ofNat x.toNat) ++ ['\n']))

/-- Two lines: a module and a name. -/
def names (bs : Bytes) : Except Failure ((String × String) × Bytes) := do
  let (a, rest) ← Input.line bs
  let (b, rest) ← Input.line rest
  .ok ((← Input.name (← Input.text a), ← Input.name (← Input.text b)), rest)

/-- The instruction of an extension, of which none is known. -/
def extension {α : Type} (code : Int) : Except Failure α :=
  .error (.wire (if code ≤ 0 then .badExtension else .unknownExtension code))

/-- An ASCII text. -/
def ascii (b : Bytes) : Except Failure WideText :=
  if b.all (· < 128) then Input.text b else .error (.wire .noMessage)

/-- A text between quotes. -/
def unquoted (b : Bytes) : Except Failure WideText :=
  match b.head?, b.getLast? with
  | some x, some y =>
    if 2 ≤ b.length ∧ x = y ∧ (x = 34 ∨ x = 39) then ascii (b.drop 1).dropLast
    else .error (.wire .notQuoted)
  | _, _ => .error (.wire .notQuoted)

/-- The number under which something was remembered, in a line. -/
def place (b : Bytes) : Except Failure Nat :=
  match decimal? b with
  | some n => if n < 0 then .error (.wire (.notRemembered n)) else .ok n.toNat
  | none => .error (.wire (.notNumeral (shownLine b)))

/-- An instruction without argument. -/
def plain? : Nat → Option Rare
  | 0x30 => some drop
  | 0x31 => some dropAll
  | 0x32 => some duplicate
  | 0x4e => some (value "NoneType")
  | 0x52 => some call
  | 0x64 => some recordAll
  | 0x6c => some listAll
  | 0x6f => some callAll
  | 0x74 => some tupleAll
  | 0x85 => some (tuple 1)
  | 0x86 => some (tuple 2)
  | 0x87 => some (tuple 3)
  | 0x88 | 0x89 => some (value "bool")
  | 0x8f => some (value "set")
  | 0x90 => some addAll
  | 0x91 => some setAll
  | 0x92 => some newInstanceWith
  | 0x98 => some readOnly
  | _ => none

/-- An instruction with its arguments; nothing if the opcode is of none. -/
def withArguments? (code : Nat) (bs : Bytes) : Option (Except Failure (Rare × Bytes)) :=
  match code with
  | 0x46 => some do
    let (b, rest) ← Input.line bs
    let _ ← ascii b
    .ok (value "float", rest)
  | 0x47 => some do let (_, rest) ← Input.take 8 bs; .ok (value "float", rest)
  | 0x63 => some do let ((m, n), rest) ← names bs; .ok (named m n, rest)
  | 0x69 => some <| match names bs with
    | .ok (ns, rest) => .ok (instanceAll (some ns), rest)
    | .error _ => .ok (instanceAll none, [])
  | 0x70 => some do let (b, rest) ← Input.line bs; .ok (store (decimal? b), rest)
  | 0x71 => some do let (i, rest) ← Input.number 1 bs; .ok (store (some i), rest)
  | 0x72 => some do let (i, rest) ← Input.number 4 bs; .ok (store (some i), rest)
  | 0x50 | 0x51 => some (.error (.wire .persistent))
  | 0x82 => some do let (c, _) ← Input.number 1 bs; extension c
  | 0x83 => some do let (c, _) ← Input.number 2 bs; extension c
  | 0x84 => some do let (c, _) ← Input.signedNumber 4 bs; extension c
  | 0x96 => some do
    let (_, rest) ← Input.longBlock (Input.excessRoom (.sizeRange "BYTEARRAY8")) bs
    .ok (value "bytearray", rest)
  | 0x97 => some (.error (.wire .separate))
  | _ => none

/-- The instruction with that opcode, and the rest; nothing if the opcode is of none. -/
def read? (code : Nat) (bs : Bytes) : Option (Except Failure (Rare × Bytes)) :=
  match plain? code with
  | some r => some (.ok (r, bs))
  | none => withArguments? code bs

end Rare

end ClusterLink.Wire
