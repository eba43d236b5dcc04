/-
# Faults of a stream

What is wrong with the bytes of a serialized message. Each fault has a kind
and a message. Most of them no cut of a well-formed stream can have; they
tell of bytes that something else wrote.

Key definitions: `Fault`, `Fault.kind`, `Fault.message`.
-/
import ClusterLink.Text.Quoted

namespace ClusterLink.Wire

/-- What is wrong with a stream. -/
inductive Fault
  /-- A message of another version. -/
  | badVersion (version : Nat)
  /-- A format that is not known. -/
  | badFormat (version : UInt8)
  /-- No opcode where one is due. -/
  | outOfInput
  /-- An argument of an opcode, or a frame, that is cut short. -/
  | cutShort
  | badOpcode (code : UInt8)
  /-- Too few items on the stack. -/
  | underflow
  /-- Too few items above the topmost mark. -/
  | unexpectedMark
  | noMark
  /-- A number under which nothing is remembered. -/
  | notRemembered (i : Int)
  /-- A negative number under which something is to be remembered. -/
  | negativePlace
  /-- The size of a frame beyond the range of sizes. -/
  | frameRange
  /-- The size of an argument beyond the range of sizes. -/
  | sizeRange (what : String)
  /-- A negative size. -/
  | negativeSize
  /-- An argument that would end beyond the range of sizes. -/
  | beyondReach
  /-- A name or a content without its other half. -/
  | oddItems (what : String)
  /-- A class by something else than names. -/
  | notNames
  | notClass (what type : String)
  | notArguments (what type : String)
  | notOptions (type : String)
  /-- Fields that are no record. -/
  | notRecord
  /-- Something else than a tuple where a call has its arguments. -/
  | notTuple
  | notCallable (type : String)
  | notBuffer (type : String)
  | unknownModule (name : String)
  /-- A text that is not in quotes. -/
  | notQuoted
  /-- A line that is no number, as it was shown. -/
  | notNumeral (shown : String)
  | badExtension
  | unknownExtension (code : Int)
  /-- A reference to something that is kept elsewhere. -/
  | persistent
  /-- A reference to bytes that come separately. -/
  | separate
  /-- A well-formed stream that holds no message. -/
  | noMessage
  deriving DecidableEq, Repr

namespace Fault

/-- The kind of the fault. -/
def kind : Fault → String
  | badVersion .. | badFormat .. | negativePlace | notNumeral .. | unknownExtension .. =>
    "ValueError"
  | outOfInput => "EOFError"
  | frameRange | sizeRange .. => "OverflowError"
  | notTuple | notCallable .. | notBuffer .. => "TypeError"
  | unknownModule .. => "ModuleNotFoundError"
  | cutShort | badOpcode .. | underflow | unexpectedMark | noMark | notRemembered .. | negativeSize
  | beyondReach | oddItems .. | notNames | notClass .. | notArguments .. | notOptions .. | notRecord
  | notQuoted | badExtension | persistent | separate | noMessage => "UnpicklingError"

/-- An opcode inside a message about it. -/
def shownOpcode (b : UInt8) : String :=
  let n := b.toNat
  if 0x20 ≤ n ∧ n ≤ 0x7e ∧ n ≠ 39 ∧ n ≠ 92 then String.singleton (Char.ofNat n)
  else String.ofList (Text.numberEscape n)

/-- The greatest size. -/
def maxSize : String := toString 0x7fffffffffffffff ++ " bytes"

/-- The message of the fault. -/
def message : Fault → String
  | badVersion v => "unsupported message version " ++ toString v ++ ", expected 1"
  | badFormat v => "unsupported pickle protocol: " ++ toString v.toNat
  | outOfInput => "Ran out of input"
  | cutShort => "pickle data was truncated"
  | badOpcode b => "invalid load key, '" ++ shownOpcode b ++ "'."
  | underflow => "unpickling stack underflow"
  | unexpectedMark => "unexpected MARK found"
  | noMark => "could not find MARK"
  | notRemembered i => "Memo value not found at index " ++ toString i
  | negativePlace => "negative PUT argument"
  | frameRange => "FRAME length exceeds system's maximum of " ++ maxSize
  | sizeRange what => what ++ " exceeds system's maximum size of " ++ maxSize
  | negativeSize => "LONG pickle has negative byte count"
  | beyondReach => "read would overflow (invalid bytecode)"
  | oddItems what => "odd number of items for " ++ what
  | notNames => "STACK_GLOBAL requires str"
  | notClass what t => what ++ " class argument must be a type, not " ++ t
  | notArguments what t => what ++ " args argument must be a tuple, not " ++ t
  | notOptions t => "NEWOBJ_EX kwargs argument must be a dict, not " ++ t
  | notRecord => "state is not a dictionary"
  | notTuple => "argument list must be a tuple"
  | notCallable t => "'" ++ t ++ "' object is not callable"
  | notBuffer t => "memoryview: a bytes-like object is required, not '" ++ t ++ "'"
  | unknownModule n => "No module named " ++ Text.quoted n
  | notQuoted => "the STRING opcode argument must be quoted"
  | notNumeral s => "invalid literal for int() with base 10: " ++ s
  | badExtension => "EXT specifies code <= 0"
  | unknownExtension n => "unregistered extension code " ++ toString n
  | persistent =>
    "A load persistent id instruction was encountered,\n" ++
      "but no persistent_load function was specified."
  | separate =>
    "pickle stream refers to out-of-band data but no *buffers* argument was given"
  | noMessage => "no message"

end Fault

end ClusterLink.Wire
