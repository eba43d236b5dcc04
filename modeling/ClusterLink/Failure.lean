/-
# Failures

Everything that can go wrong, by cause. A failure has a kind, which callers
tell failures apart by, and a message. Failures that the remote side, a
transport or a callback brings in from outside are `raised`.

The one kind with a meaning to the library is misuse (`isMisuse`): an
access to a buffer that was given back, or to a driver that was destroyed.
It is not recoverable; all other failures are ordinary.

Two texts of a failure are part of what the drivers report: `text`, the bare
message, and `shown`, the kind with the quoted message in brackets; a text
without UTF-8 bytes is shown with more than its message.

Key definitions: `Ownership`, `Failure`, `Failure.kind`, `Failure.message?`,
`Failure.text`, `Failure.shown`, `Failure.isMisuse`.
-/
import ClusterLink.Role
import ClusterLink.Settings.Problem
import ClusterLink.Text.Quoted
import ClusterLink.Wire.Fault

namespace ClusterLink

/-- Who may use an envelope, and for how long: its holder for ever, a callee while the call
lasts, or a receiver until it reclaims the bytes. -/
inductive Ownership
  | owned | borrowed | transferred
  deriving DecidableEq, Repr, Inhabited

/-- The name of the ownership. -/
def Ownership.name : Ownership → String
  | .owned => "owned"
  | .borrowed => "borrowed"
  | .transferred => "transferred"

/-- What went wrong. -/
inductive Failure
  /-- An access to an envelope that was released. -/
  | released (o : Ownership)
  /-- A reclaim of an envelope that was not transferred. -/
  | notTransferred (o : Ownership)
  /-- A call on a destroyed driver. -/
  | destroyed (op : String) (role : Role) (handle : String)
  /-- A call that waits for the dispatch thread, made on that thread. -/
  | ownCallback (op : String) (role : Role) (handle : String)
  /-- A call on the null pair. -/
  | nullPair
  /-- An argument that is neither an envelope nor bytes; `type` is its type. -/
  | notBytes (type : String)
  /-- An argument that is no sequence. -/
  | notIterable (type : String)
  /-- A text where bytes are made. -/
  | noEncoding
  /-- A value that something cannot be made of. -/
  | notConvertible (type target : String)
  /-- An element of a list of bytes that is no number. -/
  | elementNotInteger (type : String)
  /-- An element of a list of bytes that is no byte. -/
  | elementRange
  /-- A negative number of bytes. -/
  | negativeCount
  /-- A number of bytes beyond the range of sizes. -/
  | countRange
  /-- A number of bytes that no byte string may have. -/
  | stringTooLong
  /-- More bytes than there is memory for. -/
  | outOfMemory
  /-- A byte of a buffer that is none. -/
  | byteRange
  /-- An index beyond the range of sizes. -/
  | indexRange
  /-- An index outside of a buffer. -/
  | bufferIndex
  /-- An index outside of a view. -/
  | viewIndex
  /-- A write through a view. -/
  | viewReadOnly
  /-- An access to a view that was released. -/
  | viewReleased
  /-- An envelope or a buffer used as a key. -/
  | unhashable (type : String)
  /-- An index into something that has no places. -/
  | notIndexable (type : String)
  /-- A write to a place of something that has none. -/
  | notAssignable (type : String)
  /-- A name that nothing has. -/
  | unknownName (name : String)
  /-- A place in a list that is beyond its end. -/
  | listIndex
  /-- A borrow scope that is left without one being open. -/
  | noScope
  /-- A callback table with a slot that its role does not have. -/
  | unknownSlot (role : Role) (slot : String)
  /-- A call without an argument that it needs. -/
  | missingArgument (function argument : String)
  /-- A call that the holder does not offer. -/
  | noMember (holder member : String)
  /-- A length of a packed record that is cut short. -/
  | cutLength (offset : Nat)
  /-- A packed record that is cut short. -/
  | cutRecord (offset claimed remaining : Nat)
  /-- An address of no known form, as it was shown. -/
  | badAddress (shown : String)
  /-- An address whose port is no port. -/
  | badPort (shown : String)
  /-- A port with more digits than a number may have. -/
  | longPort (digits : Nat)
  /-- A number with more digits than can be shown. -/
  | longNumber
  /-- A callback table of the wrong type. -/
  | notCallbacks (role : Role) (type : String)
  /-- A framework info that is no bytes. -/
  | badFramework (type : String)
  | emptyFramework
  /-- Identifiers of an executor that are no texts. -/
  | idsNotText (framework executor : String)
  | emptyIds
  /-- An executor that no agent launched. -/
  | noAgent
  /-- Settings that were refused. -/
  | refused (refusals : List Refusal)
  /-- A name that is no lifecycle state. -/
  | noState (name : String)
  /-- Bytes that are no serialized message. -/
  | wire (f : Wire.Fault)
  /-- A transport used before it is connected. -/
  | notConnected
  /-- More than one event on one socket. -/
  | eventCount (events : Nat)
  /-- A receive without a frame. -/
  | emptyQueue
  /-- A text that has no UTF-8 bytes. -/
  | unencodable (t : WideText)
  /-- A dispatch thread whose driver lost its transport. -/
  | noTransport (handle : String)
  /-- An infinite time span where a whole number is needed. -/
  | infiniteSpan
  /-- A time span that is not a number. -/
  | undefinedSpan
  /-- A time span too large for a real number. -/
  | hugeSpan
  /-- A failure from outside. -/
  | raised (kind : String) (message : Option String)
  deriving DecidableEq, Repr

namespace Failure

/-- The kind of the failure. -/
def kind : Failure → String
  | released .. | notTransferred .. | destroyed .. | ownCallback .. | nullPair =>
    "ContractViolation"
  | notBytes .. | notIterable .. | noEncoding | notConvertible .. | elementNotInteger ..
  | viewReadOnly | unhashable .. | notIndexable .. | notAssignable .. | unknownSlot ..
  | missingArgument .. | noTransport .. => "TypeError"
  | noMember .. => "AttributeError"
  | bufferIndex | viewIndex | indexRange | listIndex | noScope | emptyQueue => "IndexError"
  | unknownName .. => "KeyError"
  | elementRange | negativeCount | byteRange | viewReleased | cutLength .. | cutRecord ..
  | badAddress .. | badPort .. | longPort .. | longNumber | notCallbacks .. | badFramework ..
  | emptyFramework | idsNotText .. | emptyIds | noAgent | notConnected | eventCount ..
  | undefinedSpan =>
    "ValueError"
  | refused .. => "ValidationError"
  | unencodable _ => "UnicodeEncodeError"
  | noState .. => "AssertionError"
  | wire f => f.kind
  | countRange | stringTooLong | infiniteSpan | hugeSpan => "OverflowError"
  | outOfMemory => "MemoryError"
  | raised k _ => k

/-- A type inside a message about it. -/
def shownType (type : String) : String := "<class '" ++ type ++ "'>"

/-- What is wrong with the surrogates of a text that has no UTF-8 bytes. -/
def strayReason : String := "surrogates not allowed"

/-- Which part of a text has no UTF-8 bytes: one surrogate, or several. -/
def shownStray (t : WideText) : String :=
  let (start, stop) := t.stray
  if stop = start + 1 then
    let surrogate := (t.points.drop start).headD 0
    "character '" ++ String.ofList (Text.numberEscape surrogate.val) ++ "' in position " ++
      toString start
  else "characters in position " ++ toString start ++ "-" ++ toString (stop - 1)

/-- The message of the failure; some failures from outside have none. -/
def message? : Failure → Option String
  | released o => some ("access to a released " ++ o.name ++ " envelope")
  | notTransferred o => some ("reclaim of a " ++ o.name ++ " envelope")
  | destroyed op r h => some (op ++ " on destroyed " ++ r.name ++ " driver " ++ h)
  | ownCallback op r h =>
    some (op ++ " of " ++ r.name ++ " driver " ++ h ++ " from within its own callback")
  | nullPair => some "call on the null handle pair"
  | notBytes t => some ("expected Envelope or bytes, gotten " ++ shownType t)
  | notIterable t => some ("'" ++ t ++ "' object is not iterable")
  | noEncoding => some "string argument without an encoding"
  | notConvertible t target => some ("cannot convert '" ++ t ++ "' object to " ++ target)
  | elementNotInteger t => some ("'" ++ t ++ "' object cannot be interpreted as an integer")
  | elementRange => some "bytes must be in range(0, 256)"
  | negativeCount => some "negative count"
  | countRange | indexRange => some "cannot fit 'int' into an index-sized integer"
  | stringTooLong => some "byte string is too large"
  | outOfMemory => none
  | byteRange => some "byte must be in range(0, 256)"
  | bufferIndex => some "bytearray index out of range"
  | viewIndex => some "index out of bounds on dimension 1"
  | viewReadOnly => some "cannot modify read-only memory"
  | viewReleased => some "operation forbidden on released memoryview object"
  | unhashable t => some ("unhashable type: '" ++ t ++ "'")
  | notIndexable t => some ("'" ++ t ++ "' object is not subscriptable")
  | notAssignable t => some ("'" ++ t ++ "' object does not support item assignment")
  | unknownName n => some n
  | listIndex => some "list index out of range"
  | noScope => some "pop from empty list"
  | unknownSlot r s =>
    some (r.tableName ++ ".__init__() got an unexpected keyword argument " ++ Text.quoted s)
  | missingArgument f a =>
    some (f ++ "() missing 1 required positional argument: '" ++ a ++ "'")
  | noMember h m => some (h ++ " has no attribute '" ++ m ++ "'")
  | cutLength o => some ("truncated length prefix at offset=" ++ toString o)
  | cutRecord o l r =>
    some ("record at offset=" ++ toString o ++ " claims " ++ toString l ++ " bytes, only " ++
      toString r ++ " remain")
  | badAddress s => some ("unsupported address: " ++ s)
  | badPort s => some ("port out of range: " ++ s)
  | longPort n =>
    some ("Exceeds the limit (4300 digits) for integer string conversion: value has " ++
      toString n ++ " digits; use sys.set_int_max_str_digits() to increase the limit")
  | longNumber =>
    some ("Exceeds the limit (4300 digits) for integer string conversion; " ++
      "use sys.set_int_max_str_digits() to increase the limit")
  | notCallbacks r t => some ("expected " ++ r.tableName ++ ", gotten " ++ shownType t)
  | badFramework t =>
    some ("malformed framework info: expected Envelope or bytes, gotten " ++ shownType t)
  | emptyFramework => some "framework info must not be empty"
  | idsNotText f e => some ("expected str ids, gotten " ++ shownType f ++ " and " ++ shownType e)
  | emptyIds => some "framework and executor id must not be empty"
  | noAgent =>
    some ("executor environment incomplete, expected MESOS_AGENT_ENDPOINT (or MESOS_SLAVE_PID), " ++
      "MESOS_FRAMEWORK_ID and MESOS_EXECUTOR_ID")
  | refused _ => none
  | noState s =>
    some ("Expected code to be unreachable, but got: " ++ Text.shortened 100 (Text.quoted s))
  | wire f => some f.message
  | notConnected => some "transport not connected"
  | eventCount n => some ("unexpected number of socket events: " ++ toString n)
  | emptyQueue => some "pop from an empty deque"
  | unencodable t =>
    some ("'utf-8' codec can't encode " ++ shownStray t ++ ": " ++ strayReason)
  | noTransport h => some ("no transport for " ++ h)
  | infiniteSpan => some "cannot convert float infinity to integer"
  | undefinedSpan => some "cannot convert float NaN to integer"
  | hugeSpan => some "int too large to convert to float"
  | raised _ m => m

/-- The bare message. A missing key is its own message, and stays quoted. -/
def text (f : Failure) : String :=
  match f.message? with
  | none => ""
  | some m => if f.kind = "KeyError" then Text.quoted m else m

/-- What a failure was made of, as it is shown: its message, or of a text without UTF-8 bytes the
encoding, the text, which part of it is meant and the reason. -/
def shownArguments (f : Failure) : List String :=
  match f with
  | unencodable t =>
    [Text.quoted "utf-8", Text.quotedWide t, toString t.stray.1, toString t.stray.2,
      Text.quoted strayReason]
  | f => f.message?.toList.map Text.quoted

/-- The kind of the failure, with what it was made of in brackets. -/
def shown (f : Failure) : String := f.kind ++ "(" ++ ", ".intercalate f.shownArguments ++ ")"

/-- Whether the failure is misuse of a buffer or of a driver. -/
def isMisuse (f : Failure) : Bool := f.kind = "ContractViolation"

/-- Whether the failure tells of a malformed value, which is what construction may fail with. -/
def isMalformed (f : Failure) : Bool := f.kind = "ValueError" || f.kind = "ValidationError"

end Failure

end ClusterLink
