/-
# Quoted texts

How a text or a byte string is shown inside a message: between single
quotes, or between double quotes if it holds a single one and no double
one. The quote in use, the backslash, line ends and tabs are escaped by a
backslash; any other character that is not printable is written by its
number, in two, four or eight hexadecimal digits. A byte string has a `b`
in front, and every byte outside printable ASCII is written by its number.
A buffer is quoted like a byte string, but a single quote inside is escaped
between double quotes, too.

Key definitions: `quoteOf`, `quoted`, `quotedWide`, `quotedBytes`,
`quotedBuffer`, `shortened`.
-/
import ClusterLink.Bytes
import ClusterLink.Text.Printable
import ClusterLink.Text.Wide

namespace ClusterLink.Text

/-- The quote around a text that holds single quotes, and double ones, as told. -/
def quoteOf (single double : Bool) : Char := if single && !double then '"' else Char.ofNat 39

/-- The `w` hexadecimal digits of `n`. -/
def hexDigits : Nat → Nat → List Char
  | 0, _ => []
  | w + 1, n => hexDigits w (n / 16) ++ [Bytes.hexDigit (n % 16)]

/-- The escape of a character by its number. -/
def numberEscape (n : Nat) : List Char :=
  if n ≤ 0xff then '\\' :: 'x' :: hexDigits 2 n
  else if n ≤ 0xffff then '\\' :: 'u' :: hexDigits 4 n
  else '\\' :: 'U' :: hexDigits 8 n

/-- A character that has an escape of its own, or is the quote. -/
def namedEscape? (quote c : Char) : Option (List Char) :=
  if c = quote ∨ c = '\\' then some ['\\', c]
  else if c = '\n' then some ['\\', 'n']
  else if c = '\r' then some ['\\', 'r']
  else if c = '\t' then some ['\\', 't']
  else none

/-- A character inside a quoted text. -/
def escape (quote c : Char) : List Char :=
  match namedEscape? quote c with
  | some cs => cs
  | none => if isPrintable c then [c] else numberEscape c.toNat

/-- A byte inside a quoted byte string. -/
def escapeByte (quote : Char) (b : UInt8) : List Char :=
  let c := Char.ofNat b.toNat
  match namedEscape? quote c with
  | some cs => cs
  | none => if 0x20 ≤ b.toNat ∧ b.toNat < 0x7f then [c] else numberEscape b.toNat

/-- A text between quotes. -/
def quoted (s : String) : String :=
  let cs := s.toList
  let q := quoteOf (cs.contains (Char.ofNat 39)) (cs.contains '"')
  String.ofList (q :: cs.flatMap (escape q) ++ [q])

/-- A code point inside a quoted text; a surrogate is written by its number. -/
def escapePoint (quote : Char) (c : CodePoint) : List Char :=
  if c.isSurrogate then numberEscape c.val else escape quote c.toChar

/-- A text from outside between quotes. -/
def quotedWide (t : WideText) : String :=
  let q := quoteOf (t.points.contains (.ofChar (Char.ofNat 39))) (t.points.contains (.ofChar '"'))
  String.ofList (q :: t.points.flatMap (escapePoint q) ++ [q])

/-- The quote around some bytes. -/
def quoteOfBytes (bs : Bytes) : Char := quoteOf (bs.contains 39) (bs.contains 34)

/-- A byte string between quotes, after a `b`. -/
def quotedBytes (bs : Bytes) : String :=
  let q := quoteOfBytes bs
  String.ofList ('b' :: q :: bs.flatMap (escapeByte q) ++ [q])

/-- The bytes of a buffer between quotes, after a `b`. -/
def quotedBuffer (bs : Bytes) : String :=
  let q := quoteOfBytes bs
  String.ofList ('b' :: q :: bs.flatMap (escapeByte (Char.ofNat 39)) ++ [q])

/-- A text that is cut to `limit` characters, with dots in place of what was cut off. -/
def shortened (limit : Nat) (s : String) : String :=
  if s.length ≤ limit then s else String.ofList (s.toList.take limit) ++ "..."

end ClusterLink.Text
