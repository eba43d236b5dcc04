/-
# Addresses

Where a master or an agent listens. The cluster's form is `name@host:port`;
`host:port` and `tcp://host:port` are accepted too, with blanks around. The
port is a row of decimal digits of any script. An address is shown in one
form only, `tcp://host:port` with an ASCII port (`Address.text`).

A host holds no colon, so the first colon of what follows the scheme or the
name ends the host; a name holds no `@`, so the first `@` ends it. Hence the
three forms never overlap, and each text has one reading at most.

Key definitions: `Address`, `Address.text`, `Address.ofChars?`,
`Address.parse`.
-/
import ClusterLink.Envelope
import ClusterLink.Text.Blank
import ClusterLink.Text.Digit

namespace ClusterLink

/-- A host and a port. -/
structure Address where
  host : List Char
  port : Nat
  deriving DecidableEq, Repr, Inhabited

namespace Address

/-- The scheme that every address is shown with. -/
def scheme : List Char := "tcp://".toList

/-- The address as it is shown. -/
def text (a : Address) : String :=
  String.ofList (scheme ++ a.host ++ ':' :: (toString a.port).toList)

/-- A character of a name. -/
def isNameChar (c : Char) : Bool := c != '@' && c != '/' && !Text.isBlank c

/-- A character of a host. -/
def isHostChar (c : Char) : Bool := c != ':' && isNameChar c

/-- The two parts around the first character `c`, which is in neither. -/
def splitAt? (c : Char) (cs : List Char) : Option (List Char × List Char) :=
  match cs.dropWhile (· != c) with
  | [] => none
  | _ :: rest => some (cs.takeWhile (· != c), rest)

/-- A host and the digits of a port. -/
def hostPort? (cs : List Char) : Option (List Char × List Char) := do
  let (host, port) ← splitAt? ':' cs
  if host ≠ [] ∧ host.all isHostChar ∧ port ≠ [] ∧ port.all Text.isDigit then some (host, port)
  else none

/-- What follows the scheme or the name, if one is there; nothing if the name is no name. -/
def body? (cs : List Char) : Option (List Char) :=
  if scheme.isPrefixOf cs then some (cs.drop scheme.length)
  else match splitAt? '@' cs with
    | none => some cs
    | some (name, rest) => if name ≠ [] ∧ name.all isNameChar then some rest else none

/-- The host and the digits of the port of an address without blanks around. -/
def ofChars? (cs : List Char) : Option (List Char × List Char) := (body? cs).bind hostPort?

/-- The most digits that a port may have. -/
def maxDigits : Nat := 4300

/-- The failure of an argument that is refused, as it is shown; one that cannot be shown fails as
that. -/
def refusal (a : Argument) (why : String → Failure) : Failure :=
  match a.shown with
  | .ok s => why s
  | .error f => f

/-- The address that an argument gives. -/
def parse (a : Argument) : Except Failure Address :=
  let cs := match a with
    | .text s => ofChars? (Text.trim Text.isBlank s.toList)
    | _ => none
  match cs with
  | none => .error (refusal a .badAddress)
  | some (host, digits) =>
    if maxDigits < digits.length then .error (.longPort digits.length)
    else
      let port := Text.decimal digits
      if 0 < port ∧ port < 65536 then .ok ⟨host, port⟩ else .error (refusal a .badPort)

end Address

end ClusterLink
