/-
# Numerals

Numbers as text, the way settings may give them. White space around does not
count. A numeral is ASCII.

A real numeral is a sign, digits with at most one point among or beside
them, and an exponent; or one of `inf`, `infinity` and `nan`, in any case. An
integer numeral is a sign and digits, and may have a point that noughts
follow. Single underscores may stand inside of either, though not in a real
numeral with white space around, and in an integer any number of them among
leading noughts. The minus of an integer may stand behind its leading
noughts as well as before them. An integer has no more than `maxDigits`
digits besides leading noughts; a text is too long if it starts with more,
and otherwise, if they show only in its plain form, it is no numeral.

Key definitions: `Numeral.real?`, `Numeral.integer`.
-/
import ClusterLink.Double
import ClusterLink.Settings.Problem
import ClusterLink.Text.Blank

namespace ClusterLink.Numeral

/-- An ASCII digit. -/
def isDigit (c : Char) : Bool := '0' ≤ c && c ≤ '9'

/-- The value of a row of ASCII digits. -/
def value (cs : List Char) : Nat := cs.foldl (fun n c => 10 * n + (c.toNat - 48)) 0

/-- The sign in front, if any, and the rest; true is the minus. -/
def sign (cs : List Char) : Bool × List Char :=
  match cs with
  | '-' :: r => (true, r)
  | '+' :: r => (false, r)
  | r => (false, r)

/-- The exponent of a real numeral: nothing, or a mark, a sign and digits. -/
def power? (cs : List Char) : Option Int :=
  match cs with
  | [] => some 0
  | c :: r =>
    if c = 'e' ∨ c = 'E' then
      let (minus, ds) := sign r
      if ds ≠ [] ∧ ds.all isDigit then some (if minus then -(value ds : Int) else value ds)
      else none
    else none

/-- A real numeral of digits, without sign. -/
def digits? (negative : Bool) (cs : List Char) : Option Double := do
  let whole := cs.takeWhile isDigit
  let (part, rest) := match cs.dropWhile isDigit with
    | '.' :: r => (r.takeWhile isDigit, r.dropWhile isDigit)
    | r => ([], r)
  if whole = [] ∧ part = [] then none
  else
    let p ← power? rest
    some (Double.ofDecimal negative (value (whole ++ part)) (p - part.length))

/-- A real numeral without white space and underscores. -/
def plainReal? (cs : List Char) : Option Double :=
  let (negative, r) := sign cs
  let word := String.ofList (r.map Char.toLower)
  if word = "inf" ∨ word = "infinity" then some (.infinity negative)
  else if word = "nan" then some .nan
  else digits? negative r

/-- Whether two underscores follow one another. -/
def hasDouble : List Char → Bool
  | '_' :: '_' :: _ => true
  | _ :: r => hasDouble r
  | [] => false

/-- The text without its underscores, if it has some and each stands alone and inside. -/
def dropUnderscores? (cs : List Char) : Option (List Char) :=
  if cs.contains '_' ∧ cs.head? ≠ some '_' ∧ cs.getLast? ≠ some '_' ∧ hasDouble cs = false then
    some (cs.filter (· != '_'))
  else none

/-- The value of a real numeral. -/
def real? (s : String) : Option Double :=
  plainReal? (Text.trim Text.isWhiteSpace s.toList) <|> (dropUnderscores? s.toList).bind plainReal?

/-- What follows the leading noughts and the underscores among them, which a minus may be; `last` is
the nought or the underscore that was passed last. -/
def passNoughts (last : Char) : List Char → Option (List Char)
  | [] => some [last]
  | c :: r =>
    if c = '0' ∨ c = '_' then passNoughts c r
    else if c = '.' then some (last :: c :: r)
    else if isDigit c ∨ c = '-' then some (c :: r)
    else none

/-- The text, which starts with a digit, without leading noughts, but with one of them if nothing
else is left. -/
def dropNoughts? : List Char → Option (List Char)
  | [] => none
  | c :: r => if c = '0' then passNoughts c r else if isDigit c then some (c :: r) else none

/-- The text without the leading noughts behind its minus, if it has one. -/
def dropSignedNoughts? : List Char → Option (List Char)
  | '-' :: r => (dropNoughts? r).map ('-' :: ·)
  | r => dropNoughts? r

/-- The text without a point that noughts follow. -/
def dropFraction (cs : List Char) : List Char :=
  match cs.dropWhile (· != '.') with
  | _ :: c :: r => if (c :: r).all (· == '0') then cs.takeWhile (· != '.') else cs
  | _ => cs

/-- The most digits that an integer numeral may have. -/
def maxDigits : Nat := 4300

/-- The minus in front, if any, and the rest. -/
def minus (cs : List Char) : Bool × List Char :=
  match cs with
  | '-' :: r => (true, r)
  | r => (false, r)

/-- An integer numeral without leading noughts: a minus at most, and digits. -/
def plainInteger? (cs : List Char) : Option Int :=
  let (negative, ds) := minus cs
  if ds = [] ∨ ds.all isDigit = false ∨ (ds.head? = some '0' ∧ ds ≠ ['0']) ∨
      maxDigits < ds.length then none
  else some (if negative then -(value ds : Int) else value ds)

/-- The text without a plus; a minus may not follow it. -/
def dropPlus? : List Char → Option (List Char)
  | '+' :: '-' :: _ => none
  | '+' :: r => some r
  | r => some r

/-- An integer numeral in its plain form: without white space, plus, leading noughts, noughts behind
a point, and underscores. -/
def plainForm? (cs : List Char) : Option (List Char) := do
  let cs ← dropPlus? (Text.trim Text.isWhiteSpace cs)
  let cs := dropFraction (← dropSignedNoughts? cs)
  some ((dropUnderscores? cs).getD cs)

/-- Whether a text starts with a plain integer numeral of too many digits, whatever follows. -/
def isTooLong (cs : List Char) : Bool :=
  let ds := (minus cs).2
  decide (ds.head? ≠ some '0') && decide (maxDigits < (ds.takeWhile isDigit).length)

/-- The value of an integer numeral. -/
def integer (s : String) : Except Problem Int :=
  if isTooLong s.toList then .error .integerTooLarge
  else match (plainForm? s.toList).bind plainInteger? with
    | some n => .ok n
    | none => .error .unreadableInteger

end ClusterLink.Numeral
