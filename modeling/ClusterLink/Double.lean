/-
# Doubles

The numbers of the settings that are measured in seconds: IEEE 754 binary64
values, as data. A finite value is `± significand · 2 ^ (exponent - 1074)`,
with the significand below `2 ^ 53` and, unless the exponent is nought, not
below `2 ^ 52`. Everything that rounds goes through `Double.ofRatio`, which
takes the nearest double to an exact quotient, ties to the even significand,
and overflows to an infinity.

Not covered: addition, comparison of two doubles, signalling values; no
setting needs them.

Key definitions: `Double`, `Double.ofRatio`, `Double.ofDecimal`,
`Double.times`, `Double.dividedBy`, `Double.truncate?`, `Double.toBits`,
`Double.oneDecimal`.
-/
namespace ClusterLink

/-- A binary64 value. -/
inductive Double
  | nan
  | infinity (negative : Bool)
  | finite (negative : Bool) (significand exponent : Nat)
  deriving DecidableEq, Repr, Inhabited

namespace Double

/-- The quotient of two natural numbers, rounded to the nearest one, ties to even. -/
def roundQuotient (n d : Nat) : Nat :=
  let q := n / d
  let r := n % d
  if 2 * r < d then q
  else if d < 2 * r then q + 1
  else if q % 2 = 0 then q else q + 1

/-- A power of two. -/
def power (e : Nat) : Nat := Nat.pow 2 e

/-- The double nearest to `n / d`, with the given sign. -/
def ofRatio (negative : Bool) (n d : Nat) : Double :=
  -- a product unfolds along its second factor, so that is not the literal
  let scaled := power 1074 * n
  let e := Nat.log2 (scaled / d) - 52
  let m := roundQuotient scaled (d * power e)
  let (m, e) := if m = power 53 then (power 52, e + 1) else (m, e)
  if 2045 < e then infinity negative else finite negative m e

/-- The double nearest to an integer. -/
def ofInt (n : Int) : Double := ofRatio (decide (n < 0)) n.natAbs 1

/-- The double nearest to `± digits · 10 ^ power`. Powers far outside of the range of doubles
are decided by the number of digits alone. -/
def ofDecimal (negative : Bool) (digits : Nat) (power : Int) : Double :=
  let size : Int := (Nat.toDigits 10 digits).length
  if digits = 0 then finite negative 0 0
  else if 400 < size + power then infinity negative
  else if size + power < -400 then finite negative 0 0
  else if 0 ≤ power then ofRatio negative (digits * Nat.pow 10 power.toNat) 1
  else ofRatio negative digits (Nat.pow 10 (-power).toNat)

/-- The product with a natural number, rounded. -/
def times (x : Double) (k : Nat) : Double :=
  match x with
  | finite s m e => ofRatio s (m * power e * k) (power 1074)
  | infinity s => if k = 0 then nan else infinity s
  | nan => nan

/-- The quotient by a positive natural number, rounded. -/
def dividedBy (x : Double) (k : Nat) : Double :=
  match x with
  | finite s m e => ofRatio s (m * power e) (power 1074 * k)
  | y => y

/-- Whether the value is greater than nought; not-a-number is not. -/
def isPositive : Double → Bool
  | finite false m _ => decide (m ≠ 0)
  | infinity false => true
  | _ => false

/-- Whether the value is a finite number without fraction. -/
def isWhole : Double → Bool
  | finite _ m e => decide (m * power e % power 1074 = 0)
  | _ => false

/-- Whether the value is nought. -/
def isZero : Double → Bool
  | finite _ m _ => decide (m = 0)
  | _ => false

/-- The whole part of a finite value. -/
def truncate? : Double → Option Int
  | finite s m e =>
    let n : Int := (m * power e / power 1074 : Nat)
    some (if s then -n else n)
  | _ => none

/-- The 64 bits of the value. -/
def toBits : Double → Nat
  | nan => 0x7ff8000000000000
  | infinity s => (if s then power 63 else 0) + 0x7ff0000000000000
  | finite s m e =>
    (if s then power 63 else 0) +
      if m < power 52 then m else (e + 1) * power 52 + (m - power 52)

/-- The value with one decimal place; a tie goes to the even digit. -/
def oneDecimal : Double → String
  | nan => "nan"
  | infinity s => if s then "-inf" else "inf"
  | finite s m e =>
    let tenths := roundQuotient (10 * (m * power e)) (power 1074)
    (if s then "-" else "") ++ toString (tenths / 10) ++ "." ++ toString (tenths % 10)

/-! ### Rounding -/

/-- A rounded quotient is within half a unit of the exact one. -/
theorem roundQuotient_near (n : Nat) {d : Nat} (hd : 0 < d) :
    2 * (roundQuotient n d * d) ≤ 2 * n + d ∧ 2 * n ≤ 2 * (roundQuotient n d * d) + d := by
  have hn : d * (n / d) + n % d = n := Nat.div_add_mod n d
  have hr : n % d < d := Nat.mod_lt _ hd
  have hc : n / d * d = d * (n / d) := Nat.mul_comm _ _
  have hs : (n / d + 1) * d = d * (n / d) + d := by rw [Nat.add_mul, hc, Nat.one_mul]
  unfold roundQuotient
  dsimp only
  split
  · rw [hc]; omega
  · split
    · rw [hs]; omega
    · split
      · rw [hc]; omega
      · rw [hs]; omega

end Double

end ClusterLink
