/-
# Spans that are too long

A span of time in seconds is a double, and the driver counts in milliseconds
and nanoseconds: it multiplies the span and takes the whole part. A product
that is too large for a double is rounded to an infinity, which has no whole
part. The bound is half a unit in the last place above the largest double
(`Double.limit`), since a tie goes to the even significand, and that is the
one that does not exist.

Settings are validated before a driver is made (`Settings.Accepted`), and a
span that is accepted is a number above nought. So the conversions of the
receive timeout and of the resend period fail in one way only, by overflow,
and do so exactly for the spans from a certain length on, infinity included.

Key definitions: `Double.limit`, `Double.Overflows`, `Settings.Accepted`.
Key theorems: `Double.ofRatio_cases`, `Double.times_cases`,
`Settings.Accepted.ne_nan`, `Seconds.millis_cases`,
`Endpoint.resendAge_cases`.
-/
import ClusterLink.Driver.Command
import Mathlib.Tactic.ByContra
import Mathlib.Tactic.Ring

namespace ClusterLink

namespace Double

/-! ### Rounding to infinity -/

theorem power_pos (e : Nat) : 0 < power e := Nat.two_pow_pos e

theorem power_add (e k : Nat) : power (e + k) = power e * power k := Nat.pow_add 2 e k

theorem power_le {e k : Nat} (h : e ≤ k) : power e ≤ power k := Nat.pow_le_pow_right Nat.two_pos h

/-- A quotient that is not above a number is not rounded above it. -/
theorem roundQuotient_le {n d q : Nat} (hd : 0 < d) (h : n ≤ q * d) : roundQuotient n d ≤ q := by
  obtain ⟨hlow, -⟩ := roundQuotient_near n hd
  by_contra hq
  have hstep : (q + 1) * d ≤ roundQuotient n d * d := Nat.mul_le_mul_right d (by omega)
  have hsucc : (q + 1) * d = q * d + d := Nat.succ_mul q d
  omega

/-- A quotient is rounded above an odd number if it is half a unit above it, and only then: a tie
goes to the even number. -/
theorem lt_roundQuotient_iff {n d q : Nat} (hd : 0 < d) (hq : q % 2 = 1) :
    q < roundQuotient n d ↔ (2 * q + 1) * d ≤ 2 * n := by
  have hn : n / d * d + n % d = n := Nat.div_add_mod' n d
  have hr : n % d < d := Nat.mod_lt n hd
  have hodd : (2 * q + 1) * d = 2 * (q * d) + d := by rw [Nat.add_mul, Nat.mul_assoc, Nat.one_mul]
  unfold roundQuotient
  dsimp only
  rcases Nat.lt_trichotomy (n / d) q with h | h | h
  · have hstep : (n / d + 1) * d ≤ q * d := Nat.mul_le_mul_right d h
    rw [Nat.succ_mul] at hstep
    repeat' split
    all_goals omega
  · rw [h] at hn ⊢
    repeat' split
    all_goals omega
  · have hstep : (q + 1) * d ≤ n / d * d := Nat.mul_le_mul_right d h
    rw [Nat.succ_mul] at hstep
    repeat' split
    all_goals omega

/-- Half a unit above the largest double, in units of the smallest one above nought. -/
def limit : Nat := (power 54 - 1) * power 2044

theorem limit_lt : limit < power 2098 := by
  unfold limit
  rw [show 2098 = 54 + 2044 from rfl, power_add]
  exact Nat.mul_lt_mul_of_pos_right (Nat.sub_lt (power_pos 54) Nat.one_pos) (power_pos 2044)

theorem le_limit : power 2097 ≤ limit := by
  unfold limit
  rw [show 2097 = 53 + 2044 from rfl, power_add]
  exact Nat.mul_le_mul_right _ (by decide)

/-- The exponent of the double nearest to a quotient, given in units of the smallest double, before
it is rounded. -/
def binade (scaled d : Nat) : Nat := Nat.log2 (scaled / d) - 52

theorem scaled_lt_binade (scaled : Nat) {d : Nat} (hd : 0 < d) :
    scaled < power 53 * (d * power (binade scaled d)) := by
  have hlog : scaled / d < power (binade scaled d + 53) :=
    Nat.lt_of_lt_of_le Nat.lt_log2_self (power_le (by unfold binade; omega))
  rw [Nat.div_lt_iff_lt_mul hd, power_add] at hlog
  rwa [Nat.mul_left_comm, Nat.mul_comm (power 53), Nat.mul_comm d]

theorem binade_le_scaled {scaled d : Nat} (h : 0 < binade scaled d) :
    power (binade scaled d + 52) * d ≤ scaled := by
  have hlog : 52 < Nat.log2 (scaled / d) := by unfold binade at h; omega
  have hne : scaled / d ≠ 0 := fun hz => by
    rw [hz] at hlog
    exact absurd hlog (by decide)
  have hle : power (binade scaled d + 52) ≤ scaled / d := by
    rw [show binade scaled d + 52 = Nat.log2 (scaled / d) by unfold binade; omega]
    exact Nat.log2_self_le hne
  exact (Nat.mul_le_mul_right d hle).trans (Nat.div_mul_le_self scaled d)

/-- A quotient of the highest exponent that there is leaves the doubles if it is rounded up to the
next power of two. -/
theorem round_last_iff {scaled d : Nat} (hd : 0 < d) (he : binade scaled d = 2045) :
    roundQuotient scaled (d * power 2045) = power 53 ↔ limit * d ≤ scaled := by
  have hD : 0 < d * power 2045 := Nat.mul_pos hd (power_pos 2045)
  have hle : roundQuotient scaled (d * power 2045) ≤ power 53 := by
    refine roundQuotient_le hD (Nat.le_of_lt ?_)
    rw [← he]
    exact scaled_lt_binade scaled hd
  have hlimit : (2 * (power 53 - 1) + 1) * (d * power 2045) = 2 * (limit * d) := by
    have hodd : 2 * (power 53 - 1) + 1 = power 54 - 1 := by decide
    rw [hodd, show 2045 = 2044 + 1 from rfl, power_add, show power 1 = 2 from rfl, limit]
    ring
  have hiff := lt_roundQuotient_iff (n := scaled) hD (q := power 53 - 1) (by decide)
  rw [hlimit] at hiff
  have hpos := power_pos 53
  omega

/-- The double nearest to a quotient: the rounded quotient is its significand, unless that is the
next power of two. -/
theorem ofRatio_eq (negative : Bool) (n d : Nat) : ofRatio negative n d =
    let e := binade (power 1074 * n) d
    let m := roundQuotient (power 1074 * n) (d * power e)
    if m = power 53 then
      if 2045 < e + 1 then infinity negative else finite negative (power 52) (e + 1)
    else if 2045 < e then infinity negative else finite negative m e := by
  unfold ofRatio binade
  dsimp only
  by_cases hm : roundQuotient (power 1074 * n)
      (d * power (Nat.log2 (power 1074 * n / d) - 52)) = power 53
  · simp only [if_pos hm]
  · simp only [if_neg hm]

/-- A quotient is rounded to an infinity from the limit on, and otherwise to a number. -/
theorem ofRatio_cases (negative : Bool) (n : Nat) {d : Nat} (hd : 0 < d) :
    (limit * d ≤ power 1074 * n ∧ ofRatio negative n d = infinity negative) ∨
    (power 1074 * n < limit * d ∧ ∃ m e, ofRatio negative n d = finite negative m e) := by
  have heq := ofRatio_eq negative n d
  generalize power 1074 * n = scaled at heq ⊢
  rcases Nat.lt_trichotomy (binade scaled d) 2045 with he | he | he
  · refine Or.inr ⟨?_, ?_⟩
    · have hle : power 53 * (d * power (binade scaled d)) ≤ power 2097 * d := by
        rw [show 2097 = 53 + 2044 from rfl, power_add, Nat.mul_assoc, Nat.mul_comm d]
        exact Nat.mul_le_mul_left _ (Nat.mul_le_mul_right d (power_le (by omega)))
      exact ((scaled_lt_binade scaled hd).trans_le hle).trans_le (Nat.mul_le_mul_right d le_limit)
    · rw [heq]
      dsimp only
      rw [if_neg (show ¬ 2045 < binade scaled d + 1 by omega),
        if_neg (show ¬ 2045 < binade scaled d by omega)]
      split <;> exact ⟨_, _, rfl⟩
  · have hiff := round_last_iff hd he
    rw [heq]
    dsimp only
    rw [he, if_pos (show 2045 < 2045 + 1 by omega), if_neg (Nat.lt_irrefl 2045)]
    by_cases hm : roundQuotient scaled (d * power 2045) = power 53
    · exact Or.inl ⟨hiff.mp hm, if_pos hm⟩
    · exact Or.inr ⟨Nat.lt_of_not_le fun hl => hm (hiff.mpr hl), _, _, if_neg hm⟩
  · refine Or.inl ⟨?_, ?_⟩
    · have hle : power 2098 * d ≤ power (binade scaled d + 52) * d :=
        Nat.mul_le_mul_right d (power_le (by omega))
      exact ((Nat.mul_le_mul_right d limit_lt.le).trans hle).trans (binade_le_scaled (by omega))
    · rw [heq]
      dsimp only
      rw [if_pos (show 2045 < binade scaled d + 1 by omega), if_pos he, ite_self]

/-! ### Products -/

/-- The product of a double with a number is too large for a double. -/
def Overflows (x : Double) (k : Nat) : Prop :=
  match x with
  | nan => False
  | infinity _ => True
  | finite _ m e => limit ≤ m * power e * k

instance (x : Double) (k : Nat) : Decidable (x.Overflows k) := by
  unfold Overflows
  cases x <;> infer_instance

/-- A product is infinite if it overflows, and otherwise a number. -/
theorem times_cases {x : Double} (hx : x ≠ nan) {k : Nat} (hk : 0 < k) :
    (x.Overflows k ∧ ∃ negative, x.times k = infinity negative) ∨
    (¬ x.Overflows k ∧ ∃ negative m e, x.times k = finite negative m e) := by
  cases x with
  | nan => exact absurd rfl hx
  | infinity negative => exact Or.inl ⟨trivial, negative, if_neg (Nat.ne_of_gt hk)⟩
  | finite negative m e =>
    have hcancel : power 1074 * (m * power e * k) = m * power e * k * power 1074 := Nat.mul_comm _ _
    rcases ofRatio_cases negative (m * power e * k) (power_pos 1074) with
      ⟨hle, h⟩ | ⟨hlt, m', e', h⟩
    · rw [hcancel] at hle
      exact Or.inl ⟨Nat.le_of_mul_le_mul_right hle (power_pos 1074), negative, h⟩
    · rw [hcancel] at hlt
      exact Or.inr ⟨Nat.not_le.mpr (Nat.lt_of_mul_lt_mul_right hlt), negative, m', e', h⟩

example : (ofDecimal false 1 300).Overflows 1000000000 ∧
    ¬ (ofDecimal false 1 299).Overflows 1000000000 := by
  decide +kernel

end Double

/-! ### Accepted settings -/

/-- Settings that validation accepts, given as arguments or by environment variables. -/
def Settings.Accepted (x : Settings) : Prop :=
  ∃ hostName, (∃ given, ofArguments hostName given = .ok x) ∨
    ∃ env, ofEnvironment hostName env = .ok x

namespace Setting

/-- A span that is accepted is above nought. -/
theorem span_positive {d : Datum} {x : Double} (h : span d = .ok x) : x.isPositive = true := by
  unfold span at h
  cases hr : toReal d with
  | error p =>
    rw [hr] at h
    cases h
  | ok y =>
    rw [hr] at h
    simp only [bind, Except.bind] at h
    split at h
    · rename_i hy
      rwa [← Except.ok.inj h]
    · cases h

/-- So is a span of a field, if its default is. -/
theorem field_span_positive {given : Fields} {name : String} {default x : Double}
    (hd : default.isPositive = true) (h : field given name (.ok default) span = .ok x) :
    x.isPositive = true := by
  unfold field at h
  cases hg : Datum.field? given name with
  | none =>
    rw [hg] at h
    rwa [← Except.ok.inj h]
  | some d =>
    rw [hg] at h
    cases hs : span d with
    | error p =>
      simp only [hs] at h
      cases h
    | ok y =>
      simp only [hs] at h
      rw [← Except.ok.inj h]
      exact span_positive hs

end Setting

namespace Settings

theorem ofArguments_positive {hostName : String} {given : Fields} {x : Settings}
    (h : ofArguments hostName given = .ok x) :
    x.receiveTimeout.isPositive = true ∧ x.resendPeriod.isPositive = true := by
  unfold ofArguments at h
  dsimp only at h
  split at h
  · rename_i ht _ _ hr _
    obtain rfl := Except.ok.inj h
    exact ⟨Setting.field_span_positive (by decide +kernel) ht,
      Setting.field_span_positive (by decide +kernel) hr⟩
  · cases h

/-- The spans of accepted settings are above nought. -/
theorem Accepted.positive {x : Settings} (h : x.Accepted) :
    x.receiveTimeout.isPositive = true ∧ x.resendPeriod.isPositive = true := by
  obtain ⟨hostName, ⟨given, h⟩ | ⟨env, h⟩⟩ := h
  · exact ofArguments_positive h
  · exact ofArguments_positive h

/-- So they are numbers, or infinity. -/
theorem Accepted.ne_nan {x : Settings} (h : x.Accepted) :
    x.receiveTimeout ≠ .nan ∧ x.resendPeriod ≠ .nan := by
  obtain ⟨ht, hr⟩ := h.positive
  constructor <;> intro hn
  · rw [hn] at ht
    cases ht
  · rw [hn] at hr
    cases hr

end Settings

/-! ### Conversions -/

/-- A span is had in milliseconds unless that overflows. -/
theorem Seconds.millis_cases {x : Double} (hx : x ≠ .nan) :
    (x.Overflows 1000 ∧ (Seconds.real x).millis = .error .infiniteSpan) ∨
    (¬ x.Overflows 1000 ∧ ∃ n, (Seconds.real x).millis = .ok n) := by
  unfold Seconds.millis
  dsimp only
  rcases Double.times_cases hx (k := 1000) (by decide) with ⟨ho, _, h⟩ | ⟨ho, _, _, _, h⟩
  · rw [h]
    exact Or.inl ⟨ho, rfl⟩
  · rw [h]
    exact Or.inr ⟨ho, _, rfl⟩

/-- The age at which an update is sent again is had in nanoseconds unless that overflows. -/
theorem Endpoint.resendAge_cases {e : Endpoint} (hx : e.driver.settings.resendPeriod ≠ .nan) :
    (e.driver.settings.resendPeriod.Overflows 1000000000 ∧ e.resendAge = .error .infiniteSpan) ∨
    (¬ e.driver.settings.resendPeriod.Overflows 1000000000 ∧ ∃ age, e.resendAge = .ok age) := by
  unfold Endpoint.resendAge
  rcases Double.times_cases hx (k := 1000000000) (by decide) with ⟨ho, _, h⟩ | ⟨ho, _, _, _, h⟩
  · rw [h]
    exact Or.inl ⟨ho, rfl⟩
  · rw [h]
    exact Or.inr ⟨ho, _, rfl⟩

end ClusterLink
