/-
# Byte strings

Serialized messages are opaque: the library copies them, measures them and
frames them, and never looks inside. They are lists of bytes here, so that
cutting and joining are the list operations.

Numbers in a byte string have a fixed width. `littleEndian w n` is the
number `n` in `w` bytes, least byte first; `ofLittleEndian` reads any width
back. Each inverts the other (`ofLittleEndian_littleEndian`,
`littleEndian_ofLittleEndian`) on numbers that fit; `room w` of them do.

Key definitions: `littleEndian`, `ofLittleEndian`, `room`, `bigEndian`,
`ofBigEndian`, `ofText`, `hex`.
-/
namespace ClusterLink

/-- A byte string. -/
abbrev Bytes := List UInt8

namespace Bytes

/-- The `w` bytes of `n`, least first; what does not fit is dropped. -/
def littleEndian : Nat → Nat → Bytes
  | 0, _ => []
  | w + 1, n => UInt8.ofNat (n % 256) :: littleEndian w (n / 256)

/-- The number whose bytes are given, least first. -/
def ofLittleEndian : Bytes → Nat
  | [] => 0
  | b :: bs => b.toNat + 256 * ofLittleEndian bs

/-- How many numbers there are in `w` bytes. -/
def room (w : Nat) : Nat := Nat.pow 256 w

/-- The `w` bytes of `n`, greatest first. -/
def bigEndian (w n : Nat) : Bytes := (littleEndian w n).reverse

/-- The number whose bytes are given, greatest first. -/
def ofBigEndian (bs : Bytes) : Nat := bs.foldl (fun n b => 256 * n + b.toNat) 0

/-- The UTF-8 bytes of a text. -/
def ofText (s : String) : Bytes := s.toUTF8.toList

/-- One hexadecimal digit, in lower case. -/
def hexDigit (n : Nat) : Char := if n < 10 then Char.ofNat (48 + n) else Char.ofNat (87 + n)

/-- A byte string as hexadecimal digits, two a byte. -/
def hex (bs : Bytes) : String :=
  bs.foldl (fun s b => (s.push (hexDigit (b.toNat / 16))).push (hexDigit (b.toNat % 16))) ""

/-! ### Fixed-width numbers -/

@[simp] theorem length_littleEndian (w n : Nat) : (littleEndian w n).length = w := by
  induction w generalizing n with
  | zero => rfl
  | succ w ih => simp [littleEndian, ih]

theorem room_succ (w : Nat) : room (w + 1) = room w * 256 := rfl

theorem ofLittleEndian_littleEndian {w n : Nat} (h : n < room w) :
    ofLittleEndian (littleEndian w n) = n := by
  induction w generalizing n with
  | zero =>
    have h : n < 1 := h
    simp only [littleEndian, ofLittleEndian]
    omega
  | succ w ih =>
    have hq : n / 256 < room w := by
      apply Nat.div_lt_of_lt_mul
      rw [room_succ] at h
      omega
    have hm : n % 256 < 256 := Nat.mod_lt _ (by decide)
    have hb : (UInt8.ofNat (n % 256)).toNat = n % 256 := by
      rw [UInt8.toNat_ofNat']
      exact Nat.mod_eq_of_lt hm
    simp only [littleEndian, ofLittleEndian, ih hq, hb]
    omega

theorem ofLittleEndian_lt (bs : Bytes) : ofLittleEndian bs < room bs.length := by
  induction bs with
  | nil => decide
  | cons b bs ih =>
    have hb : b.toNat < 256 := b.toNat_lt
    simp only [ofLittleEndian, List.length_cons, room_succ]
    omega

/-- Bytes are those of the number that is read from them. -/
theorem littleEndian_ofLittleEndian (bs : Bytes) :
    littleEndian bs.length (ofLittleEndian bs) = bs := by
  induction bs with
  | nil => rfl
  | cons b bs ih =>
    have hb : b.toNat < 256 := b.toNat_lt
    have hmod : (b.toNat + 256 * ofLittleEndian bs) % 256 = b.toNat := by omega
    have hdiv : (b.toNat + 256 * ofLittleEndian bs) / 256 = ofLittleEndian bs := by omega
    simp only [List.length_cons, littleEndian, ofLittleEndian, hmod, hdiv, ih]
    simp

end Bytes

end ClusterLink
