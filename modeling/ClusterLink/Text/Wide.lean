/-
# Texts with stray surrogates

A text that comes from outside is a row of code points. Most of them are
characters, and a text of characters is a `String`. But a text may also hold
surrogates, which stand for no character; there are no UTF-8 bytes for such
a text (`WideText.utf8?`).

The wire format has bytes for every text (`WideText.bytes`). It writes a
surrogate in the way in which UTF-8 writes the characters around it, so that
for a text of characters these are the UTF-8 bytes (`bytes_ofString`). Every
text is read back from its bytes (`ofBytes?_bytes`).

Key definitions: `CodePoint`, `WideText`, `WideText.plain?`,
`WideText.utf8?`, `WideText.bytes`, `WideText.ofBytes?`.
-/
import ClusterLink.Bytes

namespace ClusterLink

/-- A code point of Unicode. -/
abbrev CodePoint := Fin 0x110000

namespace CodePoint

/-- Whether the code point is half of a pair, which stands for no character. -/
def isSurrogate (c : CodePoint) : Bool := 0xd800 ≤ c.val && c.val < 0xe000

theorem toNat_lt (c : Char) : c.toNat < 0x110000 := by
  have h : c.toNat.isValidChar := c.valid
  unfold Nat.isValidChar at h
  omega

/-- The code point of a character. -/
def ofChar (c : Char) : CodePoint := ⟨c.toNat, toNat_lt c⟩

/-- The character of a code point. -/
def toChar (c : CodePoint) : Char := Char.ofNat c.val

@[simp] theorem toChar_ofChar (c : Char) : (ofChar c).toChar = c := Char.ofNat_toNat c

@[simp] theorem isSurrogate_ofChar (c : Char) : (ofChar c).isSurrogate = false := by
  have h : c.toNat.isValidChar := c.valid
  unfold Nat.isValidChar at h
  have hn : ¬ (0xd800 ≤ c.toNat ∧ c.toNat < 0xe000) := by omega
  rw [← Bool.not_eq_true, isSurrogate, Bool.and_eq_true, decide_eq_true_eq, decide_eq_true_eq]
  exact hn

/-- A code point that is no surrogate is that of a character. -/
theorem ofChar_toChar {c : CodePoint} (h : c.isSurrogate = false) : ofChar c.toChar = c := by
  have hn : ¬ (0xd800 ≤ c.val ∧ c.val < 0xe000) := by
    rwa [← Bool.not_eq_true, isSurrogate, Bool.and_eq_true, decide_eq_true_eq,
      decide_eq_true_eq] at h
  have hv : c.val.isValidChar := by
    have hlt := c.isLt
    unfold Nat.isValidChar
    omega
  apply Fin.ext
  show (Char.ofNat c.val).toNat = c.val
  rw [Char.ofNat, dif_pos hv]
  rfl

/-! ### Bytes -/

/-- A byte behind the first one of a code point, with six bits of it. -/
def tailByte (n : Nat) : UInt8 := UInt8.ofNat (n % 0x40 + 0x80)

/-- The bytes of a code point, one to four. -/
def bytes (c : CodePoint) : Bytes :=
  let n := c.val
  if n ≤ 0x7f then [UInt8.ofNat n]
  else if n ≤ 0x7ff then [UInt8.ofNat (n / 64 % 0x20 + 0xc0), tailByte n]
  else if n ≤ 0xffff then
    [UInt8.ofNat (n / 4096 % 0x10 + 0xe0), tailByte (n / 64), tailByte n]
  else
    [UInt8.ofNat (n / 262144 % 0x08 + 0xf0), tailByte (n / 4096), tailByte (n / 64), tailByte n]

/-- Whether a byte may come behind the first one of a code point. -/
def isTail (b : UInt8) : Bool := 0x80 ≤ b.toNat && b.toNat < 0xc0

/-- A code point in front of others: it has to be one that takes as many bytes, and the bytes behind
the first one have to look like that. -/
def put (least n : Nat) (tails : Bytes) (rest : Option (List CodePoint)) :
    Option (List CodePoint) :=
  if h : least ≤ n ∧ n < 0x110000 ∧ tails.all isTail = true then rest.map (⟨n, h.2.1⟩ :: ·)
  else none

/-- The code points with the given bytes. What a byte that begins a code point is too small for
makes it smaller than it may be. -/
def rowOf : Bytes → Option (List CodePoint)
  | [] => some []
  | a :: bs =>
    if a.toNat < 0x80 then put 0 a.toNat [] (rowOf bs)
    else match bs with
    | [] => none
    | b :: bs =>
      let n := b.toNat - 0x80
      if a.toNat < 0xe0 then put 0x80 (64 * (a.toNat - 0xc0) + n) [b] (rowOf bs)
      else match bs with
      | [] => none
      | c :: bs =>
        let n := 64 * n + (c.toNat - 0x80)
        if a.toNat < 0xf0 then put 0x800 (4096 * (a.toNat - 0xe0) + n) [b, c] (rowOf bs)
        else match bs with
        | [] => none
        | d :: bs =>
          let n := 64 * n + (d.toNat - 0x80)
          put 0x10000 (262144 * (a.toNat - 0xf0) + n) [b, c, d] (rowOf bs)

theorem toNat_tailByte (n : Nat) : (tailByte n).toNat = n % 0x40 + 0x80 := by
  unfold tailByte
  rw [UInt8.toNat_ofNat']
  omega

theorem isTail_tailByte (n : Nat) : isTail (tailByte n) = true := by
  simp only [isTail, toNat_tailByte, Bool.and_eq_true, decide_eq_true_eq]
  omega

theorem put_eq {least n : Nat} {tails : Bytes} {rest : Option (List CodePoint)} {c : CodePoint}
    (hn : n = c.val) (hl : least ≤ c.val) (ht : tails.all isTail = true) :
    put least n tails rest = rest.map (c :: ·) := by
  subst hn
  unfold put
  rw [dif_pos ⟨hl, c.isLt, ht⟩]

/-- A code point is read back from its bytes. -/
theorem rowOf_bytes_append (c : CodePoint) (bs : Bytes) :
    rowOf (c.bytes ++ bs) = (rowOf bs).map (c :: ·) := by
  have hlt := c.isLt
  have htails : ∀ ns : List Nat, (ns.map tailByte).all isTail = true := fun ns => by
    simp [isTail_tailByte]
  unfold bytes
  dsimp only
  split
  · rename_i h
    have ha : (UInt8.ofNat c.val).toNat = c.val := by rw [UInt8.toNat_ofNat']; omega
    show rowOf (UInt8.ofNat c.val :: bs) = _
    rw [rowOf.eq_def]
    dsimp only
    rw [ha, if_pos (by omega)]
    exact put_eq rfl (Nat.zero_le _) (htails [])
  split
  · rename_i h
    have ha : (UInt8.ofNat (c.val / 64 % 0x20 + 0xc0)).toNat = c.val / 64 + 0xc0 := by
      rw [UInt8.toNat_ofNat']; omega
    simp only [List.cons_append, List.nil_append, rowOf, ha, toNat_tailByte]
    rw [if_neg (by omega), if_pos (by omega)]
    exact put_eq (by omega) (by omega) (htails [_])
  split
  · rename_i h
    have ha : (UInt8.ofNat (c.val / 4096 % 0x10 + 0xe0)).toNat = c.val / 4096 + 0xe0 := by
      rw [UInt8.toNat_ofNat']; omega
    simp only [List.cons_append, List.nil_append, rowOf, ha, toNat_tailByte]
    rw [if_neg (by omega), if_neg (by omega), if_pos (by omega)]
    exact put_eq (by omega) (by omega) (htails [_, _])
  · have ha : (UInt8.ofNat (c.val / 262144 % 0x08 + 0xf0)).toNat = c.val / 262144 + 0xf0 := by
      rw [UInt8.toNat_ofNat']; omega
    simp only [List.cons_append, List.nil_append, rowOf, ha, toNat_tailByte]
    rw [if_neg (by omega), if_neg (by omega), if_neg (by omega)]
    exact put_eq (by omega) (by omega) (htails [_, _, _])

end CodePoint

/-- A text from outside: a row of code points. -/
structure WideText where
  points : List CodePoint
  deriving DecidableEq, Repr, Inhabited

namespace WideText

/-- A text of characters. -/
def ofString (s : String) : WideText := ⟨s.toList.map .ofChar⟩

instance : Coe String WideText := ⟨ofString⟩

instance : Append WideText := ⟨fun a b => ⟨a.points ++ b.points⟩⟩

/-- The text as a row of characters, if there is no surrogate in it. -/
def plain? (t : WideText) : Option String :=
  if t.points.any CodePoint.isSurrogate then none
  else some (String.ofList (t.points.map CodePoint.toChar))

/-- The UTF-8 bytes of the text, if there is no surrogate in it. -/
def utf8? (t : WideText) : Option Bytes := t.plain?.map Bytes.ofText

/-- Where the first row of surrogates in the text begins, and where it ends. -/
def stray (t : WideText) : Nat × Nat :=
  let before := t.points.takeWhile fun c => !c.isSurrogate
  let row := (t.points.drop before.length).takeWhile CodePoint.isSurrogate
  (before.length, before.length + row.length)

/-- The bytes of the text on the wire. -/
def bytes (t : WideText) : Bytes := t.points.flatMap CodePoint.bytes

/-- The text with the given bytes on the wire, if it is one. -/
def ofBytes? (bs : Bytes) : Option WideText := (CodePoint.rowOf bs).map .mk

@[simp] theorem plain?_ofString (s : String) : (ofString s).plain? = some s := by
  have hany : (s.toList.map CodePoint.ofChar).any CodePoint.isSurrogate = false := by
    simp [List.any_map]
  have hmap : (s.toList.map CodePoint.ofChar).map CodePoint.toChar = s.toList := by
    simp [List.map_map, Function.comp_def]
  simp only [plain?, ofString, hany, Bool.false_eq_true, if_false, hmap, String.ofList_toList]

@[simp] theorem utf8?_ofString (s : String) : (ofString s).utf8? = some (Bytes.ofText s) := by
  unfold utf8?
  rw [plain?_ofString]
  rfl

/-- Only a text of characters is one. -/
theorem eq_ofString {t : WideText} {s : String} (h : t.plain? = some s) : t = ofString s := by
  unfold plain? at h
  split at h
  · cases h
  · rename_i hany
    have hnone : ∀ c ∈ t.points, c.isSurrogate = false := by simpa using hany
    obtain rfl := Option.some.inj h
    have hmap : t.points.map (CodePoint.ofChar ∘ CodePoint.toChar) = t.points.map id :=
      List.map_congr_left fun c hc => CodePoint.ofChar_toChar (hnone c hc)
    unfold ofString
    rw [String.toList_ofList, List.map_map, hmap, List.map_id]

theorem ofString_inj {s t : String} : ofString s = ofString t ↔ s = t := by
  refine ⟨fun h => ?_, fun h => h ▸ rfl⟩
  exact Option.some.inj ((plain?_ofString s).symm.trans (h ▸ plain?_ofString t))

/-- Only a text of characters has UTF-8 bytes. -/
theorem of_utf8? {t : WideText} {b : Bytes} (h : t.utf8? = some b) :
    ∃ s : String, t = ofString s ∧ b = Bytes.ofText s := by
  obtain ⟨s, hs, rfl⟩ := Option.map_eq_some_iff.mp h
  exact ⟨s, eq_ofString hs, rfl⟩

/-- A text is read back from its bytes. -/
theorem ofBytes?_bytes (t : WideText) : ofBytes? t.bytes = some t := by
  have hrow : ∀ points : List CodePoint,
      CodePoint.rowOf (points.flatMap CodePoint.bytes) = some points := by
    intro points
    induction points with
    | nil => rfl
    | cons c points ih => rw [List.flatMap_cons, CodePoint.rowOf_bytes_append, ih]; rfl
  unfold ofBytes? bytes
  rw [hrow]
  rfl

end WideText

end ClusterLink
