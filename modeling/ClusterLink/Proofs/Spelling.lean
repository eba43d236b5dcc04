/-
# Reading tokens back

Every token is read back from its bytes, whatever comes after them, as long
as the sizes and numbers that it states fit the width they are stated in
(`Token.Fits`). Numbers and lengths have several spellings, and the reader
knows by the opcode which one it has before it.

The size of a frame is a promise about what follows: that many bytes have to
be there (`Instruction.read_frame`).

Key definition: `Token.Fits`.
Key theorems: `WideText.bytes_ofString`, `Input.ofSigned_signed`,
`Instruction.read_bytes`, `Instruction.read_frame`.
-/
import ClusterLink.Wire.Instruction

namespace ClusterLink

namespace Bytes

/-! ### Texts -/

theorem toList_loop (b : ByteArray) (i : Nat) (r : List UInt8) :
    ByteArray.toList.loop b i r = r.reverse ++ b.data.toList.drop i := by
  induction h : b.size - i generalizing i r with
  | zero =>
    have hi : ¬ i < b.size := by omega
    have hd : b.data.toList.drop i = [] := by
      apply List.drop_eq_nil_of_le
      rw [Array.length_toList]
      exact Nat.le_of_not_lt hi
    rw [ByteArray.toList.loop, if_neg hi, hd, List.append_nil]
  | succ n ih =>
    have hi : i < b.size := by omega
    have hl : i < b.data.toList.length := by rw [Array.length_toList]; exact hi
    have hg : b.get! i = b.data.toList[i] := by
      show b.data[i]! = _
      rw [getElem!_pos b.data i hi, Array.getElem_toList]
    rw [ByteArray.toList.loop, if_pos hi, ih (i + 1) _ (by omega), List.drop_eq_getElem_cons hl, hg]
    simp

theorem toList_eq (b : ByteArray) : b.toList = b.data.toList := by
  unfold ByteArray.toList
  rw [toList_loop]
  rfl

/-! ### Fixed-width numbers -/

theorem room_pos (w : Nat) : 0 < room w := by
  induction w with
  | zero => decide
  | succ w ih =>
    rw [room_succ]
    omega

end Bytes

/-- The bytes on the wire of a text of characters are its UTF-8 bytes. -/
theorem WideText.bytes_ofString (s : String) : (ofString s).bytes = Bytes.ofText s := by
  have hdata : s.toByteArray.data = (s.toList.flatMap String.utf8EncodeChar).toArray := by
    rw [← String.utf8Encode_toList]
    exact List.data_toByteArray
  show (s.toList.map CodePoint.ofChar).flatMap CodePoint.bytes = s.toUTF8.toList
  rw [String.toUTF8_eq_toByteArray, Bytes.toList_eq, hdata, List.flatMap_map]
  rfl

namespace Wire

namespace Input

/-! ### Arguments -/

theorem take_append (a : Bytes) (rest : Bytes) : take a.length (a ++ rest) = .ok (a, rest) := by
  unfold take
  simp

theorem number_littleEndian {w n : Nat} (h : n < Bytes.room w) (rest : Bytes) :
    number w (Bytes.littleEndian w n ++ rest) = .ok (n, rest) := by
  have ht := take_append (Bytes.littleEndian w n) rest
  rw [Bytes.length_littleEndian] at ht
  unfold number
  rw [ht]
  simp [bind, Except.bind, Bytes.ofLittleEndian_littleEndian h]

theorem block_littleEndian {w : Nat} {b : Bytes} (h : b.length < Bytes.room w) (rest : Bytes) :
    block w (Bytes.littleEndian w b.length ++ b ++ rest) = .ok (b, rest) := by
  unfold block
  rw [List.append_assoc, number_littleEndian h]
  exact take_append b rest

theorem longBlock_littleEndian {b : Bytes} (h : b.length < Bytes.room 8) (wrong : Nat → Failure)
    (rest : Bytes) :
    longBlock wrong (Bytes.littleEndian 8 b.length ++ b ++ rest) = .ok (b, rest) := by
  unfold longBlock
  rw [List.append_assoc, number_littleEndian h]
  simp [bind, Except.bind, take_append b rest]

/-- A number is read back from its bytes in two's complement, if half of the room is enough. -/
theorem ofSigned_signed {w : Nat} {n : Int} (hlo : -(Bytes.room w : Int) ≤ 2 * n)
    (hhi : 2 * n < Bytes.room w) : ofSigned (Token.signed w n) = n := by
  have hpos := Bytes.room_pos w
  have hmod : ((n % Bytes.room w).toNat : Int) = n % Bytes.room w :=
    Int.toNat_of_nonneg (Int.emod_nonneg n (by omega))
  have hlt : (n % Bytes.room w).toNat < Bytes.room w := by
    have := Int.emod_lt_of_pos n (b := (Bytes.room w : Int)) (by omega)
    omega
  have hread : Bytes.ofLittleEndian (Token.signed w n) = (n % Bytes.room w).toNat :=
    Bytes.ofLittleEndian_littleEndian hlt
  have hlen : (Token.signed w n).length = w := Bytes.length_littleEndian _ _
  unfold ofSigned
  rw [hread, hlen]
  dsimp only
  by_cases hn : 0 ≤ n
  · have he : n % Bytes.room w = n := Int.emod_eq_of_lt hn (by omega)
    rw [if_pos (by omega)]
    omega
  · -- a negative number stands for itself and the whole room
    have he : n % Bytes.room w = n + Bytes.room w := by
      rw [← Int.add_emod_right, Int.emod_eq_of_lt (by omega) (by omega)]
    rw [if_neg (by omega)]
    omega

/-- A number of which the sign stays out of the way. -/
theorem signedNumber_littleEndian {w n : Nat} (h : 2 * n < Bytes.room w) (rest : Bytes) :
    signedNumber w (Bytes.littleEndian w n ++ rest) = .ok (n, rest) := by
  have ht := take_append (Bytes.littleEndian w n) rest
  rw [Bytes.length_littleEndian] at ht
  have ho : ofSigned (Bytes.littleEndian w n) = n := by
    unfold ofSigned
    rw [Bytes.ofLittleEndian_littleEndian (by omega), Bytes.length_littleEndian]
    simp [h]
  unfold signedNumber
  rw [ht]
  simp [bind, Except.bind, ho]

end Input

namespace Token

/-- Whether the sizes and numbers that the token states fit their widths. -/
def Fits : Token → Prop
  | format v => v.toNat ≤ Instruction.maxFormat
  | frame n => n < Bytes.room 8
  | text t => t.bytes.length < Bytes.room 8
  | octets b => b.length < Bytes.room 8
  | integer n => 2 * signedSize n < Bytes.room 4
  | reuse i => i < Bytes.room 4
  | _ => True

instance : (t : Token) → Decidable t.Fits
  | format _ | frame _ | text _ | octets _ | integer _ | reuse _ => Nat.decLe _ _
  | emptyList | emptyTuple | emptyRecord | mark | append | appendAll | setField | setFields
  | classOf | newInstance | build | memoize | stop => .isTrue trivial

/-- The size of a number in two's complement gives it half of the room. -/
theorem signedSize_room (n : Int) : -(Bytes.room (signedSize n) : Int) ≤ 2 * n ∧
    2 * n < Bytes.room (signedSize n) := by
  -- the bits of the magnitude leave at least one bit of the bytes for the sign
  have hroom : ∀ k, Bytes.room k = 2 ^ (8 * k) := by
    intro k
    induction k with
    | zero => rfl
    | succ k ih =>
      rw [Bytes.room_succ, ih, show 8 * (k + 1) = 8 * k + 8 from rfl, Nat.pow_add]
  have hmag : ∀ m : Nat, m ≠ 0 → 2 * m + 2 ≤ 2 ^ (8 * ((Nat.log2 m + 1) / 8 + 1)) := by
    intro m hm
    have hlt : m < 2 ^ (Nat.log2 m + 1) := Nat.lt_log2_self
    have hle : 2 ^ (Nat.log2 m + 1 + 1) ≤ 2 ^ (8 * ((Nat.log2 m + 1) / 8 + 1)) :=
      Nat.pow_le_pow_right (by decide) (by omega)
    rw [Nat.pow_succ] at hle
    omega
  have hgo : ∀ m : Nat, -(m : Int) - 1 ≤ n → n ≤ m →
      -(Bytes.room (if m = 0 then 1 else (Nat.log2 m + 1) / 8 + 1) : Int) ≤ 2 * n ∧
        2 * n < Bytes.room (if m = 0 then 1 else (Nat.log2 m + 1) / 8 + 1) := by
    intro m hlo hhi
    by_cases hm : m = 0
    · have h1 : Bytes.room 1 = 256 := rfl
      rw [if_pos hm]
      omega
    · have hb := hmag m hm
      rw [if_neg hm, hroom]
      omega
  unfold signedSize
  dsimp only
  by_cases hn : 0 ≤ n
  · rw [if_pos hn]
    exact hgo n.toNat (by omega) (by omega)
  · rw [if_neg hn]
    exact hgo (-n - 1).toNat (by omega) (by omega)

end Token

namespace Instruction

open Input

/-! ### Tokens -/

/-- A length in any of its three spellings is followed by that many bytes. -/
theorem sized_cases (short medium long : UInt8) (b rest : Bytes) :
    (∃ w code, (code, w) ∈ [(short, 1), (medium, 4)] ∧ b.length < Bytes.room w ∧
      Token.sized short medium long b.length ++ b ++ rest =
        code :: (Bytes.littleEndian w b.length ++ b ++ rest)) ∨
    Token.sized short medium long b.length ++ b ++ rest =
      long :: (Bytes.littleEndian 8 b.length ++ b ++ rest) := by
  unfold Token.sized
  split
  · rename_i hs
    exact Or.inl ⟨1, short, by simp, hs, rfl⟩
  split
  · rename_i hs
    exact Or.inl ⟨4, medium, by simp, hs, rfl⟩
  · exact Or.inr rfl

theorem read_octets {b : Bytes} (h : b.length < Bytes.room 8) (rest : Bytes) :
    read ((Token.octets b).bytes ++ rest) = .ok (.token (.octets b), rest) := by
  show read (Token.sized 0x43 0x42 0x8e b.length ++ b ++ rest) = _
  rcases sized_cases 0x43 0x42 0x8e b rest with
    ⟨w, code, hc, hw, he⟩ | he
  · have hb := block_littleEndian hw rest
    rw [he]
    simp only [List.mem_cons, Prod.mk.injEq, List.not_mem_nil, or_false] at hc
    rcases hc with ⟨rfl, rfl⟩ | ⟨rfl, rfl⟩
    · show octets (block 1 _) = _
      rw [hb]
      rfl
    · show octets (block 4 _) = _
      rw [hb]
      rfl
  · rw [he]
    show octets (longBlock _ _) = _
    rw [longBlock_littleEndian h]
    rfl

theorem read_text {t : WideText} (h : t.bytes.length < Bytes.room 8) (rest : Bytes) :
    read ((Token.text t).bytes ++ rest) = .ok (.token (.text t), rest) := by
  have ht : Input.text t.bytes = .ok t := by
    unfold Input.text
    rw [WideText.ofBytes?_bytes]
  have hgo : ∀ rest, text Input.text (.ok (t.bytes, rest)) = .ok (.token (.text t), rest) := by
    intro rest
    unfold text
    simp only [bind, Except.bind, ht]
  show read (Token.sized 0x8c 0x58 0x8d t.bytes.length ++ t.bytes ++ rest) = _
  rcases sized_cases 0x8c 0x58 0x8d t.bytes rest with
    ⟨w, code, hc, hw, he⟩ | he
  · have hb := block_littleEndian hw rest
    rw [he]
    simp only [List.mem_cons, Prod.mk.injEq, List.not_mem_nil, or_false] at hc
    rcases hc with ⟨rfl, rfl⟩ | ⟨rfl, rfl⟩
    · show text Input.text (block 1 _) = _
      rw [hb]
      exact hgo rest
    · show text Input.text (block 4 _) = _
      rw [hb]
      exact hgo rest
  · rw [he]
    show text Input.text (longBlock _ _) = _
    rw [longBlock_littleEndian h]
    exact hgo rest

theorem natural_littleEndian {w : Nat} {n : Int} (h0 : 0 ≤ n) (hw : n.toNat < Bytes.room w)
    (rest : Bytes) :
    natural w (Bytes.littleEndian w n.toNat ++ rest) = .ok (.token (.integer n), rest) := by
  unfold natural
  rw [number_littleEndian hw]
  simp [bind, Except.bind, Int.toNat_of_nonneg h0]

/-- An integer in two's complement behind its size. -/
theorem signed_signed {n : Int} {w : Nat} (h : ofSigned (Token.signed w n) = n) (rest : Bytes) :
    signed (.ok (Token.signed w n, rest)) = .ok (.token (.integer n), rest) := by
  unfold signed
  simp [bind, Except.bind, h]

theorem read_integer {n : Int} (h : 2 * Token.signedSize n < Bytes.room 4) (rest : Bytes) :
    read ((Token.integer n).bytes ++ rest) = .ok (.token (.integer n), rest) := by
  have h1 : Bytes.room 1 = 0x100 := rfl
  have h2 : Bytes.room 2 = 0x10000 := rfl
  have h4 : Bytes.room 4 = 0x100000000 := rfl
  show read (Token.integerBytes n ++ rest) = _
  unfold Token.integerBytes
  split
  · rename_i hn
    exact natural_littleEndian (w := 1) hn.1 (by omega) rest
  split
  · rename_i hn
    exact natural_littleEndian (w := 2) hn.1 (by omega) rest
  split
  · rename_i hn
    have hs : ofSigned (Token.signed 4 n) = n := ofSigned_signed (by omega) (by omega)
    have ht := take_append (Token.signed 4 n) rest
    rw [show (Token.signed 4 n).length = 4 from Bytes.length_littleEndian _ _] at ht
    show signed (take 4 (Token.signed 4 n ++ rest)) = _
    rw [ht]
    exact signed_signed hs rest
  · obtain ⟨hlo, hhi⟩ := Token.signedSize_room n
    have hs : ofSigned (Token.signed (Token.signedSize n) n) = n := ofSigned_signed hlo hhi
    have hlen : (Token.signed (Token.signedSize n) n).length = Token.signedSize n :=
      Bytes.length_littleEndian _ _
    dsimp only
    split
    · rename_i hw
      have hb := block_littleEndian (w := 1) (b := Token.signed (Token.signedSize n) n)
        (by omega) rest
      rw [hlen] at hb
      show signed (block 1 (Bytes.littleEndian 1 (Token.signedSize n) ++
        Token.signed (Token.signedSize n) n ++ rest)) = _
      rw [hb]
      exact signed_signed hs rest
    · -- the size itself has a sign here, and is no less than nought
      have hz := signedNumber_littleEndian (w := 4) h
        (Token.signed (Token.signedSize n) n ++ rest)
      have ht := take_append (Token.signed (Token.signedSize n) n) rest
      rw [hlen] at ht
      show signed (signedBlock (Bytes.littleEndian 4 (Token.signedSize n) ++
        Token.signed (Token.signedSize n) n ++ rest)) = _
      unfold signedBlock
      rw [List.append_assoc, hz]
      have hneg : ¬ ((Token.signedSize n : Int) < 0) := by omega
      simp only [bind, Except.bind, if_neg hneg, Int.toNat_natCast, ht]
      exact signed_signed hs rest

theorem read_reuse {i : Nat} (h : i < Bytes.room 4) (rest : Bytes) :
    read ((Token.reuse i).bytes ++ rest) = .ok (.token (.reuse i), rest) := by
  have hgo : ∀ w, i < Bytes.room w →
      reuse w (Bytes.littleEndian w i ++ rest) = .ok (.token (.reuse i), rest) := by
    intro w hw
    unfold reuse
    rw [number_littleEndian hw]
    rfl
  show read ((if i < 0x100 then 0x68 :: Bytes.littleEndian 1 i
    else 0x6a :: Bytes.littleEndian 4 i) ++ rest) = _
  split
  · rename_i hi
    exact hgo 1 hi
  · exact hgo 4 h

theorem read_format {v : UInt8} (h : v.toNat ≤ maxFormat) (rest : Bytes) :
    read ((Token.format v).bytes ++ rest) = .ok (.token (.format v), rest) := by
  have hn : number 1 (v :: rest) = .ok (v.toNat, rest) := by
    simp [number, take, bind, Except.bind, Bytes.ofLittleEndian]
  have hlt : ¬ maxFormat < v.toNat := by omega
  show format (v :: rest) = _
  unfold format
  rw [hn]
  simp [bind, Except.bind, hlt]

/-- The size of a frame is read back if that much follows. -/
theorem read_frame {n : Nat} (h : n < Bytes.room 8) {rest : Bytes} (hr : n ≤ rest.length) :
    read ((Token.frame n).bytes ++ rest) = .ok (.token (.frame n), rest) := by
  have hlen : (rest.take n).length = n := by simp [hr]
  have hb := longBlock_littleEndian (b := rest.take n) (by rw [hlen]; exact h)
    (fun n => .wire (Input.excess .frameRange n)) (rest.drop n)
  rw [hlen, List.append_assoc, List.take_append_drop] at hb
  have hdrop : (Bytes.littleEndian 8 n ++ rest).drop 8 = rest := by
    have hl := Bytes.length_littleEndian 8 n
    rw [List.drop_append_of_le_length (by omega), List.drop_of_length_le (by omega)]
    rfl
  show frame (Bytes.littleEndian 8 n ++ rest) = _
  unfold frame
  rw [hb]
  simp only [bind, Except.bind, hlen, hdrop]

/-- Every other token is read back from its bytes. -/
theorem read_bytes {t : Token} (h : t.Fits) (hf : ∀ n, t ≠ .frame n) (rest : Bytes) :
    read (t.bytes ++ rest) = .ok (.token t, rest) := by
  cases t with
  | frame n => exact absurd rfl (hf n)
  | format v => exact read_format h rest
  | text t => exact read_text h rest
  | octets b => exact read_octets h rest
  | integer n => exact read_integer h rest
  | reuse i => exact read_reuse h rest
  | _ => rfl

end Instruction

end Wire

end ClusterLink
