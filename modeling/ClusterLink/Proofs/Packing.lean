/-
# Packed sequences

Packing and unpacking are inverse to each other: every sequence whose
lengths fit in front of its records is read back as it was packed, and bytes
that can be read at all are the packed form of what is read. Hence no two
byte strings hold the same sequence, whatever their records look like.

The loop that unpacks is described by its two ways to succeed
(`unpackFrom_eq_ok`): there is nothing left, or there is one record, packed,
and a rest. The first direction is an induction on the sequence by
`unpackFrom_packOne`, the second one by that description; the offset only
matters to the failures and moves along.

Key definitions: `Records.Fits`, `Records.Inverse`.

Key theorems: `Records.unpackFrom_pack`, `Records.pack_of_unpackFrom`,
`Records.pack_unpack_inverse`.
-/
import ClusterLink.Call
import ClusterLink.Envelope.Desk
import Mathlib.Data.Set.Function

namespace ClusterLink

namespace Records

variable {r data : Bytes} {rs : List Bytes} {offset : Nat}

/-- The length of each record fits in front of it. -/
def Fits (rs : List Bytes) : Prop := ∀ r ∈ rs, r.length < Bytes.room lengthSize

instance (rs : List Bytes) : Decidable (Fits rs) :=
  inferInstanceAs (Decidable (∀ r ∈ rs, r.length < Bytes.room lengthSize))

theorem fits_nil : Fits [] := by simp [Fits]

theorem fits_cons : Fits (r :: rs) ↔ r.length < Bytes.room lengthSize ∧ Fits rs := by simp [Fits]

/-! ### Packing -/

theorem pack_cons (r : Bytes) (rs : List Bytes) : pack (r :: rs) = packOne r ++ pack rs := rfl

theorem pack_append (rs rs' : List Bytes) : pack (rs ++ rs') = pack rs ++ pack rs' := by
  simp [pack]

@[simp] theorem length_packOne (r : Bytes) : (packOne r).length = lengthSize + r.length := by
  simp [packOne]

/-- The length of the first record. -/
theorem take_packOne (r rest : Bytes) :
    (packOne r ++ rest).take lengthSize = Bytes.littleEndian lengthSize r.length := by
  have hlen : (Bytes.littleEndian lengthSize r.length).length = lengthSize := by simp
  rw [packOne, List.append_assoc, List.take_append_of_le_length (by omega)]
  exact List.take_of_length_le (by omega)

/-- What follows the length of the first record. -/
theorem drop_packOne (r rest : Bytes) : (packOne r ++ rest).drop lengthSize = r ++ rest := by
  have hlen : (Bytes.littleEndian lengthSize r.length).length = lengthSize := by simp
  rw [packOne, List.append_assoc, List.drop_append_of_le_length (by omega),
    List.drop_eq_nil_of_le (by omega), List.nil_append]

/-! ### The loop -/

/-- One record is read, and what follows it after that. -/
theorem unpackFrom_packOne (offset : Nat) (h : r.length < Bytes.room lengthSize) (rest : Bytes) :
    unpackFrom offset (packOne r ++ rest) =
      (unpackFrom (offset + lengthSize + r.length) rest).map (r :: ·) := by
  have hlen : lengthSize ≤ (packOne r ++ rest).length := by simp [Nat.add_assoc]
  have hne : packOne r ++ rest ≠ [] := by
    intro hnil
    rw [hnil] at hlen
    exact absurd hlen (by decide)
  rw [unpackFrom, if_neg hne, dif_neg (by omega)]
  simp only [take_packOne, drop_packOne, Bytes.ofLittleEndian_littleEndian h]
  rw [if_neg (by simp), List.take_left, List.drop_left]
  cases unpackFrom (offset + lengthSize + r.length) rest <;> rfl

/-- Bytes that are long enough for a length and for a record of that length are one record,
packed, and a rest. -/
theorem exists_packOne (hlen : lengthSize ≤ data.length)
    (hbody : Bytes.ofLittleEndian (data.take lengthSize) ≤ (data.drop lengthSize).length) :
    ∃ r rest, r.length < Bytes.room lengthSize ∧ data = packOne r ++ rest := by
  have htake : (data.take lengthSize).length = lengthSize := by simpa using hlen
  let n := Bytes.ofLittleEndian (data.take lengthSize)
  let r := (data.drop lengthSize).take n
  have hn : n < Bytes.room lengthSize := by
    have := Bytes.ofLittleEndian_lt (data.take lengthSize)
    rwa [htake] at this
  have hr : r.length = n := List.length_take_of_le hbody
  have hback : Bytes.littleEndian lengthSize n = data.take lengthSize := by
    have := Bytes.littleEndian_ofLittleEndian (data.take lengthSize)
    rwa [htake] at this
  refine ⟨r, (data.drop lengthSize).drop n, hr ▸ hn, ?_⟩
  have hbodies : r ++ (data.drop lengthSize).drop n = data.drop lengthSize :=
    List.take_append_drop n _
  calc data = data.take lengthSize ++ data.drop lengthSize := (List.take_append_drop _ _).symm
    _ = data.take lengthSize ++ (r ++ (data.drop lengthSize).drop n) := by rw [hbodies]
    _ = packOne r ++ (data.drop lengthSize).drop n := by
        rw [packOne, hr, hback, List.append_assoc]

/-- What is read is nothing of nothing, or one record and then the others. -/
theorem unpackFrom_eq_ok (h : unpackFrom offset data = .ok rs) :
    (data = [] ∧ rs = []) ∨ ∃ r rest rs', r.length < Bytes.room lengthSize ∧
      data = packOne r ++ rest ∧ rs = r :: rs' ∧
        unpackFrom (offset + lengthSize + r.length) rest = .ok rs' := by
  by_cases hnil : data = []
  · rw [unpackFrom, if_pos hnil] at h
    exact Or.inl ⟨hnil, (Except.ok.inj h).symm⟩
  by_cases hlen : data.length < lengthSize
  · rw [unpackFrom, if_neg hnil, dif_pos hlen] at h
    cases h
  by_cases hbody : (data.drop lengthSize).length < Bytes.ofLittleEndian (data.take lengthSize)
  · rw [unpackFrom, if_neg hnil, dif_neg hlen] at h
    simp only [if_pos hbody] at h
    cases h
  obtain ⟨r, rest, hr, rfl⟩ := exists_packOne (Nat.not_lt.mp hlen) (Nat.not_lt.mp hbody)
  rw [unpackFrom_packOne offset hr] at h
  cases hrest : unpackFrom (offset + lengthSize + r.length) rest with
  | error f => rw [hrest] at h; cases h
  | ok rs' =>
    rw [hrest] at h
    exact Or.inr ⟨r, rest, rs', hr, rfl, (Except.ok.inj h).symm, hrest⟩

/-- A sequence that was packed is read back. -/
theorem unpackFrom_pack (offset : Nat) (h : Fits rs) : unpackFrom offset (pack rs) = .ok rs := by
  induction rs generalizing offset with
  | nil => simp [pack, unpackFrom]
  | cons r rs ih =>
    obtain ⟨hr, hrs⟩ := fits_cons.mp h
    rw [pack_cons, unpackFrom_packOne offset hr, ih _ hrs]
    rfl

/-- Bytes that can be read are the packed form of the sequence that is read. -/
theorem pack_of_unpackFrom (h : unpackFrom offset data = .ok rs) : Fits rs ∧ pack rs = data := by
  induction rs generalizing offset data with
  | nil =>
    rcases unpackFrom_eq_ok h with ⟨rfl, -⟩ | ⟨r, rest, rs', -, -, hrs, -⟩
    · exact ⟨fits_nil, rfl⟩
    · cases hrs
  | cons r rs ih =>
    rcases unpackFrom_eq_ok h with ⟨-, hrs⟩ | ⟨r', rest, rs', hr, rfl, hrs, hrest⟩
    · cases hrs
    · obtain ⟨rfl, rfl⟩ := List.cons.inj hrs
      obtain ⟨hfit, hpack⟩ := ih hrest
      exact ⟨fits_cons.mpr ⟨hr, hfit⟩, by rw [pack_cons, hpack]⟩

theorem unpack_eq_ok_iff : unpack data = .ok rs ↔ Fits rs ∧ pack rs = data := by
  constructor
  · exact pack_of_unpackFrom
  · rintro ⟨hfit, rfl⟩
    exact unpackFrom_pack 0 hfit

theorem unpack_pack (h : Fits rs) : unpack (pack rs) = .ok rs :=
  unpack_eq_ok_iff.mpr ⟨h, rfl⟩

end Records

/-! ### Arguments -/

namespace Argument

/-- The bytes of a list are those of its elements. -/
theorem copyInAll_list (xs : List Argument) : (list xs).copyInAll = xs.mapM copyIn := rfl

/-- A list of byte strings is copied as it is. -/
theorem copyInAll_octets (bs : List Bytes) : (list (bs.map octets)).copyInAll = .ok bs := by
  rw [copyInAll_list]
  induction bs with
  | nil => rfl
  | cons b bs ih =>
    rw [List.map_cons, List.mapM_cons, ih]
    rfl

end Argument

theorem Desk.packArgument_of_copyInAll {a : Argument} {bs : List Bytes}
    (h : a.copyInAll = .ok bs) : packArgument a = .ok (Records.pack bs) := by
  rw [packArgument, h]
  rfl

theorem Order.unpacked_of_copyIn {a : Argument} {b : Bytes} (h : a.copyIn = .ok b) :
    unpacked a = Records.unpack b := by
  rw [unpacked, h]
  rfl

namespace Records

/-- Packing an argument that holds a sequence, and unpacking an argument that holds a packed one,
are inverse to each other. -/
structure Inverse : Prop where
  /-- What was packed in an envelope is what is unpacked from it. -/
  unpacked {items : Argument} {xs : List Bytes} (o : Ownership) (hcopy : items.copyInAll = .ok xs)
    (hfit : Fits xs) :
    ∃ b, Desk.packArgument items = .ok b ∧ Order.unpacked (.envelope (.fresh b o)) = .ok xs
  /-- What was unpacked is packed to the bytes that it came from. -/
  packed {a : Argument} {ys : List Bytes} (h : Order.unpacked a = .ok ys) :
    Desk.packArgument (.list (ys.map .octets)) = a.copyIn
  /-- Each sequence whose lengths fit is unpacked from just one byte string. -/
  bijective : Set.BijOn unpack {b | ∃ ys, unpack b = .ok ys} (Except.ok '' {ys | Fits ys})
  /-- Lists that are joined are packed to bytes that are joined. -/
  joined {items items' : List Argument} {b b' : Bytes}
    (h : Desk.packArgument (.list items) = .ok b)
    (h' : Desk.packArgument (.list items') = .ok b') :
    Desk.packArgument (.list (items ++ items')) = .ok (b ++ b')

/-- Unpacking is one to one where it succeeds, and takes every sequence that fits as its value. -/
theorem unpack_bijOn :
    Set.BijOn unpack {b | ∃ ys, unpack b = .ok ys} (Except.ok '' {ys | Fits ys}) := by
  refine ⟨?_, ?_, ?_⟩
  · rintro b ⟨ys, h⟩
    exact ⟨ys, (unpack_eq_ok_iff.mp h).1, h.symm⟩
  · rintro b ⟨ys, h⟩ b' - heq
    have h' : unpack b' = .ok ys := heq.symm.trans h
    exact (unpack_eq_ok_iff.mp h).2.symm.trans (unpack_eq_ok_iff.mp h').2
  · rintro - ⟨ys, hfit, rfl⟩
    exact ⟨pack ys, ⟨ys, unpack_pack hfit⟩, unpack_pack hfit⟩

end Records

theorem Desk.packArgument_append {items items' : List Argument} {b b' : Bytes}
    (h : packArgument (.list items) = .ok b) (h' : packArgument (.list items') = .ok b') :
    packArgument (.list (items ++ items')) = .ok (b ++ b') := by
  cases hxs : (Argument.list items).copyInAll with
  | error f => rw [packArgument, hxs] at h; cases h
  | ok xs =>
    cases hys : (Argument.list items').copyInAll with
    | error f => rw [packArgument, hys] at h'; cases h'
    | ok ys =>
      have hboth : (Argument.list (items ++ items')).copyInAll = .ok (xs ++ ys) := by
        rw [Argument.copyInAll_list] at *
        rw [List.mapM_append, hxs, hys]
        rfl
      rw [packArgument_of_copyInAll hxs] at h
      rw [packArgument_of_copyInAll hys] at h'
      rw [packArgument_of_copyInAll hboth, Records.pack_append, Except.ok.inj h, Except.ok.inj h']

/-- Packing and unpacking are inverse to each other, for all arguments that hold sequences. -/
theorem Records.pack_unpack_inverse : Records.Inverse where
  unpacked {items xs} o hcopy hfit := by
    refine ⟨pack xs, Desk.packArgument_of_copyInAll hcopy, ?_⟩
    rw [Order.unpacked_of_copyIn (b := pack xs) (by simp [Argument.copyIn])]
    exact unpack_pack hfit
  packed {a ys} h := by
    cases hcopy : a.copyIn with
    | error f => rw [Order.unpacked, hcopy] at h; cases h
    | ok b =>
      rw [Order.unpacked_of_copyIn hcopy] at h
      rw [Desk.packArgument_of_copyInAll (Argument.copyInAll_octets ys),
        (unpack_eq_ok_iff.mp h).2]
  bijective := unpack_bijOn
  joined := Desk.packArgument_append

/-- A record may look like a length, and none at all is a record as well. -/
example : Records.unpack (Records.pack [[], Bytes.littleEndian 8 3, [7]]) =
    .ok [[], Bytes.littleEndian 8 3, [7]] := by
  rw [Records.unpack_eq_ok_iff]
  exact ⟨by decide, rfl⟩

end ClusterLink
