/-
# The longest packed beginning

Which byte strings can be unpacked, and what becomes of all others. Every byte
string begins with packed sequences, at least with the empty one, and one of
them is the longest (`Records.Longest`). What follows it is too short for the
record that it begins (`Records.Incomplete`), and this tells the longest one
from the others (`Records.longest_iff`): two packed sequences at the beginning
of the same bytes agree as far as the shorter one goes
(`Records.pack_comparable`), whatever their records look like.

The bytes are unpacked if nothing follows. Otherwise the failure says where
the longest packed beginning ends, and whether a length or a record is cut
short there (`Records.unpackFrom_append`, `Records.unpackFrom_incomplete`).

The records are read in rounds, each of which goes on behind the record that
it read (`Records.round`). Since a record takes its length at least, there
are no more rounds than lengths would fit in the bytes, and the last one
(`Records.rounds_eq`).

Key definitions: `Records.Incomplete`, `Records.Longest`, `Records.round`,
`Records.rounds`, `Records.Grammar`.

Key theorems: `Records.pack_comparable`, `Records.longest_iff`,
`Records.rounds_eq`, `Records.unpack_grammar`.
-/
import ClusterLink.Proofs.Packing

namespace ClusterLink

namespace Records

variable {r r' rest rest' b : Bytes} {rs rs' : List Bytes} {offset : Nat}

/-! ### Packed beginnings -/

/-- The length that bytes begin with. -/
def claimed (rest : Bytes) : Nat := Bytes.ofLittleEndian (rest.take lengthSize)

/-- There are too few bytes for a length, or for a record of the length that they begin with. -/
def Incomplete (rest : Bytes) : Prop :=
  rest.length < lengthSize ∨ rest.length < lengthSize + claimed rest

/-- A packed sequence that bytes begin with, and no longer one does. -/
structure Longest (rs : List Bytes) (b : Bytes) : Prop where
  fits : Fits rs
  begins : pack rs <+: b
  longest : ∀ {rs' : List Bytes}, Fits rs' → pack rs' <+: b →
    (pack rs').length ≤ (pack rs).length

theorem claimed_packOne (h : r.length < Bytes.room lengthSize) (rest : Bytes) :
    claimed (packOne r ++ rest) = r.length := by
  rw [claimed, take_packOne, Bytes.ofLittleEndian_littleEndian h]

/-- A record tells where it ends. -/
theorem packOne_inj (h : r.length < Bytes.room lengthSize) (h' : r'.length < Bytes.room lengthSize)
    (heq : packOne r ++ rest = packOne r' ++ rest') : r = r' ∧ rest = rest' := by
  have hlen : r.length = r'.length := by
    rw [← claimed_packOne h rest, heq, claimed_packOne h']
  have hbody : r ++ rest = r' ++ rest' := by
    rw [← drop_packOne r rest, heq, drop_packOne]
  exact List.append_inj hbody hlen

/-- A whole record is no part of one. -/
theorem not_incomplete_packOne (h : r.length < Bytes.room lengthSize) :
    ¬ Incomplete (packOne r ++ rest) := by
  intro hi
  have hlen : (packOne r ++ rest).length = lengthSize + r.length + rest.length := by simp
  unfold Incomplete at hi
  rw [claimed_packOne h, hlen] at hi
  omega

/-- Bytes that are no part of a record begin with a whole one. -/
theorem exists_of_not_incomplete (h : ¬ Incomplete b) :
    ∃ r rest, r.length < Bytes.room lengthSize ∧ b = packOne r ++ rest := by
  unfold Incomplete claimed at h
  apply exists_packOne
  · omega
  · rw [List.length_drop]
    omega

/-- Of two packed sequences that the same bytes begin with, the longer one begins with the records
of the other. -/
theorem pack_comparable (h : Fits rs) (h' : Fits rs') (hb : pack rs <+: b) (hb' : pack rs' <+: b)
    (hlen : (pack rs').length ≤ (pack rs).length) : rs' <+: rs := by
  induction rs' generalizing rs b with
  | nil => exact List.nil_prefix
  | cons r' rs' ih =>
    obtain ⟨hr', hrs'⟩ := fits_cons.mp h'
    rw [pack_cons, List.length_append, length_packOne] at hlen
    cases rs with
    | nil =>
      have hsize : lengthSize + r'.length + (pack rs').length ≤ 0 := hlen
      have hpos : 0 < lengthSize := by decide
      omega
    | cons r rs =>
      obtain ⟨hr, hrs⟩ := fits_cons.mp h
      obtain ⟨t, rfl⟩ := hb
      obtain ⟨t', heq⟩ := hb'
      rw [pack_cons, pack_cons, List.append_assoc, List.append_assoc] at heq
      obtain ⟨rfl, hrest⟩ := packOne_inj hr' hr heq
      rw [pack_cons, List.length_append, length_packOne] at hlen
      have htail : rs' <+: rs :=
        ih hrs hrs' ⟨t, rfl⟩ ⟨t', hrest⟩ (by omega)
      exact List.cons_prefix_cons.mpr ⟨rfl, htail⟩

/-- The longest packed beginning is the one that a part of a record follows, or nothing. -/
theorem longest_iff : Longest rs b ↔ Fits rs ∧ ∃ rest, b = pack rs ++ rest ∧ Incomplete rest := by
  constructor
  · intro h
    obtain ⟨rest, rfl⟩ := h.begins
    refine ⟨h.fits, rest, rfl, ?_⟩
    by_contra hi
    obtain ⟨r, rest', hr, rfl⟩ := exists_of_not_incomplete hi
    have hfit : Fits (rs ++ [r]) := by
      intro x hx
      rcases List.mem_append.mp hx with hx | hx
      · exact h.fits x hx
      · rwa [List.mem_singleton.mp hx]
    have hone : pack (rs ++ [r]) = pack rs ++ packOne r := by simp [pack]
    have hle : (pack (rs ++ [r])).length ≤ (pack rs).length := by
      apply h.longest hfit
      rw [hone]
      exact ⟨rest', List.append_assoc _ _ _⟩
    have hpos : 0 < lengthSize := by decide
    rw [hone, List.length_append, length_packOne] at hle
    omega
  · rintro ⟨hfit, rest, rfl, hi⟩
    refine ⟨hfit, ⟨rest, rfl⟩, fun {rs'} hfit' hb' => ?_⟩
    by_contra hlt
    obtain ⟨ys, rfl⟩ := pack_comparable hfit' hfit hb' ⟨rest, rfl⟩ (by omega)
    cases ys with
    | nil => simp at hlt
    | cons r ys =>
      -- the rest would begin with a whole record
      rw [pack_append, pack_cons, List.prefix_append_right_inj] at hb'
      obtain ⟨t, rfl⟩ := hb'
      have hr : r.length < Bytes.room lengthSize := hfit' r (by simp)
      rw [List.append_assoc] at hi
      exact not_incomplete_packOne hr hi

theorem Longest.unique (h : Longest rs b) (h' : Longest rs' b) : rs = rs' := by
  have hle : (pack rs').length ≤ (pack rs).length := h.longest h'.fits h'.begins
  have hle' : (pack rs).length ≤ (pack rs').length := h'.longest h.fits h.begins
  have h1 : rs' <+: rs := pack_comparable h.fits h'.fits h.begins h'.begins hle
  have h2 : rs <+: rs' := pack_comparable h'.fits h.fits h'.begins h.begins hle'
  exact h2.eq_of_length (Nat.le_antisymm h2.length_le h1.length_le)

theorem exists_longest (b : Bytes) : ∃ rs, Longest rs b := by
  simp only [longest_iff]
  induction hn : b.length using Nat.strong_induction_on generalizing b with
  | _ n ih =>
    by_cases hi : Incomplete b
    · exact ⟨[], fits_nil, b, rfl, hi⟩
    · obtain ⟨r, rest, hr, rfl⟩ := exists_of_not_incomplete hi
      have hpos : 0 < lengthSize := by decide
      rw [List.length_append, length_packOne] at hn
      obtain ⟨rs, hfit, rest', rfl, hi'⟩ := ih rest.length (by omega) rest rfl
      exact ⟨r :: rs, fits_cons.mpr ⟨hr, hfit⟩, rest', by rw [pack_cons, List.append_assoc], hi'⟩

/-! ### What they are read as -/

/-- Packed records are read, and then what follows them. -/
theorem unpackFrom_append (h : Fits rs) (offset : Nat) (rest : Bytes) :
    unpackFrom offset (pack rs ++ rest) =
      (unpackFrom (offset + (pack rs).length) rest).map (rs ++ ·) := by
  induction rs generalizing offset with
  | nil =>
    show unpackFrom offset rest = (unpackFrom offset rest).map id
    cases unpackFrom offset rest <;> rfl
  | cons r rs ih =>
    obtain ⟨hr, hrs⟩ := fits_cons.mp h
    have hend : offset + lengthSize + r.length + (pack rs).length =
        offset + (pack (r :: rs)).length := by
      rw [pack_cons, List.length_append, length_packOne]
      omega
    have hrec : pack (r :: rs) ++ rest = packOne r ++ (pack rs ++ rest) := by
      rw [pack_cons, List.append_assoc]
    rw [hrec, unpackFrom_packOne offset hr, ih hrs, hend]
    cases unpackFrom (offset + (pack (r :: rs)).length) rest <;> rfl

/-- Of a part of a record nothing is read but where it is cut short. -/
theorem unpackFrom_incomplete (h : Incomplete rest) (offset : Nat) : unpackFrom offset rest =
    if rest = [] then .ok []
    else if rest.length < lengthSize then .error (.cutLength offset)
    else .error (.cutRecord (offset + lengthSize) (claimed rest) (rest.length - lengthSize)) := by
  rw [unpackFrom]
  by_cases hnil : rest = []
  · rw [if_pos hnil, if_pos hnil]
  rw [if_neg hnil, if_neg hnil]
  by_cases hlen : rest.length < lengthSize
  · rw [dif_pos hlen, if_pos hlen]
  rw [dif_neg hlen, if_neg hlen]
  have hbody : (rest.drop lengthSize).length < claimed rest := by
    unfold Incomplete at h
    rw [List.length_drop]
    omega
  rw [← List.length_drop]
  exact if_pos hbody

theorem unpack_of_longest (h : Longest rs (pack rs ++ rest)) : unpack (pack rs ++ rest) =
    if rest = [] then .ok rs
    else if rest.length < lengthSize then .error (.cutLength (pack rs).length)
    else .error (.cutRecord ((pack rs).length + lengthSize) (claimed rest)
      (rest.length - lengthSize)) := by
  have hi : Incomplete rest := by
    obtain ⟨-, rest', heq, hi⟩ := longest_iff.mp h
    rwa [List.append_cancel_left heq]
  rw [unpack, unpackFrom_append h.fits, unpackFrom_incomplete hi, Nat.zero_add]
  by_cases hnil : rest = []
  · rw [if_pos hnil, if_pos hnil]
    exact congrArg Except.ok (List.append_nil rs)
  rw [if_neg hnil, if_neg hnil]
  by_cases hlen : rest.length < lengthSize
  · rw [if_pos hlen]
    rfl
  · rw [if_neg hlen]
    rfl

/-! ### The rounds -/

/-- How far the bytes were read. -/
structure Cursor where
  offset : Nat
  found : List Bytes

/-- What comes of a round. -/
inductive Round
  | ended (r : Except Failure (List Bytes))
  | further (c : Cursor)

/-- A record is read where the cursor is, unless the bytes are at an end. -/
def round (data : Bytes) (c : Cursor) : Round :=
  if data.length ≤ c.offset then .ended (.ok c.found)
  else if data.length < c.offset + lengthSize then .ended (.error (.cutLength c.offset))
  else
    let start := c.offset + lengthSize
    let n := claimed (data.drop c.offset)
    if data.length < start + n then .ended (.error (.cutRecord start n (data.length - start)))
    else .further ⟨start + n, c.found ++ [(data.drop start).take n]⟩

/-- So many rounds, or fewer if they come to an end. -/
def rounds (data : Bytes) : Nat → Cursor → Round
  | 0, c => .further c
  | n + 1, c =>
    match round data c with
    | .further c => rounds data n c
    | .ended r => .ended r

/-- The rounds read what is left of the bytes, and there are no more of them than lengths would fit
in that, and the last one. -/
theorem rounds_from (data : Bytes) {n : Nat} {c : Cursor} (hc : c.offset ≤ data.length)
    (hn : (data.length - c.offset) / lengthSize < n) : rounds data n c =
      .ended ((unpackFrom c.offset (data.drop c.offset)).map (c.found ++ ·)) := by
  have hsize : lengthSize = 8 := rfl
  induction n generalizing c with
  | zero => exact absurd hn (Nat.not_lt_zero _)
  | succ n ih =>
    have hleft : (data.drop c.offset).length = data.length - c.offset := List.length_drop
    rw [rounds, round]
    by_cases hi : Incomplete (data.drop c.offset)
    · -- the last round
      rw [unpackFrom_incomplete hi]
      by_cases hend : data.length ≤ c.offset
      · rw [if_pos hend, if_pos (List.drop_eq_nil_of_le hend)]
        simp [Except.map]
      have hne : data.drop c.offset ≠ [] := fun h => hend (List.drop_eq_nil_iff.mp h)
      rw [if_neg hend, if_neg hne]
      by_cases hlen : data.length < c.offset + lengthSize
      · have hcut : (data.drop c.offset).length < lengthSize := by omega
        rw [if_pos hlen, if_pos hcut]
        rfl
      · have hcut : ¬ (data.drop c.offset).length < lengthSize := by omega
        have hbody : data.length < c.offset + lengthSize + claimed (data.drop c.offset) := by
          unfold Incomplete at hi
          omega
        rw [if_neg hlen, if_neg hcut, hleft, Nat.sub_sub]
        simp only [if_pos hbody]
        rfl
    · -- one record, and the rounds after this one
      obtain ⟨r, rest, hr, heq⟩ := exists_of_not_incomplete hi
      have hrest : data.length - c.offset = lengthSize + r.length + rest.length := by
        rw [← hleft, heq, List.length_append, length_packOne]
      have hclaim : claimed (data.drop c.offset) = r.length := by rw [heq, claimed_packOne hr]
      have hbody : data.drop (c.offset + lengthSize) = r ++ rest := by
        rw [← List.drop_drop, heq, drop_packOne]
      have hafter : data.drop (c.offset + lengthSize + r.length) = rest := by
        rw [← List.drop_drop, hbody, List.drop_left]
      rw [if_neg (by omega), if_neg (by omega)]
      simp only [hclaim, hbody, List.take_left]
      rw [if_neg (by omega)]
      have hfewer : (data.length - (c.offset + lengthSize + r.length)) / lengthSize < n := by
        rw [hsize] at hn hrest ⊢
        omega
      have hnext := ih (c := ⟨c.offset + lengthSize + r.length, c.found ++ [r]⟩)
        (by omega : c.offset + lengthSize + r.length ≤ data.length) hfewer
      simp only [hafter] at hnext
      dsimp only
      rw [hnext, heq, unpackFrom_packOne c.offset hr]
      cases unpackFrom (c.offset + lengthSize + r.length) rest with
      | error f => rfl
      | ok rs => simp [Except.map]

/-- The rounds come to the end that unpacking comes to. -/
theorem rounds_eq (b : Bytes) :
    rounds b (b.length / lengthSize + 1) ⟨0, []⟩ = .ended (unpack b) := by
  have h := rounds_from b (n := b.length / lengthSize + 1) (c := ⟨0, []⟩) (Nat.zero_le _) (by simp)
  rw [h, List.drop_zero, unpack]
  cases unpackFrom 0 b <;> rfl

/-! ### Which bytes are unpacked -/

/-- How bytes are unpacked, by the longest packed sequence that they begin with. -/
structure Grammar : Prop where
  /-- What an argument holds is unpacked. -/
  argument : ∀ {a : Argument} {b : Bytes}, a.copyIn = .ok b → Order.unpacked a = unpack b
  /-- There is just one such sequence. -/
  longest : ∀ b, ∃! rs, Longest rs b
  /-- Unpacking ends. -/
  ends : ∀ b, rounds b (b.length / lengthSize + 1) ⟨0, []⟩ = .ended (unpack b)
  /-- It succeeds if nothing follows the sequence, which is then what is read. -/
  accepted : ∀ {rs rest}, Longest rs (pack rs ++ rest) → ∀ ys,
    (unpack (pack rs ++ rest) = .ok ys ↔ rest = [] ∧ ys = rs)
  /-- Otherwise a length is cut short where the sequence ends, if too few bytes follow for one. -/
  cutLength : ∀ {rs rest}, Longest rs (pack rs ++ rest) → ∀ o,
    (unpack (pack rs ++ rest) = .error (.cutLength o) ↔
      (1 ≤ rest.length ∧ rest.length ≤ 7) ∧ o = (pack rs).length)
  /-- Or else a record is, behind a length that claims more bytes than remain. -/
  cutRecord : ∀ {rs rest}, Longest rs (pack rs ++ rest) → ∀ o n remaining,
    (unpack (pack rs ++ rest) = .error (.cutRecord o n remaining) ↔ 8 ≤ rest.length ∧
      o = (pack rs).length + 8 ∧ n = Bytes.ofLittleEndian (rest.take 8) ∧
        remaining = rest.length - 8)
  /-- There is no other failure. -/
  refused : ∀ {b f}, unpack b = .error f → f.kind = "ValueError" ∧
    ((∃ o, f = .cutLength o) ∨ ∃ o n remaining, f = .cutRecord o n remaining ∧ remaining < n)
  /-- Every number of 64 bits may be claimed, and none is taken for a smaller one. -/
  claims : ∀ {rs n body}, Fits rs → n < Bytes.room 8 → body.length < n →
    unpack (pack rs ++ (Bytes.littleEndian 8 n ++ body)) =
      .error (.cutRecord ((pack rs).length + 8) n body.length)
  /-- A packed sequence that is cut off is read if it is cut between two records, and then it holds
  the records before that. -/
  cuts : ∀ {rs n}, Fits rs → n ≤ (pack rs).length → ∀ ys,
    (unpack ((pack rs).take n) = .ok ys ↔
      ∃ k ≤ rs.length, n = (pack (rs.take k)).length ∧ ys = rs.take k)

/-- Unpacking comes to one of three ends. -/
theorem unpack_cases (b : Bytes) : (∃ rs, unpack b = .ok rs) ∨
    (∃ o, unpack b = .error (.cutLength o)) ∨
      ∃ o n remaining, unpack b = .error (.cutRecord o n remaining) ∧ remaining < n := by
  obtain ⟨rs, h⟩ := exists_longest b
  obtain ⟨-, rest, rfl, hi⟩ := longest_iff.mp h
  rw [unpack_of_longest h]
  by_cases hnil : rest = []
  · exact Or.inl ⟨rs, if_pos hnil⟩
  rw [if_neg hnil]
  by_cases hlen : rest.length < lengthSize
  · exact Or.inr (Or.inl ⟨_, if_pos hlen⟩)
  · refine Or.inr (Or.inr ⟨_, _, _, if_neg hlen, ?_⟩)
    unfold Incomplete at hi
    omega

theorem unpack_cut {n : Nat} {ys : List Bytes} (h : Fits rs) (hn : n ≤ (pack rs).length) :
    unpack ((pack rs).take n) = .ok ys ↔
      ∃ k ≤ rs.length, n = (pack (rs.take k)).length ∧ ys = rs.take k := by
  rw [unpack_eq_ok_iff]
  constructor
  · rintro ⟨hfit, hpack⟩
    have hlen : (pack ys).length = n := by rw [hpack, List.length_take_of_le hn]
    have hbegins : pack ys <+: pack rs := by
      rw [hpack]
      exact List.take_prefix n _
    have hpre : ys <+: rs := pack_comparable h hfit (List.prefix_refl _) hbegins (by omega)
    have htake : ys = rs.take ys.length := List.prefix_iff_eq_take.mp hpre
    exact ⟨ys.length, hpre.length_le, by rw [← htake, hlen], htake⟩
  · rintro ⟨k, -, rfl, rfl⟩
    have hfit : Fits (rs.take k) := fun r hr => h r (List.mem_of_mem_take hr)
    refine ⟨hfit, ?_⟩
    have hsplit : pack rs = pack (rs.take k) ++ pack (rs.drop k) := by
      rw [← pack_append, List.take_append_drop]
    rw [hsplit, List.take_left]

/-- Bytes are unpacked if nothing follows their longest packed beginning. -/
theorem unpack_ok_iff (h : Longest rs (pack rs ++ rest)) (ys : List Bytes) :
    unpack (pack rs ++ rest) = .ok ys ↔ rest = [] ∧ ys = rs := by
  rw [unpack_of_longest h]
  by_cases hnil : rest = []
  · rw [if_pos hnil]
    constructor
    · intro hok
      exact ⟨hnil, (Except.ok.inj hok).symm⟩
    · rintro ⟨-, rfl⟩
      rfl
  · rw [if_neg hnil]
    constructor
    · intro hok
      split at hok <;> cases hok
    · rintro ⟨hnil', -⟩
      exact absurd hnil' hnil

theorem unpack_cutLength_iff (h : Longest rs (pack rs ++ rest)) (o : Nat) :
    unpack (pack rs ++ rest) = .error (.cutLength o) ↔
      (1 ≤ rest.length ∧ rest.length ≤ 7) ∧ o = (pack rs).length := by
  have hsize : lengthSize = 8 := rfl
  rw [unpack_of_longest h]
  by_cases hnil : rest = []
  · simp [hnil]
  have hpos : 0 < rest.length := List.length_pos_iff.mpr hnil
  rw [if_neg hnil]
  by_cases hlen : rest.length < lengthSize
  · rw [if_pos hlen]
    constructor
    · intro heq
      cases heq
      exact ⟨⟨hpos, by omega⟩, rfl⟩
    · rintro ⟨-, rfl⟩
      rfl
  · rw [if_neg hlen]
    constructor
    · intro heq
      cases heq
    · rintro ⟨⟨-, hfew⟩, -⟩
      omega

theorem unpack_cutRecord_iff (h : Longest rs (pack rs ++ rest)) (o n remaining : Nat) :
    unpack (pack rs ++ rest) = .error (.cutRecord o n remaining) ↔ 8 ≤ rest.length ∧
      o = (pack rs).length + 8 ∧ n = Bytes.ofLittleEndian (rest.take 8) ∧
        remaining = rest.length - 8 := by
  have hsize : lengthSize = 8 := rfl
  rw [unpack_of_longest h]
  by_cases hnil : rest = []
  · simp [hnil]
  rw [if_neg hnil]
  by_cases hlen : rest.length < lengthSize
  · rw [if_pos hlen]
    constructor
    · intro heq
      cases heq
    · rintro ⟨hmany, -⟩
      omega
  · rw [if_neg hlen]
    constructor
    · intro heq
      cases heq
      exact ⟨by omega, rfl, rfl, rfl⟩
    · rintro ⟨-, rfl, rfl, rfl⟩
      rfl

theorem unpack_refused {f : Failure} (h : unpack b = .error f) : f.kind = "ValueError" ∧
    ((∃ o, f = .cutLength o) ∨
      ∃ o n remaining, f = .cutRecord o n remaining ∧ remaining < n) := by
  rcases unpack_cases b with ⟨rs, hok⟩ | ⟨o, herr⟩ | ⟨o, n, remaining, herr, hlt⟩
  · rw [h] at hok
    cases hok
  · rw [h] at herr
    obtain rfl := Except.error.inj herr
    exact ⟨rfl, Or.inl ⟨o, rfl⟩⟩
  · rw [h] at herr
    obtain rfl := Except.error.inj herr
    exact ⟨rfl, Or.inr ⟨o, n, remaining, rfl, hlt⟩⟩

/-- A length that claims more than there is fails as it is written, however large it is. -/
theorem unpack_claim {n : Nat} {body : Bytes} (h : Fits rs) (hn : n < Bytes.room lengthSize)
    (hbody : body.length < n) : unpack (pack rs ++ (Bytes.littleEndian lengthSize n ++ body)) =
      .error (.cutRecord ((pack rs).length + lengthSize) n body.length) := by
  have hlen : (Bytes.littleEndian lengthSize n).length = lengthSize :=
    Bytes.length_littleEndian _ _
  have hclaim : claimed (Bytes.littleEndian lengthSize n ++ body) = n := by
    rw [claimed, List.take_left' hlen, Bytes.ofLittleEndian_littleEndian hn]
  have hsize : (Bytes.littleEndian lengthSize n ++ body).length = lengthSize + body.length := by
    rw [List.length_append, hlen]
  have hi : Incomplete (Bytes.littleEndian lengthSize n ++ body) := by
    right
    rw [hclaim, hsize]
    omega
  have hpos : 0 < lengthSize := by decide
  have hne : Bytes.littleEndian lengthSize n ++ body ≠ [] := by
    rw [← List.length_pos_iff, hsize]
    omega
  have hread := unpack_of_longest (longest_iff.mpr ⟨h, _, rfl, hi⟩)
  rw [if_neg hne, if_neg (by omega), hclaim, hsize, Nat.add_sub_cancel_left] at hread
  exact hread

/-- Bytes are unpacked exactly as far as they are packed. -/
theorem unpack_grammar : Grammar where
  argument := Order.unpacked_of_copyIn
  longest b := by
    obtain ⟨rs, h⟩ := exists_longest b
    exact ⟨rs, h, fun rs' h' => h'.unique h⟩
  ends := rounds_eq
  accepted := unpack_ok_iff
  cutLength := unpack_cutLength_iff
  cutRecord := unpack_cutRecord_iff
  refused := unpack_refused
  claims := unpack_claim
  cuts hfit hn _ := unpack_cut hfit hn

end Records

end ClusterLink
