/-
# Tokens laid out in frames

A stream of tokens may have the sizes of frames in between, which say
nothing but that so many bytes follow (`Laid`). What `framed` writes is the
stream of its groups laid out so (`laid_framed`): a frame is closed at the
first group that begins beyond its target, so that no frame holds more than
that and one group.

Running a stream up to its end gives what its tokens give one by one
(`Machine.steps`), whatever frames they are in and whatever comes after
(`runFor_laid`).

Key definitions: `Laid`, `Framing.Gathers`, `Machine.steps`.
Key theorems: `laid_framed`, `runFor_laid`.
-/
import ClusterLink.Proofs.Spelling
import ClusterLink.Wire.Reader

namespace ClusterLink.Wire

/-- The bytes of some tokens, each of which fits, with the sizes of frames in between. -/
inductive Laid : List Token → Bytes → Prop
  | nil : Laid [] []
  | token {t : Token} {ts : List Token} {bs : Bytes} (h : t.Fits) (hf : ∀ n, t ≠ .frame n)
    (H : Laid ts bs) : Laid (t :: ts) (t.bytes ++ bs)
  /-- The size of a frame, which holds something and is there as a whole. -/
  | frame {n : Nat} {ts : List Token} {bs : Bytes} (h : n < Bytes.room 8) (hpos : 0 < n)
    (hn : n ≤ bs.length) (H : Laid ts bs) : Laid ts ((Token.frame n).bytes ++ bs)

namespace Laid

variable {ts us : List Token} {bs cs : Bytes}

theorem append (H : Laid ts bs) (H' : Laid us cs) : Laid (ts ++ us) (bs ++ cs) := by
  induction H with
  | nil => exact H'
  | token h hf _ ih =>
    rw [List.append_assoc]
    exact .token h hf ih
  | frame h hpos hn _ ih =>
    rw [List.append_assoc]
    refine .frame h hpos ?_ ih
    rw [List.length_append]
    omega

/-- Where no token is left, there are no frames either. -/
theorem eq_nil (H : Laid ts bs) (hts : ts = []) : bs = [] := by
  induction H with
  | nil => rfl
  | token => cases hts
  | @frame n us cs _ hpos hn _ ih =>
    rw [ih hts, List.length_nil] at hn
    omega

/-- Tokens may stand outside of all frames. -/
theorem bare {ts : List Token} (h : ∀ t ∈ ts, t.Fits ∧ ∀ n, t ≠ .frame n) :
    Laid ts (ts.map Token.bytes).flatten := by
  induction ts with
  | nil => exact .nil
  | cons t ts ih =>
    obtain ⟨ht, hf⟩ := h t List.mem_cons_self
    exact .token ht hf (ih fun u hu => h u (List.mem_cons_of_mem _ hu))

/-- Tokens may stand in a frame of their own. -/
theorem boxed {ts : List Token} (h : ∀ t ∈ ts, t.Fits ∧ ∀ n, t ≠ .frame n)
    (hpos : 0 < (ts.map Token.bytes).flatten.length)
    (hn : (ts.map Token.bytes).flatten.length < Bytes.room 8) :
    Laid ts ((Token.frame (ts.map Token.bytes).flatten.length).bytes ++
      (ts.map Token.bytes).flatten) :=
  .frame hn hpos (Nat.le_refl _) (bare h)

end Laid

/-! ### Sizes of tokens -/

namespace Token

theorem length_sized (short medium long : UInt8) (n : Nat) :
    (sized short medium long n).length ≤ 9 := by
  unfold sized
  split
  · simp [Bytes.length_littleEndian]
  split
  · simp [Bytes.length_littleEndian]
  · simp [Bytes.length_littleEndian]

theorem length_signed (w : Nat) (n : Int) : (signed w n).length = w :=
  Bytes.length_littleEndian _ _

theorem length_integerBytes (n : Int) : (integerBytes n).length ≤ signedSize n + 5 := by
  unfold integerBytes
  split
  · simp only [List.length_cons, Bytes.length_littleEndian]; omega
  split
  · simp only [List.length_cons, Bytes.length_littleEndian]; omega
  split
  · simp only [List.length_cons, length_signed]; omega
  dsimp only
  split <;>
    simp only [List.length_cons, List.length_append, Bytes.length_littleEndian, length_signed] <;>
    omega

/-- A token that may be in a frame is not long. -/
theorem length_bytes_le {t : Token} (h : t.Fits) (hs : Framing.contentSize t < frameTarget) :
    t.bytes.length ≤ Bytes.room 4 := by
  have hroom : Bytes.room 4 = 0x100000000 := rfl
  have htarget : frameTarget = 65536 := rfl
  cases t with
  | text s =>
    have hl := length_sized 0x8c 0x58 0x8d s.bytes.length
    have hc : s.bytes.length < 65536 := hs
    show (sized 0x8c 0x58 0x8d s.bytes.length ++ s.bytes).length ≤ _
    rw [List.length_append]
    omega
  | octets b =>
    have hl := length_sized 0x43 0x42 0x8e b.length
    have hc : b.length < 65536 := hs
    show (sized 0x43 0x42 0x8e b.length ++ b).length ≤ _
    rw [List.length_append]
    omega
  | integer n =>
    have hl := length_integerBytes n
    have hn : 2 * signedSize n < Bytes.room 4 := h
    show (integerBytes n).length ≤ _
    omega
  | frame n =>
    show (0x95 :: Bytes.littleEndian 8 n).length ≤ _
    rw [List.length_cons, Bytes.length_littleEndian]
    omega
  | reuse i =>
    show (if i < 0x100 then 0x68 :: Bytes.littleEndian 1 i
      else 0x6a :: Bytes.littleEndian 4 i).length ≤ _
    split <;> rw [List.length_cons, Bytes.length_littleEndian] <;> omega
  | _ => rw [hroom]; exact Nat.le_of_ble_eq_true rfl

/-- Every token takes a byte. -/
theorem bytes_ne_nil (t : Token) : t.bytes ≠ [] := by
  cases t with
  | text s =>
    show sized 0x8c 0x58 0x8d s.bytes.length ++ s.bytes ≠ []
    unfold sized
    split
    · exact List.cons_ne_nil _ _
    split <;> exact List.cons_ne_nil _ _
  | octets b =>
    show sized 0x43 0x42 0x8e b.length ++ b ≠ []
    unfold sized
    split
    · exact List.cons_ne_nil _ _
    split <;> exact List.cons_ne_nil _ _
  | integer n =>
    show integerBytes n ≠ []
    unfold integerBytes
    split
    · exact List.cons_ne_nil _ _
    split
    · exact List.cons_ne_nil _ _
    split
    · exact List.cons_ne_nil _ _
    · dsimp only
      split <;> exact List.cons_ne_nil _ _
  | reuse i =>
    show (if i < 0x100 then 0x68 :: Bytes.littleEndian 1 i
      else 0x6a :: Bytes.littleEndian 4 i) ≠ []
    split <;> exact List.cons_ne_nil _ _
  | _ => exact List.cons_ne_nil _ _

end Token

/-! ### Gathering tokens into frames -/

namespace Framing

theorem sizeOf_eq (pieces : List Bytes) : sizeOf pieces = pieces.flatten.length := by
  have hgo : ∀ (ps : List Bytes) (n : Nat),
      ps.foldl (fun n p => n + p.length) n = n + ps.flatten.length := by
    intro ps
    induction ps with
    | nil => exact fun n => rfl
    | cons p ps ih =>
      intro n
      rw [List.foldl_cons, ih, List.flatten_cons, List.length_append]
      omega
  rw [sizeOf, hgo, Nat.zero_add]

/-- The tokens that were put so far are laid out in what was written, and stand bare in the open
frame, which holds no more than a bound. -/
structure Gathers (f : Framing) (ts : List Token) (bound : Nat) : Prop where
  cut : ∃ past present, ts = past ++ present ∧ Laid past f.written.reverse.flatten ∧
    f.open.getD [] = (present.map Token.bytes).reverse ∧
      ∀ t ∈ present, t.Fits ∧ ∀ n, t ≠ .frame n
  size : sizeOf (f.open.getD []) ≤ bound

variable {f : Framing} {ts : List Token} {bound : Nat}

theorem gathers_start : start.Gathers [] 0 :=
  ⟨⟨[], [], rfl, .nil, rfl, by simp⟩, Nat.le_refl _⟩

theorem length_reverse_flatten (pieces : List Bytes) :
    pieces.reverse.flatten.length = pieces.flatten.length := by
  rw [List.length_flatten, List.length_flatten, List.map_reverse, List.sum_reverse]

/-- Closing the frame lays everything out. -/
theorem Gathers.close (h : f.Gathers ts bound) (hb : bound < Bytes.room 8) :
    Laid ts f.close.written.reverse.flatten ∧ f.close.open = none := by
  obtain ⟨⟨past, present, rfl, hpast, hopen, hfit⟩, hsize⟩ := h
  unfold Framing.close
  cases ho : f.open with
  | none =>
    have hp : present = [] := by simpa [ho] using hopen
    rw [hp, List.append_nil]
    exact ⟨hpast, ho⟩
  | some pieces =>
    have hpieces : pieces = (present.map Token.bytes).reverse := by simpa [ho] using hopen
    have hlen : sizeOf pieces = (present.map Token.bytes).flatten.length := by
      rw [sizeOf_eq, hpieces, length_reverse_flatten]
    have hlt : (present.map Token.bytes).flatten.length < Bytes.room 8 := by
      rw [ho, Option.getD_some, hlen] at hsize
      omega
    refine ⟨?_, rfl⟩
    dsimp only
    split
    · rename_i hmin
      have hpos : 0 < (present.map Token.bytes).flatten.length := by
        rw [← hlen]
        exact Nat.lt_of_lt_of_le (by decide) hmin
      have hbytes : (pieces ++ [(Token.frame (sizeOf pieces)).bytes] ++ f.written).reverse.flatten =
          f.written.reverse.flatten ++ ((Token.frame (sizeOf pieces)).bytes ++
            (present.map Token.bytes).flatten) := by
        rw [hpieces]
        simp
      rw [hbytes, hlen]
      exact hpast.append (.boxed hfit hpos hlt)
    · have hbytes : (pieces ++ [] ++ f.written).reverse.flatten =
          f.written.reverse.flatten ++ (present.map Token.bytes).flatten := by
        rw [hpieces]
        simp
      rw [hbytes]
      exact hpast.append (.bare hfit)

/-- Where a group begins, the open frame holds no more than its target. -/
theorem Gathers.boundary (h : f.Gathers ts bound) (hb : bound < Bytes.room 8) :
    f.boundary.Gathers ts frameTarget := by
  have hclose := h.close hb
  unfold Framing.boundary
  cases ho : f.open with
  | none => exact ⟨h.cut, by rw [ho]; exact Nat.zero_le _⟩
  | some pieces =>
    dsimp only
    split
    · refine ⟨⟨ts, [], by simp, hclose.1, by rw [hclose.2]; rfl, by simp⟩, ?_⟩
      rw [hclose.2]
      exact Nat.zero_le _
    · rename_i hs
      refine ⟨h.cut, ?_⟩
      rw [ho, Option.getD_some]
      exact Nat.le_of_not_le hs

theorem Gathers.put (h : f.Gathers ts bound) (hb : bound < Bytes.room 8) {t : Token}
    (ht : t.Fits) (hf : ∀ n, t ≠ .frame n) :
    (f.put t).Gathers (ts ++ [t]) (bound + Bytes.room 4) := by
  unfold Framing.put
  split
  · -- the token stands alone, outside of all frames
    obtain ⟨hlaid, hopen⟩ := h.close hb
    have hone : Laid [t] (t.bytes ++ []) := .token ht hf .nil
    have hbytes : (t.bytes :: f.close.written).reverse.flatten =
        f.close.written.reverse.flatten ++ (t.bytes ++ []) := by
      simp
    refine ⟨⟨ts ++ [t], [], by simp, ?_, ?_, by simp⟩, ?_⟩
    · show Laid _ (t.bytes :: f.close.written).reverse.flatten
      rw [hbytes]
      exact hlaid.append hone
    · show f.close.open.getD [] = _
      rw [hopen]
      rfl
    · show sizeOf (f.close.open.getD []) ≤ _
      rw [hopen]
      exact Nat.zero_le _
  · rename_i hs
    obtain ⟨⟨past, present, rfl, hpast, hopen, hfit⟩, hsize⟩ := h
    have hl := Token.length_bytes_le ht (Nat.lt_of_not_le hs)
    refine ⟨⟨past, present ++ [t], by rw [List.append_assoc], hpast, ?_, ?_⟩, ?_⟩
    · show t.bytes :: f.open.getD [] = _
      rw [hopen]
      simp
    · intro u hu
      rcases List.mem_append.mp hu with hu | hu
      · exact hfit u hu
      · obtain rfl := List.mem_singleton.mp hu
        exact ⟨ht, hf⟩
    · show sizeOf (t.bytes :: f.open.getD []) ≤ _
      rw [sizeOf_eq] at hsize
      rw [sizeOf_eq, List.flatten_cons, List.length_append]
      omega

/-- The tokens of a group go into one frame, but for those that stand alone. -/
theorem Gathers.group {g : List Token} (h : f.Gathers ts bound)
    (hb : bound + g.length * Bytes.room 4 < Bytes.room 8)
    (hg : ∀ t ∈ g, t.Fits ∧ ∀ n, t ≠ .frame n) :
    (g.foldl Framing.put f).Gathers (ts ++ g) (bound + g.length * Bytes.room 4) := by
  induction g generalizing f ts bound with
  | nil =>
    rw [List.append_nil, List.length_nil, Nat.zero_mul, Nat.add_zero]
    exact h
  | cons t g ih =>
    have hmul : (g.length + 1) * Bytes.room 4 = g.length * Bytes.room 4 + Bytes.room 4 :=
      Nat.succ_mul _ _
    rw [List.length_cons, hmul] at hb
    obtain ⟨ht, hf⟩ := hg t List.mem_cons_self
    have hput := h.put (by omega) ht hf
    have hrest := ih hput (by omega) fun u hu => hg u (List.mem_cons_of_mem _ hu)
    rw [List.append_assoc, List.singleton_append] at hrest
    refine ⟨hrest.cut, Nat.le_trans hrest.size ?_⟩
    rw [List.length_cons, hmul]
    omega

end Framing

/-- The most tokens that begin with one object. -/
def groupLimit : Nat := 8

/-- What is written lays out the tokens of the groups, if no group is long. -/
theorem laid_framed {gs : List (List Token)}
    (h : ∀ g ∈ gs, g.length ≤ groupLimit ∧ ∀ t ∈ g, t.Fits ∧ ∀ n, t ≠ .frame n) :
    Laid gs.flatten (framed gs) := by
  have hgo : ∀ (gs : List (List Token)) (f : Framing) (ts : List Token),
      (∀ g ∈ gs, g.length ≤ groupLimit ∧ ∀ t ∈ g, t.Fits ∧ ∀ n, t ≠ .frame n) →
      f.Gathers ts (frameTarget + groupLimit * Bytes.room 4) →
      (gs.foldl (fun f g => g.foldl Framing.put f.boundary) f).Gathers (ts ++ gs.flatten)
        (frameTarget + groupLimit * Bytes.room 4) := by
    have hcap : groupLimit * Bytes.room 4 = 0x800000000 := rfl
    have h8 : Bytes.room 8 = 0x10000000000000000 := rfl
    have ht : frameTarget = 65536 := rfl
    intro gs
    induction gs with
    | nil =>
      intro f ts _ hf
      rw [List.flatten_nil, List.append_nil]
      exact hf
    | cons g gs ih =>
      intro f ts hgs hf
      obtain ⟨hlen, hg⟩ := hgs g List.mem_cons_self
      have hmul : g.length * Bytes.room 4 ≤ groupLimit * Bytes.room 4 :=
        Nat.mul_le_mul_right _ hlen
      have hgroup := (hf.boundary (by omega)).group (g := g) (by omega) hg
      have hrest := ih _ (ts ++ g) (fun u hu => hgs u (List.mem_cons_of_mem _ hu))
        ⟨hgroup.cut, Nat.le_trans hgroup.size (by omega)⟩
      rw [List.append_assoc] at hrest
      exact hrest
  have hall := hgo gs Framing.start [] h ⟨Framing.gathers_start.cut, Nat.zero_le _⟩
  have hb : frameTarget + groupLimit * Bytes.room 4 < Bytes.room 8 := by decide
  exact (hall.close hb).1

/-! ### Running a stream -/

/-- The machine after some tokens, none of which ends the stream. -/
def Machine.steps (m : Machine) : List Token → Except Failure Machine
  | [] => .ok m
  | t :: ts => if t = .stop then .error (.wire .noMessage) else (m.step t).bind (·.steps ts)

theorem Machine.steps_append (m : Machine) (ts us : List Token) :
    m.steps (ts ++ us) = (m.steps ts).bind (·.steps us) := by
  induction ts generalizing m with
  | nil => rfl
  | cons t ts ih =>
    simp only [List.cons_append, steps]
    split
    · rfl
    · cases m.step t with
      | error f => rfl
      | ok m' => exact ih m'

/-- Frames and what comes after have no part in what a stream gives. -/
theorem runFor_laid {ts : List Token} {bs : Bytes} (H : Laid (ts ++ [.stop]) bs) {m m' : Machine}
    (h : m.steps ts = .ok m') {k : Nat} (hk : bs.length < k) (rest : Bytes) :
    runFor k m (bs ++ rest) = m'.result := by
  generalize hus : ts ++ [.stop] = us at H
  induction H generalizing ts m k with
  | nil => simp at hus
  | @frame n us cs hn _ hlen H ih =>
    cases k with
    | zero => omega
    | succ k =>
      have hfit : n ≤ (cs ++ rest).length := by
        rw [List.length_append]
        omega
      have hread := Instruction.read_frame hn hfit
      have hne : Instruction.token (.frame n) ≠ .token .stop := by simp
      rw [List.append_assoc, runFor, hread]
      simp only [bind, Except.bind, if_neg hne]
      refine ih h ?_ hus
      have := List.length_pos_iff.mpr (Token.bytes_ne_nil (.frame n))
      rw [List.length_append] at hk
      omega
  | @token t us cs ht hf H ih =>
    cases k with
    | zero => omega
    | succ k =>
      have hread := Instruction.read_bytes ht hf (cs ++ rest)
      have hpos := List.length_pos_iff.mpr (Token.bytes_ne_nil t)
      rw [List.length_append] at hk
      rw [List.append_assoc, runFor, hread]
      simp only [bind, Except.bind]
      cases ts with
      | nil =>
        obtain ⟨rfl, -⟩ := List.cons.inj hus
        obtain rfl := Except.ok.inj h
        rw [if_pos rfl]
      | cons u ts =>
        obtain ⟨rfl, htail⟩ := List.cons.inj hus
        by_cases hu : u = .stop
        · simp [Machine.steps, hu] at h
        · have hne : Instruction.token u ≠ .token .stop := by simpa using hu
          rw [Machine.steps, if_neg hu] at h
          rw [if_neg hne]
          cases hs : m.step u with
          | error f => simp [hs, Except.bind] at h
          | ok m₁ =>
            have hr : m.run (.token u) = .ok m₁ := hs
            rw [hs] at h
            rw [hr]
            exact ih h (by omega) htail

end ClusterLink.Wire
