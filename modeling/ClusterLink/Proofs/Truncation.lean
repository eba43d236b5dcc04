/-
# Truncated messages

A message that is cut short is refused, wherever the cut falls. In the
version, what is left of it is read as another version. Behind it the
instructions in front of the cut are read as ever; the one that the cut
falls into is not there as a whole, and between two instructions there is no
opcode where one is due. The cut may fall into a byte string that looks like
the end of a stream: that is content, which is there as a whole or not at
all. And a frame that the cut falls into is refused where it begins.

So no message begins with another one.

A size of half the room of eight bytes or more counts as out of range, and
not as too much for what follows. No byte string is that long
(`Input.sizeLimit`).

Key definitions: `Cut`, `Fault.isCut`, `Refused`.
Key theorems: `Instruction.read_cut`, `runFor_cut`, `decode_truncated`.
-/
import ClusterLink.Proofs.RoundTrip

namespace ClusterLink.Wire

/-! ### Cuts -/

/-- The first bytes of a stream, but not all of them. -/
structure Cut (p bs : Bytes) : Prop where
  front : p <+: bs
  short : p.length < bs.length

namespace Cut

variable {p a b : Bytes}

theorem of_ne (h : p <+: a) (hne : p ≠ a) : Cut p a :=
  ⟨h, Nat.lt_of_le_of_ne h.length_le fun hl => hne (h.eq_of_length hl)⟩

/-- A cut falls into the first part, or into the second. -/
theorem append (h : Cut p (a ++ b)) : Cut p a ∨ ∃ q, p = a ++ q ∧ Cut q b := by
  rcases Nat.lt_or_ge p.length a.length with hl | hl
  · have hfront : p <+: a :=
      List.prefix_of_prefix_length_le h.front (List.prefix_append a b) (Nat.le_of_lt hl)
    exact Or.inl ⟨hfront, hl⟩
  · obtain ⟨q, rfl⟩ := List.prefix_of_prefix_length_le (List.prefix_append a b) h.front hl
    refine Or.inr ⟨q, rfl, (List.prefix_append_right_inj a).mp h.front, ?_⟩
    have hs := h.short
    rw [List.length_append, List.length_append] at hs
    omega

/-- A cut falls in front of the first byte, or behind it. -/
theorem cons {x : UInt8} (h : Cut p (x :: a)) : p = [] ∨ ∃ q, p = x :: q ∧ Cut q a := by
  have h1 : Cut p ([x] ++ a) := h
  rcases h1.append with hx | ⟨q, rfl, hq⟩
  · exact Or.inl (List.length_eq_zero_iff.mp (Nat.lt_one_iff.mp hx.short))
  · exact Or.inr ⟨q, rfl, hq⟩

theorem not_nil (h : Cut p []) : False := absurd h.short (Nat.not_lt_zero _)

/-- What is left of a number is too short. -/
theorem littleEndian {w n : Nat} (h : Cut p (Bytes.littleEndian w n)) : p.length < w := by
  have hs := h.short
  rwa [Bytes.length_littleEndian] at hs

end Cut

/-! ### Refusals -/

/-- Whether a stream that was cut can have the fault. -/
def Fault.isCut : Fault → Bool
  | outOfInput | cutShort | beyondReach => true
  | _ => false

theorem Fault.kind_of_isCut {f : Fault} (h : f.isCut = true) :
    f.kind = "EOFError" ∨ f.kind = "UnpicklingError" := by
  cases f <;> first | exact Or.inl rfl | exact Or.inr rfl | cases h

/-- More bytes than there can be. -/
def Input.sizeLimit : Nat := 0x8000000000000000

/-- The reading of a stream that was cut fails for that; the whole had `n` bytes. -/
def Refused {α : Type} (n : Nat) (r : Except Failure α) : Prop :=
  ∃ f : Fault, r = .error (.wire f) ∧ (n < Input.sizeLimit → f.isCut = true)

variable {α β : Type} {n : Nat}

theorem Refused.of_cut {f : Fault} (h : f.isCut = true) :
    Refused n (.error (.wire f) : Except Failure α) :=
  ⟨f, rfl, fun _ => h⟩

/-- What follows does not come about. -/
theorem Refused.bind {r : Except Failure α} (h : Refused n r) (k : α → Except Failure β) :
    Refused n (r.bind k) := by
  obtain ⟨f, rfl, hf⟩ := h
  exact ⟨f, rfl, hf⟩

namespace Input

variable {w : Nat} {p b : Bytes}

theorem take_short (h : p.length < n) : take n p = .error (.wire .cutShort) := by
  unfold take
  dsimp only
  rw [if_pos]
  rw [List.length_take]
  omega

theorem number_short (h : p.length < w) : number w p = .error (.wire .cutShort) := by
  unfold number
  rw [take_short h]
  rfl

theorem signedNumber_short (h : p.length < w) :
    signedNumber w p = .error (.wire .cutShort) := by
  unfold signedNumber
  rw [take_short h]
  rfl

theorem block_cut (hb : b.length < Bytes.room w) (h : Cut p (Bytes.littleEndian w b.length ++ b)) :
    block w p = .error (.wire .cutShort) := by
  unfold block
  rcases h.append with hs | ⟨q, rfl, hq⟩
  · rw [number_short hs.littleEndian]
    rfl
  · rw [number_littleEndian hb]
    exact take_short hq.short

/-- A size that is more than what is left is refused; it is no more than the whole. -/
theorem excess_refused (range : Fault) {k : Nat} (h : k ≤ n) :
    Refused n (.error (.wire (excess range k)) : Except Failure α) := by
  refine ⟨_, rfl, fun hn => ?_⟩
  have hk : ¬ 0x8000000000000000 ≤ k := Nat.not_le_of_lt (Nat.lt_of_le_of_lt h hn)
  unfold excess
  rw [if_neg hk]
  split <;> rfl

theorem longBlock_cut (range : Fault) (hb : b.length < Bytes.room 8) (hn : b.length ≤ n)
    (h : Cut p (Bytes.littleEndian 8 b.length ++ b)) :
    Refused n (longBlock (fun k => .wire (excess range k)) p) := by
  unfold longBlock
  rcases h.append with hs | ⟨q, rfl, hq⟩
  · rw [number_short hs.littleEndian]
    exact .of_cut rfl
  · rw [number_littleEndian hb]
    simp only [bind, Except.bind, take_short hq.short]
    exact excess_refused range hn

theorem signedBlock_cut (hb : 2 * b.length < Bytes.room 4)
    (h : Cut p (Bytes.littleEndian 4 b.length ++ b)) :
    signedBlock p = .error (.wire .cutShort) := by
  unfold signedBlock
  rcases h.append with hs | ⟨q, rfl, hq⟩
  · rw [signedNumber_short hs.littleEndian]
    rfl
  · have hneg : ¬ ((b.length : Int) < 0) := by omega
    rw [signedNumber_littleEndian hb]
    simp only [bind, Except.bind, if_neg hneg, Int.toNat_natCast]
    exact take_short hq.short

end Input

namespace Instruction

open Input

variable {p : Bytes}

/-! ### Instructions -/

theorem read_nil : Refused n (read []) := .of_cut rfl

/-- A content behind its size is cut off in front of its opcode, or behind it. -/
theorem cut_sized {short medium long : UInt8} {b : Bytes}
    (h : Cut p (Token.sized short medium long b.length ++ b)) :
    p = [] ∨ ∃ w code q, (code, w) ∈ [(short, 1), (medium, 4), (long, 8)] ∧ p = code :: q ∧
      (b.length < Bytes.room 8 → b.length < Bytes.room w) ∧
        Cut q (Bytes.littleEndian w b.length ++ b) := by
  unfold Token.sized at h
  split at h
  · rename_i hs
    exact h.cons.imp_right fun ⟨q, hp, hq⟩ => ⟨1, short, q, by simp, hp, fun _ => hs, hq⟩
  split at h
  · rename_i hs
    exact h.cons.imp_right fun ⟨q, hp, hq⟩ => ⟨4, medium, q, by simp, hp, fun _ => hs, hq⟩
  · exact h.cons.imp_right fun ⟨q, hp, hq⟩ => ⟨8, long, q, by simp, hp, id, hq⟩

theorem cut_octets {b : Bytes} (hb : b.length < Bytes.room 8) (hn : b.length ≤ n)
    (h : Cut p (Token.octets b).bytes) : Refused n (read p) := by
  rcases cut_sized h with rfl | ⟨w, code, q, hc, rfl, hw, hq⟩
  · exact read_nil
  · have hw := hw hb
    simp only [List.mem_cons, Prod.mk.injEq, List.not_mem_nil, or_false] at hc
    rcases hc with ⟨rfl, rfl⟩ | ⟨rfl, rfl⟩ | ⟨rfl, rfl⟩
    · show Refused n (octets (block 1 q))
      rw [block_cut hw hq]
      exact .of_cut rfl
    · show Refused n (octets (block 4 q))
      rw [block_cut hw hq]
      exact .of_cut rfl
    · exact (longBlock_cut _ hb hn hq).bind _

theorem cut_text {s : WideText} (hs : s.bytes.length < Bytes.room 8) (hn : s.bytes.length ≤ n)
    (h : Cut p (Token.text s).bytes) : Refused n (read p) := by
  rcases cut_sized h with rfl | ⟨w, code, q, hc, rfl, hw, hq⟩
  · exact read_nil
  · have hw := hw hs
    simp only [List.mem_cons, Prod.mk.injEq, List.not_mem_nil, or_false] at hc
    rcases hc with ⟨rfl, rfl⟩ | ⟨rfl, rfl⟩ | ⟨rfl, rfl⟩
    · show Refused n (text Input.text (block 1 q))
      rw [block_cut hw hq]
      exact .of_cut rfl
    · show Refused n (text Input.text (block 4 q))
      rw [block_cut hw hq]
      exact .of_cut rfl
    · exact (longBlock_cut _ hs hn hq).bind _

theorem cut_natural {w k : Nat} (h : Cut p (Bytes.littleEndian w k)) :
    Refused n (natural w p) := by
  unfold natural
  rw [number_short h.littleEndian]
  exact .of_cut rfl

theorem cut_integer {i : Int} (hi : 2 * Token.signedSize i < Bytes.room 4)
    (h : Cut p (Token.integer i).bytes) : Refused n (read p) := by
  have hlen : (Token.signed (Token.signedSize i) i).length = Token.signedSize i :=
    Token.length_signed _ _
  have h : Cut p (Token.integerBytes i) := h
  unfold Token.integerBytes at h
  split at h
  · rcases h.cons with rfl | ⟨q, rfl, hq⟩
    · exact read_nil
    · exact cut_natural (w := 1) hq
  split at h
  · rcases h.cons with rfl | ⟨q, rfl, hq⟩
    · exact read_nil
    · exact cut_natural (w := 2) hq
  split at h
  · rcases h.cons with rfl | ⟨q, rfl, hq⟩
    · exact read_nil
    · show Refused n (signed (take 4 q))
      rw [take_short (Cut.littleEndian hq)]
      exact .of_cut rfl
  dsimp only at h
  split at h
  · rename_i hw
    rcases Cut.cons h with rfl | ⟨q, rfl, hq⟩
    · exact read_nil
    · show Refused n (signed (block 1 q))
      rw [block_cut (b := Token.signed (Token.signedSize i) i) (by rw [hlen]; exact hw)
        (by rw [hlen]; exact hq)]
      exact .of_cut rfl
  · rcases Cut.cons h with rfl | ⟨q, rfl, hq⟩
    · exact read_nil
    · show Refused n (signed (signedBlock q))
      rw [signedBlock_cut (b := Token.signed (Token.signedSize i) i) (by rw [hlen]; exact hi)
        (by rw [hlen]; exact hq)]
      exact .of_cut rfl

theorem cut_reuse {i : Nat} (h : Cut p (Token.reuse i).bytes) : Refused n (read p) := by
  have hgo : ∀ {w : Nat} {q : Bytes}, Cut q (Bytes.littleEndian w i) → Refused n (reuse w q) := by
    intro w q hq
    unfold reuse
    rw [number_short hq.littleEndian]
    exact .of_cut rfl
  have h : Cut p (if i < 0x100 then 0x68 :: Bytes.littleEndian 1 i
    else 0x6a :: Bytes.littleEndian 4 i) := h
  split at h
  · rcases h.cons with rfl | ⟨q, rfl, hq⟩
    · exact read_nil
    · exact hgo (w := 1) hq
  · rcases h.cons with rfl | ⟨q, rfl, hq⟩
    · exact read_nil
    · exact hgo (w := 4) hq

/-- Of an opcode without an argument nothing is left. -/
theorem cut_single {code : UInt8} (h : Cut p [code]) : Refused n (read p) := by
  rcases h.cons with rfl | ⟨q, -, hq⟩
  · exact read_nil
  · exact hq.not_nil.elim

/-- An instruction that the cut falls into is refused. -/
theorem read_cut {t : Token} (ht : t.Fits) (hf : ∀ k, t ≠ .frame k) (hn : t.bytes.length ≤ n)
    (h : Cut p t.bytes) : Refused n (read p) := by
  cases t with
  | frame k => exact absurd rfl (hf k)
  | format v =>
    rcases h.cons with rfl | ⟨q, rfl, hq⟩
    · exact read_nil
    · show Refused n (format q)
      unfold format
      rw [number_short (w := 1) hq.short]
      exact .of_cut rfl
  | text s =>
    refine cut_text ht ?_ h
    have hl : s.bytes.length ≤ (Token.text s).bytes.length := by
      show _ ≤ (Token.sized _ _ _ _ ++ s.bytes).length
      rw [List.length_append]
      omega
    omega
  | octets b =>
    refine cut_octets ht ?_ h
    have hl : b.length ≤ (Token.octets b).bytes.length := by
      show _ ≤ (Token.sized _ _ _ _ ++ b).length
      rw [List.length_append]
      omega
    omega
  | integer i => exact cut_integer ht h
  | reuse i => exact cut_reuse h
  | _ => exact cut_single h

/-- So is the size of a frame. -/
theorem read_frame_cut {k : Nat} (h : Cut p (Token.frame k).bytes) : Refused n (read p) := by
  rcases Cut.cons h with rfl | ⟨q, rfl, hq⟩
  · exact read_nil
  · show Refused n (frame q)
    unfold frame longBlock
    rw [number_short hq.littleEndian]
    exact .of_cut rfl

/-- A frame that is not there as a whole is refused where it begins. -/
theorem read_frame_short {k : Nat} (hk : k < Bytes.room 8) (hn : k ≤ n) (hp : p.length < k) :
    Refused n (read ((Token.frame k).bytes ++ p)) := by
  show Refused n (frame (Bytes.littleEndian 8 k ++ p))
  unfold frame longBlock
  rw [number_littleEndian hk]
  simp only [bind, Except.bind, take_short hp]
  exact excess_refused .frameRange hn

end Instruction

/-! ### Streams -/

/-- A stream is refused with its first instruction. -/
theorem runFor_refused {p : Bytes} (h : Refused n (Instruction.read p)) (k : Nat) (m : Machine) :
    Refused n (runFor (k + 1) m p) := by
  obtain ⟨f, hf, hc⟩ := h
  refine ⟨f, ?_, hc⟩
  rw [runFor, hf]
  rfl

/-- A stream that was cut is refused, whatever tokens it has and whatever frames they are in. -/
theorem runFor_cut {ts : List Token} {bs : Bytes} (H : Laid (ts ++ [.stop]) bs) {m m' : Machine}
    (h : m.steps ts = .ok m') {p : Bytes} (hp : Cut p bs) (hn : bs.length ≤ n) (k : Nat) :
    Refused n (runFor k m p) := by
  generalize hus : ts ++ [.stop] = us at H
  induction H generalizing ts m p k with
  | nil => exact hp.not_nil.elim
  | @frame size us cs hsize _ hlen H ih =>
    cases k with
    | zero => exact .of_cut rfl
    | succ k =>
      rw [List.length_append] at hn
      rcases hp.append with hcut | ⟨q, rfl, hq⟩
      · exact runFor_refused (Instruction.read_frame_cut hcut) k m
      · by_cases hfit : size ≤ q.length
        · have hne : Instruction.token (.frame size) ≠ .token .stop := by simp
          rw [runFor, Instruction.read_frame hsize hfit]
          simp only [bind, Except.bind, if_neg hne]
          exact ih h hq (by omega) k hus
        · have hshort := Nat.lt_of_not_le hfit
          exact runFor_refused (Instruction.read_frame_short hsize (by omega) hshort) k m
  | @token t us cs ht hf H ih =>
    cases k with
    | zero => exact .of_cut rfl
    | succ k =>
      rw [List.length_append] at hn
      rcases hp.append with hcut | ⟨q, rfl, hq⟩
      · exact runFor_refused (Instruction.read_cut ht hf (by omega) hcut) k m
      · cases ts with
        | nil =>
          -- nothing stands behind the end of the stream
          obtain ⟨rfl, htail⟩ := List.cons.inj hus
          rw [H.eq_nil htail.symm] at hq
          exact hq.not_nil.elim
        | cons u ts =>
          obtain ⟨rfl, htail⟩ := List.cons.inj hus
          by_cases hu : u = .stop
          · simp [Machine.steps, hu] at h
          · have hne : Instruction.token u ≠ .token .stop := by simpa using hu
            rw [Machine.steps, if_neg hu] at h
            rw [runFor, Instruction.read_bytes ht hf]
            simp only [bind, Except.bind, if_neg hne]
            cases hs : m.step u with
            | error f => simp [hs, Except.bind] at h
            | ok m₁ =>
              have hr : m.run (.token u) = .ok m₁ := hs
              rw [hs] at h
              rw [hr]
              exact ih h hq (by omega) k htail

/-! ### Messages -/

/-- What is left of a version is read as version nought. -/
theorem decode_version_cut {p : Bytes} (h : Cut p (Bytes.bigEndian 2 version)) :
    decode p = .error (.wire (.badVersion 0)) := by
  have h : Cut p [0, 1] := h
  rcases h.cons with rfl | ⟨q, rfl, hq⟩
  · rfl
  · rcases hq.cons with rfl | ⟨r, -, hr⟩
    · rfl
    · exact hr.not_nil.elim

/-- Behind the version, a stream is run. -/
theorem decode_version (bs : Bytes) : decode (Bytes.bigEndian 2 version ++ bs) = run bs := rfl

/-- A message that is cut behind its version is refused. -/
theorem run_cut {m : Message} (h : m.Fits) {q : Bytes}
    (hq : Cut q ((Token.format formatVersion).bytes ++ framed (groups m))) :
    Refused (encode m).length (run q) := by
  obtain ⟨ts, memory, hlaid, hsteps⟩ := laid_message h
  refine runFor_cut hlaid hsteps hq ?_ _
  rw [encode, List.append_assoc]
  exact (List.suffix_append _ _).length_le

theorem decode_encode {m : Message} (h : m.Fits) : decode (encode m) = .ok m := by
  have hrun := run_framed h []
  rw [List.append_nil] at hrun
  rw [encode, List.append_assoc, decode_version, hrun]

/-- A message that is cut short is refused, and so no message begins with another one. -/
theorem decode_truncated {m : Message} (h : m.Fits) :
    (∀ p, p <+: encode m → p ≠ encode m → ∃ f : Fault, decode p = .error (.wire f) ∧
      (p.length < 2 → f = .badVersion 0) ∧
        (2 ≤ p.length → (encode m).length < Input.sizeLimit →
          f.isCut = true ∧ (f.kind = "EOFError" ∨ f.kind = "UnpicklingError"))) ∧
      ∀ m' : Message, m'.Fits → encode m' <+: encode m → m' = m := by
  have hcut : ∀ p, p <+: encode m → p ≠ encode m → ∃ f : Fault, decode p = .error (.wire f) ∧
      (p.length < 2 → f = .badVersion 0) ∧
        (2 ≤ p.length → (encode m).length < Input.sizeLimit → f.isCut = true) := by
    intro p hp hne
    have hc := Cut.of_ne hp hne
    rw [encode, List.append_assoc] at hc
    rcases hc.append with hv | ⟨q, rfl, hq⟩
    · have hshort : p.length < 2 := hv.short
      exact ⟨.badVersion 0, decode_version_cut hv, fun _ => rfl, fun hl => by omega⟩
    · obtain ⟨f, hf, hk⟩ := run_cut h hq
      have hlong : 2 ≤ (Bytes.bigEndian 2 version ++ q).length := by
        rw [List.length_append]
        exact Nat.le_add_right 2 _
      exact ⟨f, (decode_version q).trans hf, fun hl => by omega, fun _ => hk⟩
  refine ⟨fun p hp hne => ?_, fun m' h' hp => ?_⟩
  · obtain ⟨f, hf, hv, hk⟩ := hcut p hp hne
    exact ⟨f, hf, hv, fun hl hn => ⟨hk hl hn, Fault.kind_of_isCut (hk hl hn)⟩⟩
  · by_cases he : encode m' = encode m
    · have hm := decode_encode h
      rw [← he, decode_encode h'] at hm
      exact Except.ok.inj hm
    · obtain ⟨f, hf, -⟩ := hcut _ hp he
      rw [decode_encode h'] at hf
      cases hf

/-- The cut falls behind a content that looks like the end of a stream. -/
theorem killTask_truncated : (Message.killTask [102] [46]).Fits ∧
    ((encode (.killTask [102] [46])).take 82).getLast? = some 46 ∧
    ∃ f : Fault, decode ((encode (.killTask [102] [46])).take 82) = .error (.wire f) ∧
      f.isCut = true := by
  have hfits : (Message.killTask [102] [46]).Fits := by decide
  obtain ⟨f, hf, -, hk⟩ := (decode_truncated hfits).1
    ((encode (.killTask [102] [46])).take 82) (List.take_prefix _ _) (by decide +kernel)
  exact ⟨hfits, by decide +kernel, f, hf, (hk (by decide +kernel) (by decide +kernel)).1⟩

end ClusterLink.Wire
