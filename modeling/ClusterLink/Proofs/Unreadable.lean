/-
# How reading fails

Whatever is wrong with a frame, reading it fails in an ordinary way: the
bytes of the remote side cannot pass for misuse of a driver. There is a lemma
for every stage of reading, from arguments to instructions, their effect on
the machine, and whole streams.

Key definition: `Wire.Ordinary`.
Key theorem: `Wire.decode_ordinary`.
-/
import ClusterLink.Proofs.Results
import ClusterLink.Wire.Reader

namespace ClusterLink.Wire

variable {α β : Type}

/-- It does not fail by misuse. -/
def Ordinary (r : Except Failure α) : Prop := ∀ f, r = .error f → f.isMisuse = false

namespace Ordinary

@[simp] theorem ok (a : α) : Ordinary (.ok a : Except Failure α) := fun _ h => by cases h

@[simp] theorem error_iff {f : Failure} :
    Ordinary (.error f : Except Failure α) ↔ f.isMisuse = false :=
  ⟨fun h => h f rfl, fun h g hg => by rwa [← Except.error.inj hg]⟩

theorem bind {r : Except Failure α} {k : α → Except Failure β} (hr : Ordinary r)
    (hk : ∀ a, Ordinary (k a)) : Ordinary (r >>= k) := FailsBy.bind hr hk

theorem map {r : Except Failure α} (hr : Ordinary r) (k : α → β) : Ordinary (r.map k) :=
  FailsBy.map hr k

end Ordinary

@[simp] theorem wire_isMisuse (f : Fault) : (Failure.wire f).isMisuse = false := by
  cases f <;> rfl

@[simp] theorem outOfMemory_isMisuse : Failure.outOfMemory.isMisuse = false := rfl

@[simp] theorem notAssignable_isMisuse (type : String) :
    (Failure.notAssignable type).isMisuse = false := rfl

/-! ### Arguments -/

namespace Input

theorem take_ordinary (n : Nat) (bs : Bytes) : Ordinary (take n bs) := by
  unfold take
  dsimp only
  split <;> simp

theorem number_ordinary (w : Nat) (bs : Bytes) : Ordinary (number w bs) :=
  (take_ordinary w bs).bind fun _ => .ok _

theorem signedNumber_ordinary (w : Nat) (bs : Bytes) : Ordinary (signedNumber w bs) :=
  (take_ordinary w bs).bind fun _ => .ok _

theorem block_ordinary (w : Nat) (bs : Bytes) : Ordinary (block w bs) :=
  (number_ordinary w bs).bind fun _ => take_ordinary _ _

theorem longBlock_ordinary {wrong : Nat → Failure} (h : ∀ n, (wrong n).isMisuse = false)
    (bs : Bytes) : Ordinary (longBlock wrong bs) :=
  (number_ordinary 8 bs).bind fun x => by
    dsimp only
    split
    · exact .ok _
    · exact Ordinary.error_iff.mpr (h x.1)

theorem excessRoom_isMisuse (range : Fault) (n : Nat) :
    (excessRoom range n).isMisuse = false := by
  unfold excessRoom
  split
  · exact wire_isMisuse _
  · split <;> simp

theorem signedBlock_ordinary (bs : Bytes) : Ordinary (signedBlock bs) :=
  (signedNumber_ordinary 4 bs).bind fun x => by
    dsimp only
    split
    · simp
    · exact take_ordinary _ _

theorem line_ordinary (bs : Bytes) : Ordinary (line bs) := by
  unfold line
  dsimp only
  split <;> simp

theorem text_ordinary (b : Bytes) : Ordinary (text b) := by
  unfold text
  split <;> simp

theorem name_ordinary (t : WideText) : Ordinary (name t) := by
  unfold name
  split <;> simp

end Input

open Input

/-! ### Instructions -/

namespace Rare

theorem names_ordinary (bs : Bytes) : Ordinary (names bs) :=
  (line_ordinary bs).bind fun _ => (line_ordinary _).bind fun _ => (text_ordinary _).bind fun _ =>
    (name_ordinary _).bind fun _ => (text_ordinary _).bind fun _ => (name_ordinary _).bind fun _ =>
    .ok _

theorem extension_ordinary (code : Int) : Ordinary (extension code : Except Failure α) := by
  simp [extension]

theorem ascii_ordinary (b : Bytes) : Ordinary (ascii b) := by
  unfold ascii
  split
  · exact text_ordinary b
  · simp

theorem unquoted_ordinary (b : Bytes) : Ordinary (unquoted b) := by
  unfold unquoted
  split
  · split
    · exact ascii_ordinary _
    · simp
  · simp

theorem place_ordinary (b : Bytes) : Ordinary (place b) := by
  unfold place
  split
  · split <;> simp
  · simp

theorem withArguments_ordinary {code : Nat} {bs : Bytes} {r : Except Failure (Rare × Bytes)}
    (h : withArguments? code bs = some r) : Ordinary r := by
  unfold withArguments? at h
  split at h
  all_goals cases h
  · exact (line_ordinary bs).bind fun _ => (ascii_ordinary _).bind fun _ => .ok _
  · exact (take_ordinary 8 bs).bind fun _ => .ok _
  · exact (names_ordinary bs).bind fun _ => .ok _
  · split <;> simp
  · exact (line_ordinary bs).bind fun _ => .ok _
  · exact (number_ordinary 1 bs).bind fun _ => .ok _
  · exact (number_ordinary 4 bs).bind fun _ => .ok _
  · simp
  · simp
  · exact (number_ordinary 1 bs).bind fun _ => extension_ordinary _
  · exact (number_ordinary 2 bs).bind fun _ => extension_ordinary _
  · exact (signedNumber_ordinary 4 bs).bind fun _ => extension_ordinary _
  · exact (longBlock_ordinary (excessRoom_isMisuse _) bs).bind fun _ => .ok _
  · simp

theorem read_ordinary {code : Nat} {bs : Bytes} {r : Except Failure (Rare × Bytes)}
    (h : read? code bs = some r) : Ordinary r := by
  unfold read? at h
  split at h
  · obtain rfl := Option.some.inj h
    exact .ok _
  · exact withArguments_ordinary h

end Rare

namespace Instruction

theorem text_ordinary {decode : Bytes → Except Failure WideText}
    {cut : Except Failure (Bytes × Bytes)} (hd : ∀ b, Ordinary (decode b)) (hc : Ordinary cut) :
    Ordinary (text decode cut) :=
  hc.bind fun _ => (hd _).bind fun _ => .ok _

theorem octets_ordinary {cut : Except Failure (Bytes × Bytes)} (hc : Ordinary cut) :
    Ordinary (octets cut) :=
  hc.bind fun _ => .ok _

theorem natural_ordinary (w : Nat) (bs : Bytes) : Ordinary (natural w bs) :=
  (number_ordinary w bs).bind fun _ => .ok _

theorem signed_ordinary {cut : Except Failure (Bytes × Bytes)} (hc : Ordinary cut) :
    Ordinary (signed cut) :=
  hc.bind fun _ => .ok _

theorem reuse_ordinary (w : Nat) (bs : Bytes) : Ordinary (reuse w bs) :=
  (number_ordinary w bs).bind fun _ => .ok _

theorem format_ordinary (bs : Bytes) : Ordinary (format bs) :=
  (number_ordinary 1 bs).bind fun x => by
    dsimp only
    split <;> simp

theorem frame_ordinary (bs : Bytes) : Ordinary (frame bs) :=
  (longBlock_ordinary (fun _ => wire_isMisuse _) bs).bind fun _ => .ok _

theorem numeral_ordinary (mark : List UInt8) (bs : Bytes) : Ordinary (numeral mark bs) :=
  (line_ordinary bs).bind fun x => by
    dsimp only
    split <;> simp

theorem numeralOrTruth_ordinary (bs : Bytes) : Ordinary (numeralOrTruth bs) :=
  (line_ordinary bs).bind fun x => by
    dsimp only
    split
    · exact .ok _
    · exact numeral_ordinary _ _

theorem reuseLine_ordinary (bs : Bytes) : Ordinary (reuseLine bs) :=
  (line_ordinary bs).bind fun _ => (Rare.place_ordinary _).bind fun _ => .ok _

theorem other_ordinary (code : UInt8) (rest : Bytes) : Ordinary (other code rest) := by
  unfold other
  split
  · exact text_ordinary Rare.ascii_ordinary (line_ordinary rest)
  · exact text_ordinary Rare.unquoted_ordinary (line_ordinary rest)
  · exact text_ordinary Rare.ascii_ordinary (block_ordinary 1 rest)
  · exact text_ordinary Rare.ascii_ordinary (block_ordinary 4 rest)
  · exact numeralOrTruth_ordinary rest
  · exact numeral_ordinary _ rest
  · exact reuseLine_ordinary rest
  · split
    · rename_i cut hcut
      exact (Rare.read_ordinary hcut).map _
    · simp

theorem behind_ordinary (code : UInt8) (rest : Bytes) : Ordinary (behind code rest) := by
  have hlong : ∀ what, Ordinary (longBlock (fun n => .wire (excess (.sizeRange what) n)) rest) :=
    fun _ => longBlock_ordinary (fun _ => wire_isMisuse _) rest
  unfold behind
  split
  · exact format_ordinary rest
  · exact frame_ordinary rest
  · exact text_ordinary Input.text_ordinary (block_ordinary 1 rest)
  · exact text_ordinary Input.text_ordinary (block_ordinary 4 rest)
  · exact text_ordinary Input.text_ordinary (hlong _)
  · exact octets_ordinary (block_ordinary 1 rest)
  · exact octets_ordinary (block_ordinary 4 rest)
  · exact octets_ordinary (hlong _)
  · exact natural_ordinary 1 rest
  · exact natural_ordinary 2 rest
  · exact signed_ordinary (take_ordinary 4 rest)
  · exact signed_ordinary (block_ordinary 1 rest)
  · exact signed_ordinary (signedBlock_ordinary rest)
  all_goals first
    | exact .ok _
    | exact reuse_ordinary _ rest
    | exact other_ordinary code rest

theorem read_ordinary (bs : Bytes) : Ordinary (read bs) := by
  unfold read
  split
  · simp
  · exact behind_ordinary _ _

end Instruction

/-! ### The machine -/

namespace Item

@[simp] theorem lacks_isMisuse (i : Item) (member : String) :
    (i.lacks member).isMisuse = false := by
  unfold lacks
  split <;> rfl

theorem unhashable_isMisuse {i : Item} {f : Failure} (h : i.unhashable? = some f) :
    f.isMisuse = false := by
  unfold unhashable? at h
  split at h
  · obtain rfl := Option.some.inj h
    rfl
  · cases h

end Item

namespace Machine

@[simp] theorem push_ordinary (m : Machine) (i : Item) : Ordinary (m.push i) := .ok _

@[simp] theorem underflow_ordinary (stack : List Item) :
    Ordinary (underflow stack : Except Failure α) := by
  simp [underflow]

theorem popMark_ordinary (acc stack : List Item) : Ordinary (popMark acc stack) := by
  fun_induction popMark acc stack with
  | case1 => simp
  | case2 => simp
  | case3 _ _ _ _ ih => exact ih

theorem badKey_isMisuse {is : List Item} {f : Failure} (h : badKey? is = some f) :
    f.isMisuse = false := by
  fun_induction badKey? is with
  | case1 k v is ih =>
    rcases Option.or_eq_some_iff.mp h with hk | ⟨-, hr⟩
    · exact Item.unhashable_isMisuse hk
    · exact ih hr
  | case2 => cases h

theorem badMember_isMisuse {is : List Item} {f : Failure} (h : badMember? is = some f) :
    f.isMisuse = false := by
  obtain ⟨i, -, hi⟩ := List.exists_of_findSome?_eq_some h
  exact Item.unhashable_isMisuse hi

theorem appendTo_ordinary (m : Machine) (is stack : List Item) :
    Ordinary (m.appendTo is stack) := by
  unfold appendTo
  split
  · simp
  · split <;> simp

theorem setIn_ordinary (m : Machine) (is stack : List Item) : Ordinary (m.setIn is stack) := by
  unfold setIn
  split
  · simp
  split
  · simp
  split
  · simp
  · split
    all_goals first
      | exact Ordinary.error_iff.mpr (badKey_isMisuse ‹_›)
      | simp

theorem classNamed_ordinary (module name : String) : Ordinary (classNamed module name) := by
  unfold classNamed
  split <;> simp

theorem instanceOf_ordinary (what : String) (cls args : Item) :
    Ordinary (instanceOf what cls args) := by
  unfold instanceOf
  split <;> simp

theorem built_ordinary (inst state : Item) : Ordinary (built inst state) := by
  unfold built
  split <;> simp

theorem called_ordinary (function args : Item) :
    Ordinary (called function args : Except Failure α) := by
  unfold called
  split <;> simp

theorem recordOf_ordinary (is : List Item) : Ordinary (recordOf is) := by
  unfold recordOf
  split
  · simp
  · split
    · simp
    · exact Ordinary.error_iff.mpr (badKey_isMisuse ‹_›)
    · simp

theorem addTo_ordinary (m : Machine) (is stack : List Item) : Ordinary (m.addTo is stack) := by
  unfold addTo
  split
  · simp
  · split
    all_goals first
      | exact Ordinary.error_iff.mpr (badMember_isMisuse ‹_›)
      | simp

theorem remember_ordinary (m : Machine) (i : Nat) (x : Item) : Ordinary (m.remember i x) := by
  unfold remember
  split
  · simp
  · split <;> simp

theorem stepRare_ordinary (m : Machine) (r : Rare) : Ordinary (m.stepRare r) := by
  have hpop := popMark_ordinary [] m.stack
  unfold stepRare
  split
  · exact push_ordinary m _
  · split <;> simp
  · exact hpop.bind fun _ => .ok _
  · split <;> simp
  · split
    · split
      · simp
      · exact remember_ordinary _ _ _
    · simp
    · simp
  · split <;> simp
  · exact hpop.bind fun _ => .ok _
  · exact hpop.bind fun _ => .ok _
  · exact hpop.bind fun _ => (recordOf_ordinary _).bind fun _ => .ok _
  · refine hpop.bind fun x => ?_
    dsimp only
    split
    · exact Ordinary.error_iff.mpr (badMember_isMisuse ‹_›)
    · simp
  · exact hpop.bind fun _ => addTo_ordinary _ _ _
  · split
    · exact called_ordinary _ _
    · simp
  · refine hpop.bind fun x => ?_
    dsimp only
    split
    · exact called_ordinary _ _
    · simp
  · split
    · refine (instanceOf_ordinary _ _ _).bind fun i => ?_
      split <;> simp
    · simp
  · exact (classNamed_ordinary _ _).bind fun _ => push_ordinary m _
  · refine hpop.bind fun _ => ?_
    split
    · simp
    · exact (classNamed_ordinary _ _).bind fun _ => by simp
  · split <;> simp

theorem step_ordinary (m : Machine) (t : Token) : Ordinary (m.step t) := by
  have hpop := popMark_ordinary [] m.stack
  cases t with
  | append =>
    simp only [step]
    split
    · exact appendTo_ordinary _ _ _
    · simp
  | appendAll => exact hpop.bind fun _ => appendTo_ordinary _ _ _
  | setField =>
    simp only [step]
    split
    · exact setIn_ordinary _ _ _
    · simp
  | setFields => exact hpop.bind fun _ => setIn_ordinary _ _ _
  | classOf =>
    simp only [step]
    split
    · exact (name_ordinary _).bind fun _ => (name_ordinary _).bind fun _ =>
        (classNamed_ordinary _ _).bind fun _ => .ok _
    · simp
    · simp
  | newInstance =>
    simp only [step]
    split
    · exact (instanceOf_ordinary _ _ _).bind fun _ => .ok _
    · simp
  | build =>
    simp only [step]
    split
    · exact (built_ordinary _ _).bind fun _ => .ok _
    · simp
  | memoize | reuse i =>
    simp only [step]
    split <;> simp
  | _ => exact .ok _

theorem run_ordinary (m : Machine) (i : Instruction) : Ordinary (m.run i) := by
  cases i with
  | token t => exact step_ordinary m t
  | rare r => exact stepRare_ordinary m r

theorem result_ordinary (m : Machine) : Ordinary m.result := by
  unfold result
  split
  · split <;> simp
  · simp
  · simp

end Machine

/-! ### Streams -/

theorem runFor_ordinary (k : Nat) (m : Machine) (bs : Bytes) : Ordinary (runFor k m bs) := by
  induction k generalizing m bs with
  | zero => simp [runFor]
  | succ k ih =>
    refine (Instruction.read_ordinary bs).bind fun x => ?_
    dsimp only
    split
    · exact Machine.result_ordinary m
    · exact (Machine.run_ordinary m _).bind fun m' => ih m' _

/-- A frame that cannot be read fails in an ordinary way. -/
theorem decode_ordinary (bs : Bytes) : Ordinary (decode bs) := by
  unfold decode
  dsimp only
  split
  · exact runFor_ordinary _ _ _
  · simp

end ClusterLink.Wire
