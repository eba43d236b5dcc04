/-
# Round trip

A message is read back from what was written of it, whatever comes after
(`decode_encode_append`), as long as every size and number that is written
with it fits its width (`Message.Fits`): the lengths of texts and byte
strings, the size of an integer, and the numbers under which byte strings are
recalled.

The tokens of each part of a message put that part on the stack of the
machine (`Leads`), and what the machine remembers stays in step with what the
writer counts (`Memo.Recalls`). A byte string that was remembered is found
again under its number, and the batches of a list are appended one after the
other.

Key definitions: `Memo.Recalls`, `Leads`, `Compact`, `Message.Fits`.
Key theorems: `octets_leads`, `listGroups_leads`, `groups_leads`,
`decode_encode_append`.
-/
import ClusterLink.Proofs.Layout
import Mathlib.Data.List.Induction

namespace ClusterLink.Wire

/-! ### The memory -/

/-- The memory is in step with what the writer remembers. -/
structure Memo.Recalls (memo : Memo) (memory : Array Item) : Prop where
  size : memory.size = memo.count
  /-- A short byte string is found under its number. -/
  short : ∀ e ∈ memo.short, memory[e.2]? = some (.field (.octets e.1))

namespace Memo.Recalls

variable {memo : Memo} {memory : Array Item}

theorem found_push (h : memo.Recalls memory) (x : Item) {e : Bytes × Nat} (he : e ∈ memo.short) :
    (memory.push x)[e.2]? = some (.field (.octets e.1)) := by
  have hm := h.short e he
  have hlt : e.2 < memory.size := by
    by_contra hge
    rw [Array.getElem?_eq_none (Nat.le_of_not_lt hge)] at hm
    cases hm
  rw [Array.getElem?_push_lt hlt, ← hm, Array.getElem?_eq_getElem hlt]

theorem push (h : memo.Recalls memory) (x : Item) : memo.add.Recalls (memory.push x) :=
  ⟨by rw [Array.size_push, h.size]; rfl, fun _ he => h.found_push x he⟩

/-- One more short byte string is remembered. -/
theorem pushShort (h : memo.Recalls memory) (b : Bytes) :
    (Memo.mk (memo.count + 1) ((b, memo.count) :: memo.short)).Recalls
      (memory.push (.field (.octets b))) := by
  refine ⟨by rw [Array.size_push, h.size], fun e he => ?_⟩
  rcases List.mem_cons.mp he with rfl | he
  · show (memory.push _)[memo.count]? = _
    rw [← h.size, Array.getElem?_push_size]
  · exact h.found_push _ he

end Memo.Recalls

/-! ### From stack to stack -/

/-- Running the tokens leads from one stack to another one, and keeps the memory in step. -/
def Leads (ts : List Token) (stack : List Item) (memo : Memo) (stack' : List Item)
    (memo' : Memo) : Prop :=
  ∀ memory, memo.Recalls memory → ∃ memory',
    Machine.steps ⟨stack, memory⟩ ts = .ok ⟨stack', memory'⟩ ∧ memo'.Recalls memory'

namespace Leads

variable {ts us : List Token} {stack stack' stack'' : List Item} {memo memo' memo'' : Memo}

theorem nil : Leads [] stack memo stack memo := fun memory h => ⟨memory, rfl, h⟩

theorem append (H : Leads ts stack memo stack' memo') (H' : Leads us stack' memo' stack'' memo'') :
    Leads (ts ++ us) stack memo stack'' memo'' := by
  intro memory h
  obtain ⟨memory', hs, h'⟩ := H memory h
  obtain ⟨memory'', hs', h''⟩ := H' memory' h'
  refine ⟨memory'', ?_, h''⟩
  rw [Machine.steps_append, hs]
  exact hs'

/-- A token that leaves the memory alone. -/
theorem one {t : Token} (ht : t ≠ .stop)
    (h : ∀ memory, Machine.step ⟨stack, memory⟩ t = .ok ⟨stack', memory⟩) :
    Leads [t] stack memo stack' memo := by
  intro memory hm
  refine ⟨memory, ?_, hm⟩
  rw [Machine.steps, if_neg ht, h memory]
  rfl

theorem memoize {i : Item} (hi : i.isMark = false) :
    Leads [.memoize] (i :: stack) memo (i :: stack) memo.add := by
  intro memory hm
  refine ⟨memory.push i, ?_, hm.push i⟩
  simp [Machine.steps, Machine.step, Machine.holds, hi, Except.bind]

/-- A token that pushes an object, which is remembered. -/
theorem object {t : Token} {i : Item} (ht : t ≠ .stop) (hi : i.isMark = false)
    (h : ∀ memory, Machine.step ⟨stack, memory⟩ t = .ok ⟨i :: stack, memory⟩) :
    Leads [t, .memoize] stack memo (i :: stack) memo.add :=
  (one ht h).append (memoize hi)

end Leads

variable {stack stack' : List Item} {memo : Memo}

/-! ### Byte strings -/

/-- A byte string on the stack. -/
abbrev Item.octets (b : Bytes) : Item := .field (.octets b)

theorem octets_leads (memo : Memo) (b : Bytes) (stack : List Item) :
    Leads (memo.octets b).1 stack memo (.octets b :: stack) (memo.octets b).2 := by
  unfold Memo.octets
  split
  · split
    · -- the byte string was remembered before
      rename_i e he
      have heq : e.1 = b := by simpa using List.find?_some he
      have hmem : e ∈ memo.short := List.mem_of_find?_eq_some he
      intro memory hm
      have hfound := hm.short e hmem
      rw [heq] at hfound
      refine ⟨memory, ?_, hm⟩
      simp [Machine.steps, Machine.step, hfound, Machine.push, Except.bind]
    · intro memory hm
      refine ⟨memory.push (.octets b), ?_, hm.pushShort b⟩
      simp [Machine.steps, Machine.step, Machine.push, Machine.holds, Item.isMark, Except.bind]
  · exact .object (by simp) rfl fun _ => rfl

/-- Byte strings are put on the stack one after the other, before what follows the last of them. -/
theorem batch_leads (memo : Memo) {last : List Token} {bs : List Bytes} (hbs : bs ≠ [])
    (h : ∀ memo, Leads last ((bs.map .octets).reverse ++ stack) memo stack' memo) :
    Leads (memo.batch last bs).1.flatten stack memo stack' (memo.batch last bs).2 := by
  induction bs generalizing stack memo with
  | nil => exact absurd rfl hbs
  | cons b bs ih =>
    have hb := octets_leads memo b stack
    cases bs with
    | nil =>
      have hl := h (memo.octets b).2
      have hflat : (memo.batch last [b]).1.flatten = (memo.octets b).1 ++ last := by
        simp [Memo.batch]
      rw [hflat]
      exact hb.append hl
    | cons c bs =>
      have hrest : ∀ memo, Leads last (((c :: bs).map .octets).reverse ++ (.octets b :: stack)) memo
          stack' memo := by
        intro memo
        have := h memo
        simpa using this
      have hflat : (memo.batch last (b :: c :: bs)).1.flatten =
          (memo.octets b).1 ++ ((memo.octets b).2.batch last (c :: bs)).1.flatten := by
        simp [Memo.batch]
      rw [hflat]
      exact hb.append (ih _ (List.cons_ne_nil _ _) hrest)

/-! ### Lists -/

theorem popMark_reverse (is : List Item) (h : ∀ i ∈ is, i.isMark = false)
    (acc stack : List Item) :
    Machine.popMark acc (is.reverse ++ .mark :: stack) = .ok (is ++ acc, stack) := by
  induction is using List.reverseRecOn generalizing acc with
  | nil => rfl
  | append_singleton is i ih =>
    have hi := h i (by simp)
    have hgo := ih (fun j hj => h j (by simp [hj])) (i :: acc)
    rw [List.reverse_append, List.reverse_singleton, List.singleton_append, List.cons_append,
      List.append_assoc, List.singleton_append, ← hgo]
    cases i <;> first | rfl | cases hi

theorem octetsOf_map (bs : List Bytes) : Machine.octetsOf (bs.map .octets) = some bs := by
  induction bs with
  | nil => rfl
  | cons b bs ih => simp [Machine.octetsOf, ih]

theorem octets_not_mark {bs : List Bytes} {i : Item} (hi : i ∈ bs.map Item.octets) :
    i.isMark = false := by
  obtain ⟨b, -, rfl⟩ := List.mem_map.mp hi
  rfl

/-- Byte strings are appended to a list. -/
theorem appendTo_octets (m : Machine) (acc bs : List Bytes) (stack : List Item) :
    m.appendTo (bs.map .octets) (.field (.batch acc) :: stack) =
      .ok { m with stack := .field (.batch (acc ++ bs)) :: stack } := by
  unfold Machine.appendTo
  rw [octetsOf_map]
  cases bs with
  | nil => simp [Machine.holds, Item.isMark]
  | cons b bs => simp [Machine.holds, Item.isMark]

theorem appendAll_leads (stack : List Item) (memo : Memo) (acc bs : List Bytes) :
    Leads [.appendAll] ((bs.map .octets).reverse ++ .mark :: .field (.batch acc) :: stack) memo
      (.field (.batch (acc ++ bs)) :: stack) memo := by
  refine .one (by simp) fun memory => ?_
  have hpop := popMark_reverse (bs.map .octets) (fun _ => octets_not_mark) []
    (.field (.batch acc) :: stack)
  simp only [Machine.step, hpop, bind, Except.bind, List.append_nil]
  exact appendTo_octets _ acc bs stack

theorem append_leads (stack : List Item) (memo : Memo) (acc : List Bytes) (b : Bytes) :
    Leads [.append] (.octets b :: .field (.batch acc) :: stack) memo
      (.field (.batch (acc ++ [b])) :: stack) memo :=
  .one (by simp) fun _ => appendTo_octets _ acc [b] stack

theorem mark_leads : Leads [.mark] stack memo (.mark :: stack) memo :=
  .one (by simp) fun _ => rfl

/-- The batches of a list are appended one after the other. -/
theorem batches_leads (stack : List Item) (memo : Memo) {cs : List (List Bytes)} (hcs : cs ≠ [])
    (hc : ∀ c ∈ cs, c ≠ []) (acc : List Bytes) :
    Leads (batches memo cs).1.flatten (.mark :: .field (.batch acc) :: stack) memo
      (.field (.batch (acc ++ cs.flatten)) :: stack) (batches memo cs).2 := by
  induction cs generalizing memo acc with
  | nil => exact absurd rfl hcs
  | cons c cs ih =>
    have hne := hc c List.mem_cons_self
    cases cs with
    | nil =>
      have hb := batch_leads memo hne fun memo => appendAll_leads stack memo acc c
      simpa [batches] using hb
    | cons c' cs =>
      have hb := batch_leads memo hne fun memo =>
        (appendAll_leads stack memo acc c).append mark_leads
      have hrest := ih (memo.batch [.appendAll, .mark] c).2 (List.cons_ne_nil _ _)
        (fun d hd => hc d (List.mem_cons_of_mem _ hd)) (acc ++ c)
      have hflat : (batches memo (c :: c' :: cs)).1.flatten =
          (memo.batch [.appendAll, .mark] c).1.flatten ++
            (batches (memo.batch [.appendAll, .mark] c).2 (c' :: cs)).1.flatten := by
        simp [batches]
      rw [hflat, List.flatten_cons, ← List.append_assoc]
      exact hb.append hrest

theorem chunks_spec {n k : Nat} (hn : 0 < n) {bs : List Bytes} (hk : bs.length ≤ k) :
    (chunks n k bs).flatten = bs ∧ ∀ c ∈ chunks n k bs, c ≠ [] := by
  induction k generalizing bs with
  | zero =>
    have hb : bs = [] := List.eq_nil_of_length_eq_zero (by omega)
    subst hb
    exact ⟨rfl, by simp [chunks]⟩
  | succ k ih =>
    cases bs with
    | nil => exact ⟨rfl, by simp [chunks]⟩
    | cons b bs =>
      have hdrop : ((b :: bs).drop n).length ≤ k := by
        rw [List.length_drop]
        omega
      obtain ⟨hflat, hne⟩ := ih hdrop
      refine ⟨?_, fun c hc => ?_⟩
      · rw [chunks, List.flatten_cons, hflat, List.take_append_drop]
        exact List.cons_ne_nil _ _
      · rw [chunks] at hc
        · rcases List.mem_cons.mp hc with rfl | hc
          · intro ht
            have hl := congrArg List.length ht
            rw [List.length_take, List.length_cons, List.length_nil] at hl
            omega
          · exact hne c hc
        · exact List.cons_ne_nil _ _

theorem listGroups_leads (memo : Memo) (bs : List Bytes) (stack : List Item) :
    Leads (listGroups memo bs).1.flatten stack memo (.field (.batch bs) :: stack)
      (listGroups memo bs).2 := by
  have hempty : Leads [.emptyList, .memoize] stack memo (.field (.batch []) :: stack) memo.add :=
    .object (by simp) rfl fun _ => rfl
  match bs with
  | [] => simpa [listGroups] using hempty
  | [b] =>
    have hb := batch_leads memo.add (List.cons_ne_nil b []) fun memo =>
      append_leads stack memo [] b
    simpa [listGroups] using hempty.append hb
  | b :: c :: bs =>
    have hlen := Nat.le_refl (b :: c :: bs).length
    obtain ⟨hflat, hne⟩ := chunks_spec (n := batchSize) (by decide) hlen
    have hcs : chunks batchSize (b :: c :: bs).length (b :: c :: bs) ≠ [] := by
      intro hnil
      rw [hnil] at hflat
      cases hflat
    have hb := batches_leads stack memo.add hcs hne []
    rw [hflat] at hb
    simpa [listGroups] using (hempty.append mark_leads).append hb

/-! ### Records -/

theorem fieldGroups_leads (memo : Memo) (f : Field) (stack : List Item) :
    Leads (fieldGroups memo f).1.flatten stack memo (.field f :: stack) (fieldGroups memo f).2 := by
  cases f with
  | octets b => simpa [fieldGroups] using octets_leads memo b stack
  | batch bs => exact listGroups_leads memo bs stack
  | text s => exact .object (by simp) rfl fun _ => rfl
  | integer n => exact .one (by simp) fun _ => rfl

/-- The names and contents of fields, in a row. -/
def itemsOf (fs : List (String × Field)) : List Item :=
  fs.flatMap fun x => [.field (.text x.1), .field x.2]

theorem recordGroups_leads (memo : Memo) (fs : List (String × Field)) (stack : List Item) :
    ∃ memo', Leads (recordGroups memo fs).flatten stack memo ((itemsOf fs).reverse ++ stack)
      memo' := by
  induction fs generalizing memo stack with
  | nil => exact ⟨memo, .nil⟩
  | cons x fs ih =>
    obtain ⟨name, f⟩ := x
    have hname : Leads [.text name, .memoize] stack memo (.field (.text name) :: stack) memo.add :=
      .object (by simp) rfl fun _ => rfl
    have hfield := fieldGroups_leads memo.add f (.field (.text name) :: stack)
    obtain ⟨memo', hrest⟩ := ih (fieldGroups memo.add f).2
      (.field f :: .field (.text name) :: stack)
    refine ⟨memo', ?_⟩
    have hflat : (recordGroups memo ((name, f) :: fs)).flatten =
        [.text name, .memoize] ++ (fieldGroups memo.add f).1.flatten ++
          (recordGroups (fieldGroups memo.add f).2 fs).flatten := by
      simp [recordGroups]
    have hitems : (itemsOf ((name, f) :: fs)).reverse ++ stack =
        (itemsOf fs).reverse ++ .field f :: .field (.text name) :: stack := by
      simp [itemsOf]
    rw [hflat, hitems]
    exact (hname.append hfield).append hrest

theorem itemsOf_not_mark (fs : List (String × Field)) : ∀ i ∈ itemsOf fs, i.isMark = false := by
  intro i hi
  obtain ⟨x, -, hx⟩ := List.mem_flatMap.mp hi
  simp only [List.mem_cons, List.not_mem_nil, or_false] at hx
  rcases hx with rfl | rfl <;> rfl

theorem pairsOf_itemsOf (fs : List (String × Field)) : Machine.pairsOf (itemsOf fs) = some fs := by
  induction fs with
  | nil => rfl
  | cons x fs ih =>
    have hcons : itemsOf (x :: fs) = .field (.text x.1) :: .field x.2 :: itemsOf fs := rfl
    rw [hcons, Machine.pairsOf, ih, WideText.plain?_ofString]
    rfl

theorem length_itemsOf (fs : List (String × Field)) : (itemsOf fs).length = 2 * fs.length := by
  induction fs with
  | nil => rfl
  | cons x fs ih =>
    have hcons : itemsOf (x :: fs) = .field (.text x.1) :: .field x.2 :: itemsOf fs := rfl
    rw [hcons, List.length_cons, List.length_cons, ih, List.length_cons]
    omega

/-- Names and contents are set in an empty record. -/
theorem setIn_itemsOf (m : Machine) (fs : List (String × Field)) (stack : List Item) :
    m.setIn (itemsOf fs) (.record [] :: stack) = .ok { m with stack := .record fs :: stack } := by
  unfold Machine.setIn
  cases fs with
  | nil => simp [itemsOf, Machine.holds, Item.isMark]
  | cons x fs =>
    have hlen : ¬ (itemsOf (x :: fs)).length % 2 = 1 := by
      rw [length_itemsOf]
      omega
    have hne : itemsOf (x :: fs) ≠ [] := by
      intro h
      cases h
    rw [pairsOf_itemsOf]
    simp [Machine.holds, Item.isMark, hne, hlen]

theorem setFields_leads (fs : List (String × Field)) :
    Leads [.setFields] ((itemsOf fs).reverse ++ .mark :: .record [] :: stack) memo
      (.record fs :: stack) memo := by
  refine .one (by simp) fun memory => ?_
  have hpop := popMark_reverse _ (itemsOf_not_mark fs) [] (.record [] :: stack)
  simp only [Machine.step, hpop, bind, Except.bind, List.append_nil]
  exact setIn_itemsOf _ fs stack

theorem setField_leads (f : String × Field) :
    Leads [.setField] ((itemsOf [f]).reverse ++ .record [] :: stack) memo
      (.record [f] :: stack) memo :=
  .one (by simp) fun _ => setIn_itemsOf _ [f] stack

theorem build_leads (name : String) (fs : List (String × Field)) :
    Leads [.build] (.record fs :: .instance_ name [] :: stack) memo
      (.instance_ name fs :: stack) memo :=
  .one (by simp) fun _ => rfl

/-! ### Messages -/

theorem closeWith_flatten (last : List Token) (gs : List (List Token)) :
    (closeWith last gs).flatten = gs.flatten ++ last := by
  induction gs with
  | nil => simp [closeWith]
  | cons g gs ih =>
    cases gs with
    | nil => simp [closeWith]
    | cons g' gs =>
      have hcons : closeWith last (g :: g' :: gs) = g :: closeWith last (g' :: gs) := rfl
      rw [hcons, List.flatten_cons, ih]
      simp only [List.flatten_cons, List.append_assoc]

/-- The tokens in front of the fields: an instance of the class is on the stack. -/
theorem head_leads (name : String) :
    Leads [.text moduleName, .memoize, .text name, .memoize, .classOf, .memoize, .emptyTuple,
      .newInstance, .memoize] [] ⟨0, []⟩ [.instance_ name []] ⟨4, []⟩ := by
  have hmodule : Leads [.text moduleName, .memoize] [] ⟨0, []⟩ [.field (.text moduleName)]
      ⟨1, []⟩ :=
    .object (by simp) rfl fun _ => rfl
  have hname : Leads [.text name, .memoize] [.field (.text moduleName)] ⟨1, []⟩
      [.field (.text name), .field (.text moduleName)] ⟨2, []⟩ :=
    .object (by simp) rfl fun _ => rfl
  have hclass : Leads [.classOf] [.field (.text name), .field (.text moduleName)] ⟨2, []⟩
      [.class name] ⟨2, []⟩ := by
    refine .one (by simp) fun memory => ?_
    show (do
      let module ← Input.name moduleName
      let c ← Machine.classNamed module (← Input.name name)
      .ok (⟨[c], memory⟩ : Machine)) = _
    rw [Input.name_ofString, Input.name_ofString]
    rfl
  have hmemo : Leads [.memoize] [.class name] ⟨2, []⟩ [.class name] ⟨3, []⟩ := .memoize rfl
  have hunit : Leads [.emptyTuple] [.class name] ⟨3, []⟩ [.unit, .class name] ⟨3, []⟩ :=
    .one (by simp) fun _ => rfl
  have hnew : Leads [.newInstance] [.unit, .class name] ⟨3, []⟩ [.instance_ name []] ⟨3, []⟩ :=
    .one (by simp) fun _ => rfl
  have hlast : Leads [.memoize] [.instance_ name []] ⟨3, []⟩ [.instance_ name []] ⟨4, []⟩ :=
    .memoize rfl
  exact hmodule.append <| hname.append <| hclass.append <| hmemo.append <| hunit.append <|
    hnew.append hlast

/-- The tokens of a message put its record on the stack, and end the stream. -/
theorem groups_leads (m : Message) : ∃ ts memo, (groups m).flatten = ts ++ [.stop] ∧
    Leads ts [] ⟨0, []⟩ [.instance_ m.className m.fields] memo := by
  have hhead := head_leads m.className
  have hrecord : Leads [.emptyRecord, .memoize] [.instance_ m.className []] ⟨4, []⟩
      [.record [], .instance_ m.className []] ⟨5, []⟩ :=
    .object (by simp) rfl fun _ => rfl
  match hf : m.fields with
  | [] =>
    refine ⟨_, _, ?_, hhead⟩
    simp [groups, hf]
  | [f] =>
    obtain ⟨memo, hfields⟩ := recordGroups_leads ⟨5, []⟩ [f]
      [.record [], .instance_ m.className []]
    have hset := hfields.append (setField_leads f)
    refine ⟨_, _, ?_, hhead.append (hrecord.append (hset.append (build_leads m.className [f])))⟩
    simp [groups, hf, closeWith_flatten]
  | f :: g :: fs =>
    obtain ⟨memo, hfields⟩ := recordGroups_leads ⟨5, []⟩ (f :: g :: fs)
      (.mark :: .record [] :: [.instance_ m.className []])
    have hset := (mark_leads.append hfields).append (setFields_leads (f :: g :: fs))
    refine ⟨_, _, ?_, hhead.append (hrecord.append (hset.append (build_leads m.className _)))⟩
    simp [groups, hf, closeWith_flatten]

/-! ### Sizes of groups -/

/-- A group of at most `k` tokens, none of which is the size of a frame. -/
def Compact (k : Nat) (g : List Token) : Prop := g.length ≤ k ∧ ∀ t ∈ g, ∀ n, t ≠ .frame n

theorem Compact.append {j k : Nat} {g g' : List Token} (h : Compact j g) (h' : Compact k g') :
    Compact (j + k) (g ++ g') := by
  refine ⟨?_, fun t ht => ?_⟩
  · rw [List.length_append]
    exact Nat.add_le_add h.1 h'.1
  · rcases List.mem_append.mp ht with ht | ht
    · exact h.2 t ht
    · exact h'.2 t ht

theorem Compact.mono {j k : Nat} {g : List Token} (h : Compact j g) (hjk : j ≤ k) : Compact k g :=
  ⟨Nat.le_trans h.1 hjk, h.2⟩

theorem octets_compact (memo : Memo) (b : Bytes) : Compact 2 (memo.octets b).1 := by
  unfold Memo.octets
  split
  · split <;> simp [Compact]
  · simp [Compact]

theorem batch_compact {last : List Token} (hl : Compact 2 last) (memo : Memo) (bs : List Bytes) :
    ∀ g ∈ (memo.batch last bs).1, Compact 4 g := by
  induction bs generalizing memo with
  | nil => simp [Memo.batch]
  | cons b bs ih =>
    have hb := octets_compact memo b
    cases bs with
    | nil =>
      intro g hg
      obtain rfl : g = (memo.octets b).1 ++ last := by simpa [Memo.batch] using hg
      exact hb.append hl
    | cons c bs =>
      intro g hg
      have hg : g = (memo.octets b).1 ∨ g ∈ ((memo.octets b).2.batch last (c :: bs)).1 := by
        simpa [Memo.batch] using hg
      rcases hg with rfl | hg
      · exact hb.mono (by decide)
      · exact ih _ g hg

theorem batches_compact (memo : Memo) (cs : List (List Bytes)) :
    ∀ g ∈ (batches memo cs).1, Compact 4 g := by
  induction cs generalizing memo with
  | nil => simp [batches]
  | cons c cs ih =>
    cases cs with
    | nil => exact batch_compact (by simp [Compact]) memo c
    | cons c' cs =>
      intro g hg
      have hg : g ∈ (memo.batch [.appendAll, .mark] c).1 ∨
          g ∈ (batches (memo.batch [.appendAll, .mark] c).2 (c' :: cs)).1 := by
        simpa [batches] using hg
      rcases hg with hg | hg
      · exact batch_compact (by simp [Compact]) memo c g hg
      · exact ih _ g hg

theorem listGroups_compact (memo : Memo) (bs : List Bytes) :
    ∀ g ∈ (listGroups memo bs).1, Compact 4 g := by
  match bs with
  | [] => simp [listGroups, Compact]
  | [b] =>
    intro g hg
    have hg : g = [.emptyList, .memoize] ∨ g ∈ (memo.add.batch [.append] [b]).1 := by
      simpa [listGroups] using hg
    rcases hg with rfl | hg
    · simp [Compact]
    · exact batch_compact (by simp [Compact]) _ _ g hg
  | b :: c :: bs =>
    intro g hg
    have hg : g = [.emptyList, .memoize, .mark] ∨
        g ∈ (batches memo.add (chunks batchSize (b :: c :: bs).length (b :: c :: bs))).1 := by
      simpa [listGroups] using hg
    rcases hg with rfl | hg
    · simp [Compact]
    · exact batches_compact _ _ g hg

theorem fieldGroups_compact (memo : Memo) (f : Field) :
    ∀ g ∈ (fieldGroups memo f).1, Compact 4 g := by
  cases f with
  | octets b =>
    intro g hg
    obtain rfl : g = (memo.octets b).1 := by simpa [fieldGroups] using hg
    exact (octets_compact memo b).mono (by decide)
  | batch bs => exact listGroups_compact memo bs
  | text s => simp [fieldGroups, Compact]
  | integer n => simp [fieldGroups, Compact]

theorem recordGroups_compact (memo : Memo) (fs : List (String × Field)) :
    ∀ g ∈ recordGroups memo fs, Compact 4 g := by
  induction fs generalizing memo with
  | nil => simp [recordGroups]
  | cons x fs ih =>
    obtain ⟨name, f⟩ := x
    intro g hg
    have hg : g = [.text name, .memoize] ∨ g ∈ (fieldGroups memo.add f).1 ∨
        g ∈ recordGroups (fieldGroups memo.add f).2 fs := by
      simpa [recordGroups] using hg
    rcases hg with rfl | hg | hg
    · simp [Compact]
    · exact fieldGroups_compact _ f g hg
    · exact ih _ g hg

theorem closeWith_compact {last : List Token} (hl : Compact 3 last) {gs : List (List Token)}
    (h : ∀ g ∈ gs, Compact 4 g) : ∀ g ∈ closeWith last gs, Compact 7 g := by
  induction gs with
  | nil =>
    intro g hg
    obtain rfl : g = last := by simpa [closeWith] using hg
    exact hl.mono (by decide)
  | cons g gs ih =>
    have hg := h g List.mem_cons_self
    cases gs with
    | nil =>
      intro g' hg'
      obtain rfl : g' = g ++ last := by simpa [closeWith] using hg'
      exact hg.append hl
    | cons g' gs =>
      intro x hx
      have hcons : closeWith last (g :: g' :: gs) = g :: closeWith last (g' :: gs) := rfl
      rw [hcons] at hx
      rcases List.mem_cons.mp hx with rfl | hx
      · exact hg.mono (by decide)
      · exact ih (fun y hy => h y (List.mem_cons_of_mem _ hy)) x hx

theorem groups_compact (m : Message) : ∀ g ∈ groups m, Compact groupLimit g := by
  have hclose : ∀ last, Compact 3 last → ∀ g ∈ closeWith last (recordGroups ⟨5, []⟩ m.fields),
      Compact groupLimit g := fun last hl g hg =>
    (closeWith_compact hl (recordGroups_compact _ _) g hg).mono (by decide)
  intro g hg
  unfold groups at hg
  split at hg
  · simp only [List.cons_append, List.nil_append, List.mem_cons, List.not_mem_nil, or_false] at hg
    rcases hg with rfl | rfl | rfl <;> simp [Compact, groupLimit]
  · rename_i f hf
    rw [← hf] at hg
    simp only [List.cons_append, List.nil_append, List.mem_cons] at hg
    rcases hg with rfl | rfl | rfl | rfl | hg
    · simp [Compact, groupLimit]
    · simp [Compact, groupLimit]
    · simp [Compact, groupLimit]
    · simp [Compact, groupLimit]
    · exact hclose _ (by simp [Compact]) g hg
  · simp only [List.cons_append, List.nil_append, List.mem_cons] at hg
    rcases hg with rfl | rfl | rfl | rfl | hg
    · simp [Compact, groupLimit]
    · simp [Compact, groupLimit]
    · simp [Compact, groupLimit]
    · simp [Compact, groupLimit]
    · exact hclose _ (by simp [Compact]) g hg

end ClusterLink.Wire

namespace ClusterLink

open Wire

/-- Whether every size and number that is written with the message fits its width. -/
def Message.Fits (m : Message) : Prop := ∀ g ∈ groups m, ∀ t ∈ g, t.Fits

instance (m : Message) : Decidable m.Fits :=
  inferInstanceAs (Decidable (∀ g ∈ groups m, ∀ t ∈ g, t.Fits))

namespace Wire

/-- What is written of a message lays out tokens that leave its record on the stack, and the end of
the stream. -/
theorem laid_message {m : Message} (h : m.Fits) : ∃ ts memory,
    Laid (ts ++ [.stop]) ((Token.format formatVersion).bytes ++ framed (groups m)) ∧
      Machine.start.steps ts = .ok ⟨[.instance_ m.className m.fields], memory⟩ := by
  obtain ⟨ts, memo, hflat, hleads⟩ := groups_leads m
  have hgroups : Laid (groups m).flatten (framed (groups m)) := laid_framed fun g hg =>
    ⟨(groups_compact m g hg).1, fun t ht => ⟨h g hg t ht, (groups_compact m g hg).2 t ht⟩⟩
  have hlaid : Laid (.format formatVersion :: ts ++ [.stop])
      ((Token.format formatVersion).bytes ++ framed (groups m)) := by
    rw [hflat] at hgroups
    exact .token (by decide) (fun _ => Token.noConfusion) hgroups
  obtain ⟨memory, hsteps, -⟩ := hleads #[] ⟨rfl, fun e he => nomatch he⟩
  exact ⟨.format formatVersion :: ts, memory, hlaid, hsteps⟩

/-- Running what was written of a message gives the message. -/
theorem run_framed {m : Message} (h : m.Fits) (rest : Bytes) :
    run ((Token.format formatVersion).bytes ++ framed (groups m) ++ rest) = .ok m := by
  obtain ⟨ts, memory, hlaid, hsteps⟩ := laid_message h
  have hresult : Machine.result ⟨[.instance_ m.className m.fields], memory⟩ = .ok m := by
    simp [Machine.result, Machine.holds, Item.isMark, Message.ofRecord?_record]
  rw [← hresult]
  refine runFor_laid hlaid hsteps ?_ rest
  simp only [List.length_append]
  omega

/-- A message is read back from what was written of it, whatever comes after. -/
theorem decode_encode_append {m : Message} (h : m.Fits) (t : Bytes) :
    decode (encode m ++ t) = .ok m := by
  have hversion : Bytes.ofBigEndian ((encode m ++ t).take 2) = version := rfl
  have hrest : (encode m ++ t).drop 2 =
      (Token.format formatVersion).bytes ++ framed (groups m) ++ t := rfl
  unfold decode
  rw [hversion, hrest]
  exact run_framed h t

/-- A short byte string is recalled where it comes again. -/
theorem decode_encode_sample :
    (Message.launchTasks [] [[1], [2, 3]] [[1], []] []).Fits ∧
      decode (encode (.launchTasks [] [[1], [2, 3]] [[1], []] []) ++ [7]) =
        .ok (.launchTasks [] [[1], [2, 3]] [[1], []] []) :=
  ⟨by decide, decode_encode_append (by decide) [7]⟩

end Wire

end ClusterLink
