/-
# Calls on the flat surface

The flat surface takes a sequence packed in one envelope, and all arguments
of a command. Every call of a driver has its counterpart there
(`CallOf.flat`): lists are packed, and filters that are not given become the
absent envelope. Both are left with the same errand (`CallOf.errand_flat`),
as what was packed is unpacked, and as the arguments are looked up and read
in the same order on both surfaces.

A command with an envelope that holds no packed sequence has no counterpart.
It is left with being turned down, whatever its other sequence is
(`CallOf.errand_garbled`).

Key definitions: `CallOf.flat`, `CallOf.Packable`, `Order.Flattens`,
`Order.Garbled`.
Key theorems: `CallOf.errand_flat`, `CallOf.errand_garbled`.
-/
import ClusterLink.Proofs.Packing

namespace ClusterLink

/-! ### Calls on the flat surface -/

namespace Operand

/-- A list of byte strings that can be packed. -/
def IsBatch (x : Kept) : Prop :=
  ∃ bs : List Bytes, Records.Fits bs ∧ x = .list (bs.map fun b => .plain (.octets b))

/-- A sequence in one envelope. -/
def packaged : Kept → Kept
  | list xs => packed xs
  | x => x

/-- The absent envelope, which stands for no argument. -/
def absent : Kept := plain (.envelope (.fresh [] .owned))

variable (find : Int → Except Failure Argument)

theorem arguments_octets (bs : List Bytes) :
    arguments find (bs.map fun b => plain (.octets b)) = .ok (bs.map .octets) := by
  induction bs with
  | nil => rfl
  | cons b bs ih =>
    rw [List.map_cons, arguments, ih]
    rfl

/-- A batch is a list on one surface, and a packed sequence on the other one. -/
theorem IsBatch.arguments {x : Kept} (h : x.IsBatch) : ∃ bs, Records.Fits bs ∧
    x.argument find = .ok (.list (bs.map .octets)) ∧
    x.packaged.argument find = .ok (.envelope (.fresh (Records.pack bs) .owned)) := by
  obtain ⟨bs, hfit, rfl⟩ := h
  refine ⟨bs, hfit, ?_, ?_⟩
  · rw [argument, arguments_octets]
    rfl
  · have hcopy : copyAll (bs.map Argument.octets) = .ok bs := Argument.copyInAll_octets bs
    rw [packaged, argument, arguments_octets]
    simp only [bind, Except.bind, hcopy]

end Operand

namespace Order

/-- The command as the flat surface takes it. -/
def flat : Order Kept → Order Kept
  | launchTasks os ts fs => .launchTasks os.packaged ts.packaged (some (fs.getD .absent))
  | declineOffer o fs => .declineOffer o (some (fs.getD .absent))
  | requestResources rs => .requestResources rs.packaged
  | o => o

/-- The sequences of the command can be packed. -/
def Packable : Order Kept → Prop
  | launchTasks os ts _ => os.IsBatch ∧ ts.IsBatch
  | requestResources rs => rs.IsBatch
  | _ => True

@[simp] theorem flat_op (o : Order Kept) : o.flat.op = o.op := by cases o <;> rfl

/-- Whether the command takes the same arguments on either surface. -/
def isUniform : Order Kept → Bool
  | launchTasks .. | declineOffer .. | requestResources .. => false
  | _ => true

theorem flat_of_isUniform {o : Order Kept} (h : o.isUniform = true) : o.flat = o := by
  cases o <;> first | rfl | cases h

/-! ### Arguments -/

/-- An envelope with a packed sequence. -/
abbrev package (bs : List Bytes) : Argument := .envelope (.fresh (Records.pack bs) .owned)

/-- The arguments of a command on the one surface and on the other one. -/
inductive Flattens : Order Argument → Order Argument → Prop
  | launchTasks {os ts : List Bytes} {f : Option Argument} {a : Argument} (hos : Records.Fits os)
    (hts : Records.Fits ts)
    (hf : Argument.copyInOptional (some a) = Argument.copyInOptional f) :
    Flattens (.launchTasks (.list (os.map .octets)) (.list (ts.map .octets)) f)
      (.launchTasks (package os) (package ts) (some a))
  | declineOffer {o : Argument} {f : Option Argument} {a : Argument}
    (hf : Argument.copyInOptional (some a) = Argument.copyInOptional f) :
    Flattens (.declineOffer o f) (.declineOffer o (some a))
  | requestResources {rs : List Bytes} (hrs : Records.Fits rs) :
    Flattens (.requestResources (.list (rs.map .octets))) (.requestResources (package rs))
  | same {o : Order Argument} (hm : o.missing? = none)
    (hr : o.readyFlat = o.readyDirect.map .command) : Flattens o o

theorem unpacked_fresh (b : Bytes) (o : Ownership) :
    unpacked (.envelope (.fresh b o)) = Records.unpack b :=
  unpacked_of_copyIn rfl

/-- One sequence is unpacked, and then the others. -/
theorem unpackAll_cons {b : Bytes} {bs : List Bytes} (h : Records.unpack b = .ok bs)
    (o : Ownership) (as : List Argument) :
    unpackAll (.envelope (.fresh b o) :: as) = (unpackAll as).map fun r => r.map (bs :: ·) := by
  rw [unpackAll, unpacked_fresh, h]

namespace Flattens

variable {o o' : Order Argument}

theorem role (h : Flattens o o') : o'.role = o.role := by cases h <;> rfl

theorem missing (h : Flattens o o') : o'.missing? = none := by
  cases h with
  | same hm => exact hm
  | _ => rfl

/-- Both make the same command ready. -/
theorem ready (h : Flattens o o') : o'.ready .flat = o.ready .direct := by
  cases h with
  | @launchTasks os ts f a hos hts hf =>
    have hu : unpackAll [package os, package ts] = .ok (some [os, ts]) := by
      rw [unpackAll_cons (Records.unpack_pack hos), unpackAll_cons (Records.unpack_pack hts)]
      rfl
    simp only [Order.ready, readyFlat, readyDirect, hu, hf, Argument.copyInAll_octets, bind,
      Except.bind]
    cases Argument.copyInOptional f <;> rfl
  | @declineOffer o f a hf =>
    simp only [Order.ready, readyFlat, readyDirect, hf]
  | @requestResources rs hrs =>
    have hu : unpackAll [package rs] = .ok (some [rs]) := by
      rw [unpackAll_cons (Records.unpack_pack hrs)]
      rfl
    simp only [Order.ready, readyFlat, readyDirect, hu, Argument.copyInAll_octets, bind,
      Except.bind, pure, Except.pure, Except.map]
  | same _ hr => exact hr

end Flattens

variable (find : Int → Except Failure Argument)

/-- Filters that are absent stand for none. -/
theorem mapM_filters (fs : Option Kept) :
    (∃ e, fs.mapM (Operand.argument find) = .error e ∧
      (some (fs.getD .absent)).mapM (Operand.argument find) = .error e) ∨
    ∃ f a, fs.mapM (Operand.argument find) = .ok f ∧
      (some (fs.getD .absent)).mapM (Operand.argument find) = .ok (some a) ∧
      Argument.copyInOptional (some a) = Argument.copyInOptional f := by
  cases fs with
  | none => exact Or.inr ⟨none, .envelope (.fresh [] .owned), rfl, rfl, rfl⟩
  | some x =>
    rw [Option.getD_some, Option.mapM_some]
    cases x.argument find with
    | error e => exact Or.inl ⟨e, rfl, rfl⟩
    | ok a => exact Or.inr ⟨some a, a, rfl, rfl, rfl⟩

/-- Looking up the arguments leaves the command what it is. -/
theorem mapArguments_role {o : Order Kept} {f : Kept → Except Failure Argument}
    {a : Order Argument} (h : o.mapArguments f = .ok a) : a.role = o.role := by
  cases o <;>
  · simp only [mapArguments, bind, Except.bind, pure, Except.pure] at h
    repeat' split at h
    all_goals cases h
    all_goals rfl

/-- A command without sequences and filters has the same arguments on both surfaces. -/
theorem flattens_self {o : Order Kept} (hu : o.isUniform = true)
    {f : Kept → Except Failure Argument} {a : Order Argument} (h : o.mapArguments f = .ok a) :
    Flattens a a := by
  cases o with
  | launchTasks | declineOffer | requestResources => cases hu
  | _ =>
    simp only [mapArguments, bind, Except.bind, pure, Except.pure] at h
    repeat' split at h
    all_goals cases h
    all_goals exact .same rfl rfl

/-- The arguments of a command are there on both surfaces, or the same failure is. -/
theorem flat_mapArguments {o : Order Kept} (h : o.Packable) :
    (∃ f, o.mapArguments (Operand.argument find) = .error f ∧
      o.flat.mapArguments (Operand.argument find) = .error f) ∨
    ∃ a a', o.mapArguments (Operand.argument find) = .ok a ∧
      o.flat.mapArguments (Operand.argument find) = .ok a' ∧ Flattens a a' := by
  by_cases hu : o.isUniform = true
  · rw [flat_of_isUniform hu]
    cases ho : o.mapArguments (Operand.argument find) with
    | error f => exact Or.inl ⟨f, rfl, rfl⟩
    | ok a => exact Or.inr ⟨a, a, rfl, rfl, flattens_self hu ho⟩
  cases o with
  | launchTasks os ts fs =>
    obtain ⟨obs, hof, hos, hos'⟩ := h.1.arguments find
    obtain ⟨tbs, htf, hts, hts'⟩ := h.2.arguments find
    rcases mapM_filters find fs with ⟨e, he, he'⟩ | ⟨f, a, hf, ha, hcopy⟩
    · simp only [flat, mapArguments, hos, hts, hos', hts', he, he']
      exact Or.inl ⟨e, rfl, rfl⟩
    · simp only [flat, mapArguments, hos, hts, hos', hts', hf, ha]
      exact Or.inr ⟨_, _, rfl, rfl, .launchTasks hof htf hcopy⟩
  | declineOffer o fs =>
    simp only [flat, mapArguments]
    cases o.argument find with
    | error e => exact Or.inl ⟨e, rfl, rfl⟩
    | ok x =>
      rcases mapM_filters find fs with ⟨e, he, he'⟩ | ⟨f, a, hf, ha, hcopy⟩
      · simp only [he, he']
        exact Or.inl ⟨e, rfl, rfl⟩
      · simp only [hf, ha]
        exact Or.inr ⟨_, _, rfl, rfl, .declineOffer hcopy⟩
  | requestResources rs =>
    obtain ⟨bs, hf, hr, hr'⟩ := h.arguments find
    simp only [flat, mapArguments, hr, hr']
    exact Or.inr ⟨_, _, rfl, rfl, .requestResources hf⟩
  | _ => exact absurd rfl hu

end Order

namespace CallOf

/-- The call as the flat surface takes it. Whether a framework is to be kept is always said there;
drivers of executors take no notice of it. -/
def flat : Call → Call
  | order o => order o.flat
  | stop failover => stop (some (failover.getD false))
  | c => c

/-- A call that the flat surface has for drivers of the role. -/
def Packable (r : Role) : Call → Prop
  | order o => o.role = r ∧ o.Packable
  | _ => True

@[simp] theorem flat_op (c : Call) : c.flat.op = c.op := by
  cases c with
  | order o => exact o.flat_op
  | _ => rfl

/-- A command is no question to an object. -/
theorem order_ne_ask (o : Order Kept) (i : Int) (q : Query) : (order o : Call) ≠ .ask i q :=
  fun h => by cases h

theorem flat_ne_ask {c : Call} (h : ¬ ∃ i q, c = .ask i q) (i : Int) (q : Query) :
    c.flat ≠ .ask i q := by
  intro hc
  cases c with
  | ask i' q' => exact h ⟨i', q', rfl⟩
  | _ => cases hc

variable {find : Int → Except Failure Argument} {d : Driver}

/-- A command with its arguments is left with what these make of it. -/
theorem errand_order {o : Order Kept} {a : Order Argument} {surface : Surface}
    (ha : o.mapArguments (Operand.argument find) = .ok a) (hr : a.role = d.role)
    (hm : surface = .flat → a.missing? = none) :
    (order o : Call).errand surface d find = (order a).work surface d := by
  simp only [errand, prepared, arguments, ha, Except.map, bind, Except.bind, defect?, hr, ne_eq,
    not_true_eq_false, if_false]
  cases surface with
  | direct => rfl
  | flat =>
    simp only [hm rfl]
    rfl

/-- On the flat surface a call is left with the same errand. -/
theorem errand_flat {c : Call} (hc : c.Packable d.role) :
    c.flat.errand .flat d find = c.errand .direct d find := by
  cases c with
  | order o =>
    obtain ⟨hrole, hpack⟩ := hc
    rcases Order.flat_mapArguments find hpack with ⟨f, ho, ho'⟩ | ⟨a, a', ho, ho', hf⟩
    · simp only [flat, errand, prepared, arguments, ho, ho', Except.map, bind, Except.bind]
    · have ha : a.role = d.role := (Order.mapArguments_role ho).trans hrole
      rw [flat, errand_order ho' (hf.role.trans ha) fun _ => hf.missing,
        errand_order ho ha (fun h => by cases h), work, work, hf.ready]
  | stop failover =>
    cases failover <;> cases hr : d.role <;>
      simp [flat, errand, prepared, arguments, defect?, hr, bind, Except.bind, work]
  | read r => cases r <;> rfl
  | _ => rfl

end CallOf

/-! ### Malformed sequences -/

namespace Records

/-- The bytes hold a packed sequence. -/
def IsPacked (b : Bytes) : Prop := ∃ rs, unpack b = .ok rs

/-- Bytes that hold none are a malformed value. -/
theorem unpackFrom_error {offset : Nat} {data : Bytes} {f : Failure}
    (h : unpackFrom offset data = .error f) : f.isMalformed = true := by
  fun_induction unpackFrom offset data with
  | case1 => cases h
  | case2 =>
    cases h
    rfl
  | case3 =>
    cases h
    rfl
  | case4 offset data hnil hlen claimed body hbody ih =>
    cases hrest : unpackFrom (offset + lengthSize + claimed) (body.drop claimed) with
    | error g =>
      rw [hrest] at h
      obtain rfl := Except.error.inj h
      exact ih hrest
    | ok rs =>
      rw [hrest] at h
      cases h

end Records

/-- The operand is an envelope with those bytes, which was not released. -/
def Operand.Encloses (find : Int → Except Failure Argument) (x : Kept) (b : Bytes) : Prop :=
  ∃ o, x.argument find = .ok (.envelope (.fresh b o))

namespace Order

/-- The sequences of a command come in envelopes, and one of these does not hold a packed
sequence. -/
inductive Garbled (find : Int → Except Failure Argument) : Order Kept → Prop
  | launchTasks {os ts fs : Kept} {b b' : Bytes} {a : Argument} (hos : os.Encloses find b)
    (hts : ts.Encloses find b') (hfs : fs.argument find = .ok a)
    (h : ¬ (Records.IsPacked b ∧ Records.IsPacked b')) : Garbled find (.launchTasks os ts (some fs))
  | requestResources {rs : Kept} {b : Bytes} (hrs : rs.Encloses find b)
    (h : ¬ Records.IsPacked b) : Garbled find (.requestResources rs)

/-- One sequence that cannot be unpacked spoils them all. -/
theorem unpackAll_malformed {b : Bytes} (o : Ownership) (as : List Argument)
    (h : ¬ Records.IsPacked b) : unpackAll (.envelope (.fresh b o) :: as) = .ok none := by
  cases hu : Records.unpack b with
  | error f =>
    rw [unpackAll, unpacked_fresh, hu]
    exact if_pos (Records.unpackFrom_error hu)
  | ok rs => exact absurd ⟨rs, hu⟩ h

/-- Two sequences are unpacked only if both can be. -/
theorem unpackAll_pair {b b' : Bytes} (o o' : Ownership)
    (h : ¬ (Records.IsPacked b ∧ Records.IsPacked b')) :
    unpackAll [.envelope (.fresh b o), .envelope (.fresh b' o')] = .ok none := by
  by_cases hb : Records.IsPacked b
  · obtain ⟨bs, hu⟩ := hb
    rw [unpackAll_cons hu, unpackAll_malformed o' [] fun hb' => h ⟨⟨bs, hu⟩, hb'⟩]
    rfl
  · exact unpackAll_malformed o _ hb

end Order

/-- A command with a malformed sequence is to be turned down. -/
theorem CallOf.errand_garbled {o : Order Kept} {d : Driver}
    {find : Int → Except Failure Argument} (hr : d.role = .scheduler) (h : o.Garbled find) :
    (order o : Call).errand .flat d find = .region (.turnDown o.op) := by
  cases h with
  | @launchTasks os ts fs b b' a hos hts hfs h =>
    obtain ⟨x, hos⟩ := hos
    obtain ⟨y, hts⟩ := hts
    have ha : (Order.launchTasks os ts (some fs)).mapArguments (Operand.argument find) =
        .ok (.launchTasks (.envelope (.fresh b x)) (.envelope (.fresh b' y)) (some a)) := by
      simp only [Order.mapArguments, hos, hts, Option.mapM_some, hfs]
      rfl
    rw [errand_order ha hr.symm fun _ => rfl, work, Order.ready, Order.readyFlat,
      Order.unpackAll_pair x y h]
    rfl
  | @requestResources rs b hrs h =>
    obtain ⟨x, hrs⟩ := hrs
    have ha : (Order.requestResources rs).mapArguments (Operand.argument find) =
        .ok (.requestResources (.envelope (.fresh b x))) := by
      simp only [Order.mapArguments, hrs]
      rfl
    rw [errand_order ha hr.symm fun _ => rfl, work, Order.ready, Order.readyFlat,
      Order.unpackAll_malformed x [] h]
    rfl

end ClusterLink
