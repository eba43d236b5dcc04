/-
# The lifetime of envelopes

What a step at a desk answers, told by who may use which envelope
(`Desk.Governed`). Whatever reads an envelope reports the bytes that it was
made of while it is live; otherwise that is misuse, and the desk stays as it
is. A transferred envelope is reclaimed once. A scope that is left releases
its own envelopes, whether its body failed or not, and does not swallow the
failure.

Key definitions: `Desk.Reads`, `Argument.copies`, `Desk.payloads`,
`Desk.Lifetimes`.
Key theorems: `Desk.Reads.step`, `Desk.step_lend`, `Desk.run_lifetimes`.
-/
import ClusterLink.Proofs.Ownership

namespace ClusterLink

namespace Desk

variable {d : Desk} {ms : List Envelope} {rs : List Nat}

/-! ### What reads an envelope -/

/-- How a question reports the bytes of an envelope, if it reads them. -/
def report? : Query → Option (Bytes → Answer)
  | .size | .length => some fun b => .number b.length
  | .bytes | .copy => some .octets
  | .isAbsent => some fun b => .truth (decide (b.length = 0))
  | .truth => some fun b => .truth (decide (b.length ≠ 0))
  | _ => none

/-- The steps that read the envelope of a number and change nothing, and what they report of its
bytes. -/
inductive Reads (d : Desk) (id : Nat) : Step → (Bytes → Answer) → Prop
  | ask {name : String} {q : Query} {report : Bytes → Answer} (hq : report? q = some report)
    (ho : d.object name = .ok (.envelope id)) : Reads d id (.ask name q) report
  | merge {name : String} (into : Bytes) (ho : d.object name = .ok (.envelope id)) :
    Reads d id (.merge name into) fun b => .octets (into ++ b)
  | copyIn {name : String} (ho : d.object name = .ok (.envelope id)) :
    Reads d id (.copyIn (.held name)) .octets

/-- A name stands for the envelope as it is. -/
theorem argument_held {name : String} {id : Nat} (ho : d.object name = .ok (.envelope id)) :
    d.argument (.held name) = .ok (.envelope (d.store.envelope id)) := by
  simp [Desk.argument, Operand.argument, ho, Except.map, Store.argument]

theorem Reads.step {id : Nat} {s : Step} {report : Bytes → Answer} (h : d.Reads id s report) :
    d.step s = ((d.store.envelope id).read.map report, d) := by
  cases h with
  | @ask name q report hq ho =>
    cases q <;> cases hq <;> simp [Desk.step, ho, Store.ask, Store.askEnvelope]
  | merge into ho =>
    simp only [Desk.step, answer, envelope, ho]
    simp only [Bind.bind, Except.bind]
    cases (d.store.envelope id).read <;> rfl
  | copyIn ho =>
    simp only [Desk.step, answer, argument_held ho]
    simp only [Bind.bind, Except.bind, Argument.copyIn]
    cases (d.store.envelope id).read <;> rfl

theorem Governed.read (h : d.Governed ms rs) {id : Nat} {e : Envelope} (he : ms[id]? = some e) :
    (d.store.envelope id).read = if d.isLive rs id e.ownership then .ok e.data
      else .error (.released e.ownership) := by
  rw [h.kept id e he]
  split
  · simp [Envelope.read, h.fresh e (List.mem_of_getElem? he)]
  · rfl

theorem step_view {name view : String} {id : Nat} (ho : d.object name = .ok (.envelope id)) :
    d.step (.view name view) = match (d.store.envelope id).read with
      | .ok data => (.ok .nothing,
          ({ d with store.views := d.store.views ++ [⟨some id, some data⟩] } : Desk).bind view
            (.view d.store.views.length))
      | .error f => (.error f, d) := by
  simp only [Desk.step, change, envelope, ho, Store.view]
  simp only [Bind.bind, Except.bind]
  cases (d.store.envelope id).read <;> rfl

theorem step_compare {name : String} {value : Named} {id : Nat} {other : Envelope} (same : Bool)
    (ho : d.object name = .ok (.envelope id)) (ha : d.argument value = .ok (.envelope other)) :
    d.step (.compare name value same) = (do
      let x ← (d.store.envelope id).read
      let y ← other.read
      .ok (.truth (decide (x = y) == same)), d) := by
  simp only [Desk.step, answer, compare, ho, ha]
  simp only [Bind.bind, Except.bind, equal, Store.argument]
  cases (d.store.envelope id).read with
  | error f => rfl
  | ok x => cases other.read <;> rfl

theorem step_reclaim {name : String} {id : Nat} (ho : d.object name = .ok (.envelope id)) :
    d.step (.ask name .reclaim) = match (d.store.envelope id).reclaim with
      | .ok data => (.ok (.octets data), { d with store := d.store.release id })
      | .error f => (.error f, d) := by
  simp only [Desk.step, ho, Store.ask, Store.askEnvelope, Store.reclaim]
  cases (d.store.envelope id).reclaim <;> rfl

/-- Only a transferred envelope that is live can be reclaimed. -/
theorem Governed.reclaim_eq (h : d.Governed ms rs) {id : Nat} {e : Envelope}
    (he : ms[id]? = some e) :
    (d.store.envelope id).reclaim =
      if e.ownership ≠ .transferred then .error (.notTransferred e.ownership)
      else if id ∈ rs then .error (.released .transferred)
      else .ok e.data := by
  have hr := h.read he
  unfold Envelope.reclaim
  rw [h.ownership he, hr]
  by_cases ho : e.ownership = .transferred
  · by_cases hid : id ∈ rs <;> simp [ho, hid, isLive]
  · simp [ho]

end Desk

namespace Argument

/-- Whether an argument carries bytes whatever happens, or is an envelope. -/
def isData : Argument → Bool
  | octets _ | buffer _ | envelope _ => true
  | _ => false

/-- The bytes that an argument carries. -/
def content : Argument → Bytes
  | octets b | buffer b => b
  | envelope e => e.data
  | _ => []

/-- The ownership of an envelope that was released. -/
def dead? : Argument → Option Ownership
  | envelope e => if e.released then some e.ownership else Option.none
  | _ => Option.none

/-- The bytes of several arguments, unless one of them is an envelope that was released; the first
such one decides. -/
def copies (as : List Argument) : Except Failure (List Bytes) :=
  match as.findSome? dead? with
  | some o => .error (.released o)
  | Option.none => .ok (as.map content)

theorem copyIn_of_isData {a : Argument} (h : a.isData = true) :
    a.copyIn = match a.dead? with
      | some o => .error (.released o)
      | Option.none => .ok a.content := by
  cases a with
  | envelope e =>
    cases hr : e.released <;> simp [copyIn, Envelope.read, dead?, content, hr]
  | octets b => rfl
  | buffer b => rfl
  | _ => cases h

theorem mapM_copyIn {as : List Argument} (h : ∀ a ∈ as, a.isData = true) :
    as.mapM copyIn = copies as := by
  induction as with
  | nil => simp [copies, pure, Except.pure]
  | cons a as ih =>
    have ih := ih fun x hx => h x (List.mem_cons_of_mem _ hx)
    rw [List.mapM_cons, copyIn_of_isData (h a List.mem_cons_self), ih]
    unfold copies
    rw [List.findSome?_cons]
    cases a.dead? with
    | some o => rfl
    | none => cases as.findSome? dead? <;> rfl

end Argument

namespace Desk

variable {d : Desk} {ms : List Envelope} {rs : List Nat}

theorem step_pack {value : Named} {as : List Argument} (ha : d.argument value = .ok (.list as))
    (has : ∀ a ∈ as, a.isData = true) :
    d.step (.pack value) = ((Argument.copies as).map fun bs => .octets (Records.pack bs), d) ∧
      d.step (.copyInAll value) = ((Argument.copies as).map .batch, d) := by
  have hcopy : (Argument.list as).copyInAll = Argument.copies as := Argument.mapM_copyIn has
  simp only [Desk.step, answer, ha, packArgument]
  simp only [Bind.bind, Except.bind, hcopy]
  cases Argument.copies as <;> exact ⟨rfl, rfl⟩

/-! ### Scopes -/

/-- The bytes of the payloads of a scope, if all of them can be converted. -/
def payloads (d : Desk) (values : List Named) : Except Failure (List Bytes) :=
  values.mapM d.argument >>= fun as => as.mapM Argument.toBytes

/-- A scope opens if all its payloads can be converted, and leaves nothing live otherwise. -/
theorem step_lend (d : Desk) (names : List String) (values : List Named) :
    match d.payloads values with
    | .ok bs => d.births (.lend names values) = bs.map (Envelope.fresh · .borrowed) ∧
        d.step (.lend names values) = (.ok (.number bs.length),
          ({ d with store := d.store.lending bs } : Desk).openScope names (d.store.numbers bs))
    | .error f => (d.step (.lend names values)).1 = .error f ∧
        (d.step (.lend names values)).2.scopes = d.scopes ∧
        ∀ k, if k < d.store.envelopes.length
          then (d.step (.lend names values)).2.store.envelope k = d.store.envelope k
          else ((d.step (.lend names values)).2.store.envelope k).released = true := by
  unfold payloads
  cases ha : values.mapM d.argument with
  | error f =>
    have hstep : d.step (.lend names values) = (.error f, d) := by simp [Desk.step, ha]
    rw [hstep]
    refine ⟨rfl, rfl, fun k => ?_⟩
    split
    · rfl
    · rename_i hk
      exact Store.released_of_absent (Nat.not_lt.mp hk)
  | ok as =>
    simp only [Bind.bind, Except.bind]
    rcases d.store.lendEach_cases [] as with ⟨hm, he⟩ | ⟨f, hm, he⟩
    · rw [hm]
      refine ⟨by simp [births, ha], ?_⟩
      simp [Desk.step, ha, borrow, he, Store.numbers]
    · have hstep : d.step (.lend names values) = (.error f,
          ({ d with
            store := (d.store.lending (Argument.converted as)).releaseAll
              (d.store.numbers (Argument.converted as)) } : Desk)) := by
        simp only [Desk.step, ha, borrow, he, List.nil_append]
      rw [hm, hstep]
      exact ⟨rfl, rfl, d.store.unwind_envelope _⟩

/-! ### Every row of steps -/

/-- What can be said of a desk at which the envelopes `ms` were made, and those of the numbers `rs`
were asked to be reclaimed. -/
structure Lifetimes (d : Desk) (ms : List Envelope) (rs : List Nat) : Prop where
  /-- The envelopes that there are were made live, and those with a name are among them. -/
  count : d.store.envelopes.length = ms.length
  fresh : ∀ e ∈ ms, e.released = false
  named : ∀ name id, d.object name = .ok (.envelope id) → ∃ e, ms[id]? = some e
  /-- An owned envelope stays as it was made. -/
  owned : ∀ id e, ms[id]? = some e → e.ownership = .owned → d.store.envelope id = e
  /-- A borrowed one does so while its scope is open. -/
  borrowed : ∀ id e, ms[id]? = some e → e.ownership = .borrowed →
    d.store.envelope id = if id ∈ d.scopes.flatten then e else e.release
  /-- A transferred one does so until it is first asked to be reclaimed. -/
  transferred : ∀ id e, ms[id]? = some e → e.ownership = .transferred →
    d.store.envelope id = if id ∈ rs then e.release else e
  /-- Reclaiming gives the bytes that the envelope was made of, once. -/
  reclaim : ∀ name id e, d.object name = .ok (.envelope id) → ms[id]? = some e →
    d.step (.ask name .reclaim) =
      if e.ownership ≠ .transferred then (.error (.notTransferred e.ownership), d)
      else if id ∈ rs then (.error (.released .transferred), d)
      else (.ok (.octets e.data), { d with store := d.store.release id })
  /-- Reading gives the bytes that the envelope was made of, while it is live. -/
  reads : ∀ id e s report, d.Reads id s report → ms[id]? = some e →
    d.step s = if d.isLive rs id e.ownership then (.ok (report e.data), d)
      else (.error (.released e.ownership), d)
  /-- So does a view, which is an object of its own. -/
  views : ∀ name view id e, d.object name = .ok (.envelope id) → ms[id]? = some e →
    d.step (.view name view) = if d.isLive rs id e.ownership then
        (.ok .nothing,
          ({ d with store.views := d.store.views ++ [⟨some id, some e.data⟩] } : Desk).bind view
            (.view d.store.views.length))
      else (.error (.released e.ownership), d)
  /-- Two envelopes can be compared while both are live. -/
  compares : ∀ name value id e other same, d.object name = .ok (.envelope id) → ms[id]? = some e →
    d.argument value = .ok (.envelope other) →
    d.step (.compare name value same) =
      if d.isLive rs id e.ownership = false then (.error (.released e.ownership), d)
      else if other.released then (.error (.released other.ownership), d)
      else (.ok (.truth (decide (e.data = other.data) == same)), d)
  /-- Several arguments are packed or copied if none of them is an envelope that was released; an
  envelope with a name is what is said above. -/
  packs : ∀ value as, d.argument value = .ok (.list as) → (∀ a ∈ as, a.isData = true) →
    d.step (.pack value) = ((Argument.copies as).map fun bs => .octets (Records.pack bs), d) ∧
      d.step (.copyInAll value) = ((Argument.copies as).map .batch, d)
  held : ∀ name id, d.object name = .ok (.envelope id) →
    d.argument (.held name) = .ok (.envelope (d.store.envelope id))
  /-- An envelope is made of what the value converts to, and gets the name. -/
  makes : ∀ name value ownership b, d.argument value >>= Argument.toBytes = .ok b →
    d.births (.make name value ownership) = [.fresh b ownership] ∧
      (d.step (.make name value ownership)).1 = .ok .nothing ∧
      (d.step (.make name value ownership)).2.object name = .ok (.envelope ms.length)
  /-- A scope lends new envelopes of all its payloads, under the names. -/
  opens : ∀ names values bs, d.payloads values = .ok bs →
    d.births (.lend names values) = bs.map (Envelope.fresh · .borrowed) ∧
      (d.step (.lend names values)).1 = .ok (.number bs.length) ∧
      (d.step (.lend names values)).2.scopes = List.range' ms.length bs.length :: d.scopes ∧
      (names.Nodup → ∀ p ∈ names.zip (List.range' ms.length bs.length),
        (d.step (.lend names values)).2.object p.1 = .ok (.envelope p.2))
  /-- A scope with a payload that cannot be converted does not open, and leaves nothing live. -/
  unwinds : ∀ names values f, d.payloads values = .error f →
    (d.step (.lend names values)).1 = .error f ∧
      (d.step (.lend names values)).2.scopes = d.scopes ∧
      ∀ k, if k < ms.length
        then (d.step (.lend names values)).2.store.envelope k = d.store.envelope k
        else ((d.step (.lend names values)).2.store.envelope k).released = true
  /-- Leaving the innermost scope releases its envelopes and no other ones, and a failure of its
  body is not swallowed. -/
  leaves : ∀ failure ids rest, d.scopes = ids :: rest →
    (d.step (.leave failure)).1 = .ok (.truth false) ∧
      (d.step (.leave failure)).2.scopes = rest ∧ (∀ id ∈ ids, id ∉ rest.flatten) ∧
      ∀ k, (d.step (.leave failure)).2.store.envelope k =
        if k ∈ ids then (d.store.envelope k).release else d.store.envelope k
  /-- Whatever is refused above is misuse. -/
  misuse : ∀ ownership, (Failure.released ownership).isMisuse = true ∧
    (Failure.notTransferred ownership).isMisuse = true

theorem Governed.lifetimes (h : d.Governed ms rs) : d.Lifetimes ms rs where
  count := h.count
  fresh := h.fresh
  named name id ho := ⟨_, List.getElem?_eq_getElem (h.named name id ho)⟩
  owned id e he ho := by
    rw [h.kept id e he, ho]
    rfl
  borrowed id e he ho := by
    rw [h.kept id e he, ho]
    simp only [isLive, decide_eq_true_eq]
  transferred id e he ho := by
    rw [h.kept id e he, ho]
    simp only [isLive, decide_eq_true_eq, ite_not]
  reclaim name id e ho he := by
    rw [step_reclaim ho, h.reclaim_eq he]
    by_cases ht : e.ownership ≠ .transferred
    · rw [if_pos ht, if_pos ht]
    · rw [if_neg ht, if_neg ht]
      by_cases hid : id ∈ rs
      · rw [if_pos hid, if_pos hid]
      · rw [if_neg hid, if_neg hid]
  reads id e s report hr he := by
    rw [hr.step, h.read he]
    cases d.isLive rs id e.ownership <;> rfl
  views name view id e ho he := by
    rw [step_view ho, h.read he]
    cases d.isLive rs id e.ownership <;> rfl
  compares name value id e other same ho he ha := by
    rw [step_compare same ho ha, h.read he]
    cases d.isLive rs id e.ownership with
    | false => rfl
    | true =>
      unfold Envelope.read
      cases other.released <;> rfl
  packs value as ha has := step_pack ha has
  held name id ho := argument_held ho
  makes name value ownership b hb := by
    have hbirth : d.births (.make name value ownership) = [.fresh b ownership] := by
      simp only [births, hb]
    have hstep : d.step (.make name value ownership) = (.ok .nothing,
        ({ d with store := (d.store.add (.fresh b ownership)).2 } : Desk).bind name
          (.envelope d.store.envelopes.length)) := by
      simp only [Desk.step, change, ← bind_assoc, hb]
      rfl
    refine ⟨hbirth, by rw [hstep], ?_⟩
    rw [hstep, object_bind, if_pos rfl, h.count]
  opens names values bs hb := by
    have hl := d.step_lend names values
    rw [hb] at hl
    obtain ⟨hbirth, hstep⟩ := hl
    have hn : d.store.numbers bs = List.range' ms.length bs.length := by
      rw [Store.numbers, h.count]
    refine ⟨hbirth, by rw [hstep], ?_, fun hnames p hp => ?_⟩
    · rw [hstep, ← hn]
      exact (openScope_store _ _ _).2
    · rw [hstep, hn]
      exact object_binds (hnames.sublist (fst_zip_sublist _ _)) _ hp
  unwinds names values f hf := by
    have hl := d.step_lend names values
    rw [hf, h.count] at hl
    exact hl
  leaves failure ids rest hs := by
    have hstep : d.step (.leave failure) = (.ok (.truth false),
        { d with store := d.store.releaseAll ids, scopes := rest }) := by simp [Desk.step, hs]
    have happ := h.apart
    rw [hs, List.flatten_cons, List.nodup_append] at happ
    rw [hstep]
    exact ⟨rfl, rfl, fun id hid hr => happ.2.2 id hid id hr rfl,
      fun k => Store.envelope_releaseAll _ _ k⟩
  misuse ownership := by cases ownership <;> decide

/-- At every moment of every row of steps that makes envelopes and scopes in the ways there are. -/
theorem run_lifetimes {steps : List Step} (h : ∀ s ∈ steps, s.isProper = true) :
    (empty.after steps).Lifetimes (empty.made steps) (empty.reclaimed steps) :=
  (empty_governed.after h).lifetimes

/-- A buffer is lent within a scope and written to, next to a transferred envelope of it; the inner
scope is left by a failure, a further one does not open, and the transferred envelope is reclaimed
twice. -/
def lendingSteps : List Step :=
  [.buffer "b" (.plain (.octets [1, 2])), .make "t" (.held "b") .transferred,
    .make "o" (.plain (.octets [9])) .owned, .lend ["x"] [.held "b"], .poke "b" 0 7,
    .lend ["y"] [.held "x"], .leave (some .noScope),
    .lend ["z", "w"] [.held "o", .plain (.text "")],
    .ask "t" .reclaim, .ask "t" .reclaim]

theorem lending_lifetimes : (∀ s ∈ lendingSteps, s.isProper = true) ∧
    empty.made lendingSteps = [.fresh [1, 2] .transferred, .fresh [9] .owned,
      .fresh [1, 2] .borrowed, .fresh [1, 2] .borrowed, .fresh [9] .borrowed] ∧
    (empty.after lendingSteps).store.envelopes.map Envelope.released =
      [true, false, false, true, true] ∧
    empty.reclaimed lendingSteps = [0, 0] ∧
    (empty.after lendingSteps).Lifetimes (empty.made lendingSteps)
      (empty.reclaimed lendingSteps) :=
  ⟨by decide, by decide, by decide, by decide, run_lifetimes (by decide)⟩

end Desk

end ClusterLink
