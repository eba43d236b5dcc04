/-
# What is sent again

Once per round an executor goes through its ledger and hands the updates over
again whose stamp is older than the watermark, the time less the age at which
that is due; when the agent came back it hands over all of them. Either way
the ledger is gone through in order, each update that is due is handed over
once and stamped, and nothing else becomes of the ledger
(`Endpoint.HandsOver`). It makes no difference whether the sends succeed: what
is handed over after a send that failed is dropped, and stamped all the same.

A tick announces each update with the time for which it was not acknowledged,
in seconds. The clock counts nanoseconds in a signed number of 64 bits
(`IsReading`), and a double can hold every span between two such readings, so
that never fails (`Endpoint.announce_of_readings`). A resend period whose
nanoseconds no double can hold makes the tick fail as a whole; no update is
that old (`Double.Overflows.exceeds`).

Stamps are never later than the time, over every run in which the clock does
not go back, so no stamp is set back (`System.run_resends`).

Key definitions: `IsReading`, `Endpoint.HandsOver`, `Endpoint.Ticks`,
`System.Clocked`, `System.Resends`.
Key theorems: `Endpoint.announce_of_readings`, `Endpoint.resend_handsOver`,
`Endpoint.ticks`, `System.run_stamped`, `System.run_resends`.
-/
import ClusterLink.Proofs.Fields
import ClusterLink.Proofs.Overflow
import ClusterLink.Proofs.Pacing

namespace ClusterLink

open History

/-! ### Readings of the clock -/

/-- Whether the clock can show the number: it counts nanoseconds in 64 bits, one of them for the
sign. -/
def IsReading (n : Int) : Prop := -0x8000000000000000 ≤ n ∧ n < 0x8000000000000000

instance (n : Int) : Decidable (IsReading n) := by
  unfold IsReading
  infer_instance

/-- Two readings are less than `2 ^ 64` nanoseconds apart. -/
theorem IsReading.natAbs_sub_lt {a b : Int} (ha : IsReading a) (hb : IsReading b) :
    (a - b).natAbs < 0x10000000000000000 := by
  obtain ⟨hal, hau⟩ := ha
  obtain ⟨hbl, hbu⟩ := hb
  omega

namespace Double

/-- A span between two readings is far from the limit of the doubles. -/
theorem span_lt_limit {n : Nat} (h : n < 0x10000000000000000) : power 1074 * n < limit := by
  have hpower : power 1074 * n < power 1074 * power 64 :=
    Nat.mul_lt_mul_of_pos_left h (power_pos 1074)
  rw [← power_add] at hpower
  exact hpower.trans_le ((power_le (by decide)).trans le_limit)

theorem ofInt_of_span {n : Int} (h : n.natAbs < 0x10000000000000000) :
    ∃ negative m e, ofInt n = finite negative m e := by
  have hlt := span_lt_limit h
  rcases ofRatio_cases (decide (n < 0)) n.natAbs (d := 1) (by decide) with
    ⟨hle, -⟩ | ⟨-, m, e, he⟩
  · omega
  · exact ⟨_, m, e, he⟩

/-- The number of so many parts of a second is below the span, which is not negative. -/
def Exceeds (x : Double) (k : Nat) (n : Int) : Prop :=
  match x with
  | nan => False
  | infinity negative => negative = false
  | finite negative m e => negative = false ∧ n * power 1074 < m * power e * k

/-- A span whose nanoseconds overflow exceeds every span between two readings. -/
theorem Overflows.exceeds {x : Double} {k : Nat} (hx : x.isPositive = true) (ho : x.Overflows k)
    {a b : Int} (ha : IsReading a) (hb : IsReading b) : x.Exceeds k (a - b) := by
  cases x with
  | nan => cases hx
  | infinity negative =>
    cases negative with
    | true => cases hx
    | false => rfl
  | finite negative m e =>
    cases negative with
    | true => cases hx
    | false =>
      have hle : limit ≤ m * power e * k := ho
      have hlt := (span_lt_limit (ha.natAbs_sub_lt hb)).trans_le hle
      have habs : (a - b) * power 1074 ≤ ((power 1074 * (a - b).natAbs : Nat) : Int) := by
        rw [Int.natCast_mul, Int.mul_comm]
        exact Int.mul_le_mul_of_nonneg_left Int.le_natAbs (Int.natCast_nonneg _)
      refine ⟨rfl, Int.lt_of_le_of_lt habs ?_⟩
      exact_mod_cast hlt

/-- The whole part of a multiple of a span above nought is not below it. -/
theorem truncate?_times_nonneg {x : Double} (hx : x.isPositive = true) (k : Nat) :
    0 ≤ (x.times k).truncate?.getD 0 := by
  cases x with
  | nan => cases hx
  | infinity negative =>
    by_cases hk : k = 0 <;> simp [times, hk, truncate?]
  | finite negative m e =>
    cases negative with
    | true => cases hx
    | false =>
      rcases ofRatio_cases false (m * power e * k) (power_pos 1074) with ⟨-, h⟩ | ⟨-, m', e', h⟩
      · rw [times, h]
        exact Int.le_refl 0
      · rw [times, h]
        exact Int.natCast_nonneg _

end Double

/-! ### Handing over -/

namespace Ledger

variable {due : Update → Bool} {c : Int} {l l' : Ledger}

/-- The updates are those that they were, and no stamp was set back. -/
def Later (l l' : Ledger) : Prop :=
  List.Forall₂ (fun u v : Update => v.entry = u.entry ∧ u.stamp ≤ v.stamp) l l'

/-- No stamp is set back, if those of the updates that are due are not later. -/
theorem later_of_renewed (h : List.Forall₂ (Update.Renewed due c) l l')
    (hs : ∀ u ∈ l, due u = true → u.stamp ≤ c) : l.Later l' := by
  induction h with
  | nil => exact .nil
  | @cons u v _ _ hr _ ih =>
    refine .cons ⟨Prod.ext hr.uuid hr.status, ?_⟩ (ih fun w hw => hs w (List.mem_cons_of_mem u hw))
    cases hd : due u with
    | false => exact Int.le_of_eq (congrArg Update.stamp (hr.kept hd)).symm
    | true => exact Int.le_trans (hs u List.mem_cons_self hd) (hr.stamped hd)

/-- An update is not due, or was stamped. -/
theorem mem_renewed (h : List.Forall₂ (Update.Renewed due c) l l') :
    ∀ v ∈ l', due v = false ∨ c ≤ v.stamp := by
  induction h with
  | nil => simp
  | @cons u v _ _ hr _ ih =>
    intro w hw
    rcases List.mem_cons.mp hw with rfl | hw
    · cases hd : due u with
      | false => exact Or.inl (hr.kept hd ▸ hd)
      | true => exact Or.inr (hr.stamped hd)
    · exact ih w hw

theorem mem_put {u v : Update} (h : v ∈ l.put u) : v = u ∨ v ∈ l := by
  unfold put at h
  split at h
  · obtain ⟨w, hw, rfl⟩ := List.mem_map.mp h
    split
    · exact Or.inl rfl
    · exact Or.inr hw
  · exact (List.mem_append.mp h).symm.imp_left List.mem_singleton.mp

end Ledger

namespace Endpoint

variable {e e' : Endpoint} {due : Update → Bool}

/-- The ledger was gone through in order: what was due was handed over and stamped, and nothing else
became of the ledger. -/
def HandsOver (due : Update → Bool) (e e' : Endpoint) : Prop :=
  List.Forall₂ (Update.Renewed due e.surroundings.clock) e.driver.inflight e'.driver.inflight ∧
    accepted e'.history = accepted e.history ++ (e.driver.inflight.filter due).map Update.message

/-- The update was not acknowledged for the age. -/
def isDue (e : Endpoint) (age : Int) (u : Update) : Bool :=
  decide (u.stamp < e.surroundings.clock - age)

/-- What the clock shows can be announced. -/
theorem announce_of_readings {u : Update} (hc : IsReading e.surroundings.clock)
    (hu : IsReading u.stamp) : ∃ x, e.announce u = .ok x := by
  obtain ⟨_, _, _, h⟩ := Double.ofInt_of_span (hc.natAbs_sub_lt hu)
  unfold announce
  dsimp only
  rw [h]
  exact ⟨_, rfl⟩

/-- The ledger is gone through up to its end: where updates are announced, the stamps and the time
at the end have to be readings of the clock. -/
theorem resend_handsOver (e : Endpoint) (due : Update → Bool) (announced : Bool)
    (hread : announced = true → IsReading (e.resend due announced).2.surroundings.clock ∧
      ∀ u ∈ e.driver.inflight, IsReading u.stamp) :
    (e.resend due announced).1 = .ok () ∧ HandsOver due e (e.resend due announced).2 := by
  obtain ⟨front, front', rest, hl, hl', hr, hacc, hend⟩ :=
    e.resendFrom_accepts due announced e.driver.inflight
  obtain ⟨hok, rfl⟩ := hend.resolve_right fun ⟨ha, f, u, vs, _, hrest, _, hfails⟩ => by
    obtain ⟨hclock, hstamps⟩ := hread ha
    have hu : u ∈ e.driver.inflight := by
      rw [hl, hrest]
      exact List.mem_append_right _ List.mem_cons_self
    have hlast : IsReading
        (e.resendFrom due announced e.driver.inflight).2.1.surroundings.clock := hclock
    obtain ⟨x, hx⟩ := announce_of_readings hlast (hstamps u hu)
    cases hfails.symm.trans hx
  rw [List.append_nil] at hl hl'
  refine ⟨hok, ?_, ?_⟩
  · show List.Forall₂ _ e.driver.inflight (e.resendFrom due announced e.driver.inflight).2.2
    rw [hl']
    rwa [← hl] at hr
  · rwa [← hl] at hacc

/-- No stamp is set back, if those of the updates that are due are not later than the time. -/
theorem HandsOver.later (h : HandsOver due e e')
    (hs : ∀ u ∈ e.driver.inflight, due u = true → u.stamp ≤ e.surroundings.clock) :
    e.driver.inflight.Later e'.driver.inflight :=
  Ledger.later_of_renewed h.1 hs

/-! ### Ticks -/

/-- Updates are not sent again before their time. -/
theorem age_nonneg {age : Int} (hp : e.driver.settings.resendPeriod.isPositive = true)
    (ha : e.resendAge = .ok age) : 0 ≤ age := by
  have hnonneg := Double.truncate?_times_nonneg hp 1000000000
  unfold resendAge at ha
  split at ha
  · cases ha
  · cases ha
  · exact Except.ok.inj ha ▸ hnonneg

/-- What a tick does, if updates are sent again at the age. -/
structure Ticks (e : Endpoint) (age : Int) : Prop where
  succeeds : e.tick.1 = .ok ()
  /-- It hands over what is due. -/
  hands : HandsOver (e.isDue age) e e.tick.2
  /-- No stamp is set back. -/
  later : e.driver.inflight.Later e.tick.2.driver.inflight
  /-- No stamp is older than the watermark any more. -/
  fresh : ∀ u ∈ e.tick.2.driver.inflight, e.surroundings.clock - age ≤ u.stamp

/-- The time does not go back in a tick. -/
theorem tick_clock (e : Endpoint) : e.surroundings.clock ≤ e.tick.2.surroundings.clock :=
  tick_keeps (P := fun x => e.surroundings.clock ≤ x.surroundings.clock) (fun _ _ h => h)
    (fun x _ h => Int.le_trans h (x.submit_clock _ _)) (fun _ _ h => h) (Int.le_refl _)

theorem ticks {age : Int} (hr : e.driver.role = .executor) (ha : e.resendAge = .ok age)
    (hage : 0 ≤ age) (hclock : IsReading e.tick.2.surroundings.clock)
    (hstamps : ∀ u ∈ e.driver.inflight, IsReading u.stamp) : e.Ticks age := by
  have htick : e.tick = e.resend (e.isDue age) true := by
    unfold tick
    rw [hr, ha]
    rfl
  have hbefore : ∀ u, e.isDue age u = true → u.stamp < e.surroundings.clock - age :=
    fun u hu => of_decide_eq_true hu
  rw [htick] at hclock
  obtain ⟨hok, hh⟩ := e.resend_handsOver (e.isDue age) true fun _ => ⟨hclock, hstamps⟩
  rw [← htick] at hok hh
  refine ⟨hok, hh, hh.later fun u _ hu => ?_, fun v hv => ?_⟩
  · have hlate := hbefore u hu
    omega
  · rcases Ledger.mem_renewed hh.1 v hv with hd | hc
    · exact Int.not_lt.mp (of_decide_eq_false hd)
    · omega

/-! ### Stamps are in the past -/

/-- Every stamp is a reading of the clock, and not later than the time. -/
def Stamped (e : Endpoint) : Prop :=
  ∀ u ∈ e.driver.inflight, IsReading u.stamp ∧ u.stamp ≤ e.surroundings.clock

/-- Every stamp lies between a time in the past and now. -/
def Since (c : Int) (e : Endpoint) : Prop :=
  c ≤ e.surroundings.clock ∧ ∀ u ∈ e.driver.inflight, c ≤ u.stamp ∧ u.stamp ≤ e.surroundings.clock

namespace Since

variable {c : Int}

theorem mono (h : e.Since c) (hl : e'.driver.inflight ⊆ e.driver.inflight)
    (hc : e.surroundings.clock ≤ e'.surroundings.clock) : e'.Since c :=
  ⟨Int.le_trans h.1 hc, fun u hu => ⟨(h.2 u (hl hu)).1, Int.le_trans (h.2 u (hl hu)).2 hc⟩⟩

theorem push (h : e.Since c) (m : Message) : (e.push m).Since c := by
  obtain ⟨b, p, hd⟩ := e.push_driver m
  refine h.mono ?_ (e.push_clock m)
  rw [hd]
  exact List.Subset.refl _

theorem pushAll (h : e.Since c) (ms : List Message) : (e.pushAll ms).Since c := by
  induction ms generalizing e with
  | nil => exact h
  | cons m ms ih => exact ih (h.push m)

theorem submit (h : e.Since c) (why : Cause) (m : Message) : (e.submit why m).Since c :=
  push (e := e.record (.accepted why m)) h m

theorem work (h : e.Since c) (hw : Work e e') : e'.Since c := by
  cases hw with
  | surround _ _ hc => exact h.mono (List.Subset.refl _) (Int.le_of_eq hc.symm)
  | submit why => exact h.submit why _
  | @again us vs u _ hl _ =>
    have hnow := e.submit_clock .resend u.message
    refine ⟨Int.le_trans h.1 hnow, fun v hv => ?_⟩
    rcases List.mem_cons.mp (List.perm_middle.mem_iff.mp hv) with rfl | hv
    · exact ⟨Int.le_trans h.1 hnow, Int.le_refl _⟩
    · have hmem : v ∈ e.driver.inflight := by
        rw [hl]
        exact List.perm_middle.mem_iff.mpr (List.mem_cons_of_mem u hv)
      exact ⟨(h.2 v hmem).1, Int.le_trans (h.2 v hmem).2 hnow⟩
  | _ => exact h

theorem issue (h : e.Since c) (status : Bytes) : (e.issue (.updateStatus status)).Since c := by
  refine submit (e := e.enroll status) ⟨h.1, fun u hu => ?_⟩ _ _
  rcases Ledger.mem_put hu with rfl | hu
  · exact ⟨h.1, Int.le_refl _⟩
  · exact h.2 u hu

theorem enter (h : e.Since c) : e.enter.2.Since c := by
  rcases e.enter_cases with ⟨-, he⟩ | ⟨-, f, -, he⟩ | ⟨-, replyTo, -, he⟩ <;> rw [he]
  · exact h
  · exact h
  · have h1 : Since c { e with driver.connected := true } := h
    have h2 : Since c { ({ e with driver.connected := true } : Endpoint).push
      (e.driver.registration replyTo) with driver.backlog := [] } := h1.push _
    exact h2.pushAll _

theorem settle (h : e.Since c) (uuid : Bytes) : (e.settle uuid).Since c := by
  unfold Endpoint.settle
  cases hr : e.driver.inflight.remove? uuid with
  | none => exact h
  | some ledger =>
    refine h.mono ?_ (Int.le_refl _)
    show ledger ⊆ e.driver.inflight
    rw [Ledger.eq_filter_of_remove? hr]
    exact List.filter_sublist.subset

end Since

theorem Passage.since {c : Int} {told : List Event} (h : Passage e told e') (he : e.Since c) :
    e'.Since c := by
  induction h with
  | work _ hw ih => exact ih.work hw
  | @settle _ x _ f u _ _ ih =>
    have h1 : (x.record (.taken (.statusUpdateAcknowledgement f u))).Since c := ih
    exact h1.settle u
  | issue _ status _ ih => exact ih.issue status
  | enter _ _ ih => exact ih.enter
  | rest => exact he
  | tale _ _ ih => exact ih
  | tell _ _ _ _ ih => exact ih
  | finish _ _ _ ih => exact ih

end Endpoint

namespace System

variable {s : System}

theorem step_since {c : Int} (h : s.Sound) {m : Move} (hf : m.isForward = true)
    (hs : s.endpoint.Since c) : (s.step m).endpoint.Since c := by
  by_cases ht : ∃ nanos, m = .elapse nanos
  · obtain ⟨nanos, rfl⟩ := ht
    have hn : 0 ≤ nanos := of_decide_eq_true hf
    refine hs.mono (List.Subset.refl _) ?_
    show s.endpoint.surroundings.clock ≤ s.endpoint.surroundings.clock + nanos
    omega
  · exact (step_passage h fun nanos hm => ht ⟨nanos, hm⟩).since hs

theorem run_since {c : Int} (h : s.Sound) (hs : s.endpoint.Since c) (moves : List Move)
    (hf : ∀ m ∈ moves, m.isForward = true) : (s.run moves).endpoint.Since c := by
  induction moves generalizing s with
  | nil => exact hs
  | cons m moves ih =>
    exact ih (step_sound h m) (step_since h (hf m List.mem_cons_self) hs)
      fun x hx => hf x (List.mem_cons_of_mem m hx)

/-- The clock shows readings as a run begins, and as a tick ends that comes next after it. It is not
read before or after that, and shows no less from one reading to the next. -/
def Clocked (s : System) (moves : List Move) : Prop :=
  IsReading s.endpoint.surroundings.clock ∧
    IsReading (s.run moves).endpoint.tick.2.surroundings.clock

/-- The clock shows readings, and stamps are such and not later than the time, throughout every run
in which the clock does not go back. -/
theorem run_stamped (h : s.Sound) (hs : s.endpoint.Stamped) {moves : List Move}
    (hf : ∀ m ∈ moves, m.isForward = true) (hc : s.Clocked moves) :
    IsReading (s.run moves).endpoint.surroundings.clock ∧ (s.run moves).endpoint.Stamped := by
  obtain ⟨⟨hfirst, -⟩, -, hlast⟩ := hc
  have hsince : (s.run moves).endpoint.Since (-0x8000000000000000) :=
    run_since h ⟨hfirst, fun u hu => ⟨(hs u hu).1.1, (hs u hu).2⟩⟩ moves hf
  have hnow : (s.run moves).endpoint.surroundings.clock < 0x8000000000000000 :=
    Int.lt_of_le_of_lt (s.run moves).endpoint.tick_clock hlast
  refine ⟨⟨hsince.1, hnow⟩, fun u hu => ?_⟩
  obtain ⟨hl, hr⟩ := hsince.2 u hu
  exact ⟨⟨hl, Int.lt_of_le_of_lt hr hnow⟩, hr⟩

/-! ### Resending -/

/-- What the executor of a system would send again now. -/
structure Resends (s : System) : Prop where
  /-- In a tick it is what is due, if the resend period can be had in nanoseconds. If it cannot, the
  tick fails and does nothing, and nothing is as old as that. -/
  tick :
    (¬ s.driver.settings.resendPeriod.Overflows 1000000000 ∧
      ∃ age, s.endpoint.resendAge = .ok age ∧ s.endpoint.Ticks age) ∨
    (s.driver.settings.resendPeriod.Overflows 1000000000 ∧
      s.endpoint.tick = (.error .infiniteSpan, s.endpoint) ∧
      ∀ u ∈ s.driver.inflight, s.driver.settings.resendPeriod.Exceeds 1000000000
        (s.endpoint.surroundings.clock - u.stamp))
  /-- When the agent came back it is everything, before the callback begins. -/
  reregistered : s.driver.state.isActive = true → ∀ info rest, ∃ e : Endpoint,
    Endpoint.HandsOver (fun _ => true) s.endpoint e ∧
      s.driver.inflight.Later e.driver.inflight ∧
      (s.handle (.executorReregistered info :: rest)).endpoint =
        if s.driver.table.binds .reregistered = true then
          e.record (.began .reregistered s.driver.state s.driver.payload [.envelope info])
        else e

/-- Once it is known that the agent came back, everything is handed over. -/
theorem facing_handsOver (hr : s.driver.role = .executor) (info : Bytes) :
    Endpoint.HandsOver (fun _ => true) s.endpoint
      (s.facing (.executorReregistered info)).endpoint := by
  have hface : (s.facing (.executorReregistered info)).endpoint =
      ((s.endpoint.record (.taken (.executorReregistered info))).resend
        (fun _ => true) false).2 := by
    unfold facing Endpoint.prepare
    dsimp only
    rw [show (s.endpoint.record (.taken (.executorReregistered info))).driver.role = .executor
      from hr]
  rw [hface]
  obtain ⟨-, hf, hacc⟩ := (s.endpoint.record (.taken (.executorReregistered info))).resend_handsOver
    (fun _ => true) false Bool.noConfusion
  exact ⟨hf, hacc.trans (by simp [Endpoint.record, Event.accepted?])⟩

/-- After that the callback begins, if there is one. -/
theorem handle_reregistered (hr : s.driver.role = .executor)
    (ha : s.driver.state.isActive = true) (info : Bytes) (rest : List Message) :
    (s.handle (.executorReregistered info :: rest)).endpoint =
      if s.driver.table.binds .reregistered = true then
        (s.facing (.executorReregistered info)).endpoint.record
          (.began .reregistered s.driver.state s.driver.payload [.envelope info])
      else (s.facing (.executorReregistered info)).endpoint := by
  obtain ⟨⟨-, ht, hp⟩, hst⟩ := facing_driver (.executorReregistered info) ha
  have hre : s.driver.reaction (.executorReregistered info) =
      .invoke .reregistered [.envelope info] := by
    unfold Driver.reaction
    rw [hr]
    rfl
  unfold handle
  dsimp only
  rw [if_pos ha, take_eq _ rest ha, hre]
  dsimp only
  unfold invoke
  rw [ht, hp, hst]
  split
  · rfl
  · show (s.facing (.executorReregistered info)).endpoint.conclude _ = _
    unfold Endpoint.conclude
    split
    · rename_i heq
      cases heq
    · rename_i heq
      cases heq
    · rfl

theorem resends (hr : s.driver.role = .executor)
    (hp : s.driver.settings.resendPeriod.isPositive = true) (hs : s.endpoint.Stamped)
    (hfirst : IsReading s.endpoint.surroundings.clock)
    (hlast : IsReading s.endpoint.tick.2.surroundings.clock) : s.Resends := by
  refine ⟨?_, fun hactive info rest => ?_⟩
  · have hnan : s.driver.settings.resendPeriod ≠ .nan := fun hn => by
      rw [hn] at hp
      cases hp
    rcases Endpoint.resendAge_cases (e := s.endpoint) hnan with ⟨ho, ha⟩ | ⟨ho, age, ha⟩
    · refine Or.inr ⟨ho, ?_, fun u hu => ho.exceeds hp hfirst (hs u hu).1⟩
      unfold Endpoint.tick
      rw [show s.endpoint.driver.role = .executor from hr, ha]
    · exact Or.inl ⟨ho, age, ha, Endpoint.ticks hr ha (Endpoint.age_nonneg hp ha) hlast
        fun u hu => (hs u hu).1⟩
  · have hh := facing_handsOver hr info
    exact ⟨_, hh, hh.later fun u hu _ => (hs u hu).2, handle_reregistered hr hactive info rest⟩

/-- Throughout every run of an executor in which the clock shows readings and does not go back,
whatever its ledger and its transport. -/
theorem run_resends (h : s.Sound) (hr : s.driver.role = .executor)
    (hp : s.driver.settings.resendPeriod.isPositive = true) (hs : s.endpoint.Stamped)
    (moves : List Move) (hf : ∀ m ∈ moves, m.isForward = true) (hc : s.Clocked moves) :
    (s.run moves).Resends := by
  have hgiven := run_given h moves
  have hsettings : (s.run moves).driver.settings = s.driver.settings :=
    congrArg Given.settings hgiven
  obtain ⟨hnow, hstamped⟩ := run_stamped h hs hf hc
  refine resends ((run_role h moves).trans hr) ?_ hstamped hnow hc.2
  rw [hsettings]
  exact hp

/-! ### Runs of an executor -/

/-- The executor that sends updates again after ten seconds, over a transport whose fourth send
fails. -/
def stumbler : System :=
  { latecomer with
    gateOpen := true
    endpoint.surroundings.transport :=
      .scripted ⟨.ok "a", none, [none, none, none, some (.raised "OSError" none)], none⟩ }

/-- The executor joins the cluster and reports twice, and more than ten seconds pass. -/
def overdueMoves : List Move :=
  [.call .start, .go (.caller 0), .go .dispatch, .go .dispatch, .go .dispatch,
    .call (.order (.updateStatus (.plain (.octets [7])))), .go (.caller 1),
    .call (.order (.updateStatus (.plain (.octets [8])))), .go (.caller 2),
    .elapse 10000000001]

/-- The first update is sent again in vain, the second one is withheld, and both are stamped. -/
theorem stumbler_resends : stumbler.Sound ∧ stumbler.driver.role = .executor ∧
    stumbler.driver.settings.resendPeriod.isPositive = true ∧ stumbler.endpoint.Stamped ∧
    (∀ m ∈ overdueMoves, m.isForward = true) ∧ stumbler.Clocked overdueMoves ∧
    (stumbler.run overdueMoves).driver.inflight =
      [⟨Bytes.bigEndian 16 1, [7], 0⟩, ⟨Bytes.bigEndian 16 2, [8], 0⟩] ∧
    (stumbler.run overdueMoves).endpoint.tick.2.driver.inflight =
      [⟨Bytes.bigEndian 16 1, [7], 10000000001⟩, ⟨Bytes.bigEndian 16 2, [8], 10000000001⟩] ∧
    (stumbler.run overdueMoves).endpoint.tick.2.driver.pendingError = some (.raised "OSError" none) ∧
    (stumbler.run overdueMoves).Resends := by
  have hbegins : stumbler.Begins := ⟨⟨latecomerApplication, .text "m@h:1", rfl⟩, rfl, rfl, rfl⟩
  have hp : stumbler.driver.settings.resendPeriod.isPositive = true := by decide +kernel
  have hs : stumbler.endpoint.Stamped := fun u hu => by cases hu
  have hf : ∀ m ∈ overdueMoves, m.isForward = true := by decide
  have hc : stumbler.Clocked overdueMoves := by
    unfold Clocked
    decide +kernel
  exact ⟨hbegins.sound, rfl, hp, hs, hf, hc, by decide +kernel, by decide +kernel,
    by decide +kernel, run_resends hbegins.sound rfl hp hs overdueMoves hf hc⟩

end System

end ClusterLink
