/-
# Malformed frames

What becomes of the frames that arrive at a driver over sockets. The
dispatch thread receives them in batches (`System.batches`), and a batch is
read as a whole or not at all: if one of its frames cannot be read, the
messages in front of that one are lost, and which ones these are depends on
how the frames fell into batches (`System.batch_loses`).

Everything else is in order. The messages of all batches before have been
taken up when such a frame comes, the driver is aborted, and its error
callback, which is told the failure, comes after the callbacks for those
messages (`System.Reading`).

The sockets are ready for the next batch whenever the thread receives
(`System.Listens`): the first half of connecting makes them so, a batch that
was read leaves them so, and after one that was not the thread never
receives again (`System.Deaf`).

Key definitions: `System.Listens`, `System.batches`, `System.Reading`.
Key theorems: `System.step_listens`, `System.run_arrived`,
`System.run_reading`.
-/
import ClusterLink.Proofs.Discipline
import ClusterLink.Proofs.Inlet
import ClusterLink.Proofs.Unreadable

namespace ClusterLink

open History (arrived handled begun)

/-- Whether the dispatch thread is between connecting its transport and leaving the dispatch
loop. -/
def Phase.isLooping : Phase → Bool
  | linking | entering | checking | deciding | receiving | handling _ | ticking => true
  | calling frame => !frame.after.isAlarm
  | _ => false

theorem After.isAlarm_of_isLooping {after : After} (h : after.phase.isLooping = true) :
    after.isAlarm = false := by
  cases after with
  | message m rest => rfl
  | _ => cases h

theorem Phase.isLooping_of_after {p : Phase} {after : After} (h : p.after? = some after)
    (ha : after.isAlarm = false) : p.isLooping = true := by
  cases p with
  | handling ms => rfl
  | calling frame =>
    obtain rfl := Option.some.inj h
    simp [isLooping, ha]
  | reporting f | escaped f =>
    obtain rfl := Option.some.inj h
    cases ha
  | _ => cases h

namespace System

variable {s s' : System}

/-- The dispatch thread gets into the loop by connecting its transport only. -/
theorem Next.isLooping (h : s.Next s') (hl : s'.phase.isLooping = true) :
    s.phase.isLooping = true ∨ s.phase = .begun := by
  cases h with
  | stay hp => exact Or.inl (hp ▸ hl)
  | lead hp =>
    generalize s.phase = p, s'.phase = p' at *
    cases hp with
    | connect => exact Or.inr rfl
    | strand | leave | signal => cases hl
    | _ => exact Or.inl rfl
  | quit _ hp' => rw [hp'] at hl; cases hl
  | fault _ hp' => rw [hp'] at hl; cases hl
  | @begin frame hc ha hp' =>
    rw [hp'] at hl
    exact Or.inl (Phase.isLooping_of_after ha (by simpa [Phase.isLooping] using hl))
  | act hp hp' ha =>
    rw [hp', Phase.isLooping, ha] at hl
    exact Or.inl (by rw [hp]; exact hl)
  | resume ha hp' =>
    rw [hp'] at hl
    exact Or.inl (Phase.isLooping_of_after ha (After.isAlarm_of_isLooping hl))
  | escape _ hp' =>
    rw [hp'] at hl
    split at hl <;> cases hl
  | misuse _ hp' => rw [hp'] at hl; cases hl

/-- The dispatch thread does not get back to where it begins. -/
theorem Next.beginning (h : s.Next s') (hb : s'.phase = .idle ∨ s'.phase = .begun) :
    s'.phase = s.phase := by
  cases h with
  | stay hp => exact hp
  | lead hp =>
    generalize s.phase = p, s'.phase = p' at *
    cases hp with
    | gather ms => cases ms <;> rcases hb with hb | hb <;> cases hb
    | drop m rest => cases rest <;> rcases hb with hb | hb <;> cases hb
    | _ => rcases hb with hb | hb <;> cases hb
  | @resume after ha hp' =>
    rw [hp'] at hb
    cases after with
    | message m rest => cases rest <;> rcases hb with hb | hb <;> cases hb
    | _ => rcases hb with hb | hb <;> cases hb
  | escape _ hp' =>
    rw [hp'] at hb
    split at hb <;> rcases hb with hb | hb <;> cases hb
  | quit _ hp' | fault _ hp' | begin _ _ hp' | act _ hp' | misuse _ hp' =>
    rw [hp'] at hb
    rcases hb with hb | hb <;> cases hb

/-- The transport of the system. -/
def transport (s : System) : Transport := s.endpoint.surroundings.transport

/-- The transport works over sockets, of which every frame that arrived was fetched as long as the
dispatch thread is in its loop. -/
structure Listens (s : System) : Prop where
  clear : s.phase = .idle ∨ s.phase = .begun → s.transport.Clear
  ready : s.phase.isLooping = true → s.transport.Ready

/-- The arrival that the dispatch thread receives with the move. -/
def fetches (s : System) : Move → Option Arrival
  | .go .dispatch =>
    match s.phase, s.refusal, s.inbox with
    | .receiving, none, a :: _ => some a
    | _, _, _ => none
  | _ => none

/-- The arrivals that the dispatch thread receives in a run, in order. -/
def batches (s : System) : List Move → List Arrival
  | [] => []
  | m :: moves => (s.fetches m).toList ++ (s.step m).batches moves

/-- What receiving depends on decides what the transport is like. -/
theorem Listens.of_inlet (h : s.Listens) (hi : s'.endpoint.inlet = s.endpoint.inlet)
    (hb : s'.phase = .idle ∨ s'.phase = .begun → s.phase = .idle ∨ s.phase = .begun)
    (hl : s'.phase.isLooping = true → s.phase.isLooping = true) : s'.Listens :=
  ⟨fun hp => (h.clear (hb hp)).of_inlet hi, fun hp => (h.ready (hl hp)).of_inlet hi⟩

theorem others_listens (h : s.Listens) {m : Move} (hm : m ≠ .go .dispatch) :
    (s.step m).Listens := by
  refine h.of_inlet (congrArg Prod.fst (s.others_inlet hm)) (fun hb => ?_) fun hl => ?_
  · rcases s.others_phase hm with hp | ⟨hi, -⟩ | ⟨frame, -, hp⟩
    · rwa [hp] at hb
    · exact Or.inl hi
    · rw [hp] at hb
      rcases hb with hb | hb <;> cases hb
  · rcases s.others_phase hm with hp | ⟨-, hp⟩ | ⟨frame, hc, hp⟩
    · rwa [hp] at hl
    · rw [hp] at hl
      cases hl
    · rw [hp] at hl
      rw [hc]
      exact hl

/-- Once a failure left the loop, the thread does not receive any more. -/
theorem escape_listens (s : System) (f : Failure) : (s.escape f).Listens := by
  refine ⟨fun hb => ?_, fun hl => ?_⟩
  · rw [escape_phase] at hb
    split at hb <;> rcases hb with hb | hb <;> cases hb
  · rw [escape_phase] at hl
    split at hl <;> cases hl

/-- The dispatch thread begins to connect. -/
theorem begun_listens (h : s.Listens) (hp : s.phase = .begun) : s.dispatch.Listens := by
  have hclear := h.clear (Or.inr hp)
  simp only [dispatch, hp]
  split
  · unfold proceed
    dsimp only
    split
    · rename_i hok
      refine ⟨fun hb => ?_, fun _ => hclear.connectStart hok⟩
      rcases hb with hb | hb <;> cases hb
    · exact escape_listens _ _
  · refine ⟨fun hb => ?_, fun hl => ?_⟩
    · rcases hb with hb | hb <;> cases hb
    · cases hl

/-- What the dispatch thread receives is the arrival as a whole, or its failure. -/
theorem receive_listens (h : s.Listens) (hp : s.phase = .receiving) : s.dispatch.Listens := by
  have hready := h.ready (by rw [hp]; rfl)
  simp only [dispatch, hp]
  split
  · exact escape_listens _ _
  · exact h
  · rename_i a inbox hr _
    obtain ⟨hres, hstay⟩ := hready.receive hr a
    unfold receive
    dsimp only
    split
    · rename_i ms hms
      refine ⟨fun hb => ?_, fun _ => hstay ms (hres.symm.trans hms)⟩
      cases ms <;> rcases hb with hb | hb <;> cases hb
    · exact escape_listens _ _

theorem dispatch_listens (h : s.Listens) : s.dispatch.Listens := by
  by_cases hi : s.phase = .idle
  · rw [dispatch_idle hi]
    exact h
  by_cases hb : s.phase = .begun
  · exact begun_listens h hb
  by_cases hr : s.phase = .receiving
  · exact receive_listens h hr
  by_cases hc : ∃ cause, s.phase = .closing cause
  · obtain ⟨cause, hc⟩ := hc
    simp only [dispatch, hc]
    refine ⟨fun hb => ?_, fun hl => ?_⟩
    · rcases hb with hb | hb <;> cases hb
    · cases hl
  · have hin := dispatch_inlet hb hr fun cause hp => hc ⟨cause, hp⟩
    refine h.of_inlet (congrArg Prod.fst hin) (fun hb' => ?_) fun hl => ?_
    · rwa [s.dispatch_next.beginning hb'] at hb'
    · exact (s.dispatch_next.isLooping hl).resolve_right hb

theorem step_listens (h : s.Listens) (m : Move) : (s.step m).Listens := by
  by_cases hm : m = .go .dispatch
  · subst hm
    rcases s.step_dispatch with he | he
    · rw [he]
      exact h
    · rw [he]
      exact dispatch_listens h
  · exact others_listens h hm

/-! ### What arrives -/

/-- The thread fetches in one phase only, and what arrived first. -/
theorem fetches_eq_some {m : Move} {a : Arrival} (hf : s.fetches m = some a) :
    m = .go .dispatch ∧ s.phase = .receiving ∧ s.refusal = none ∧
      ∃ inbox, s.inbox = a :: inbox := by
  unfold fetches at hf
  split at hf
  · split at hf
    · obtain rfl := Option.some.inj hf
      exact ⟨rfl, ‹_›, ‹_›, _, ‹_›⟩
    · cases hf
  · cases hf

theorem fetches_of_ne {m : Move} (h : m = .go .dispatch → s.phase ≠ .receiving) :
    s.fetches m = none := by
  cases hf : s.fetches m with
  | none => rfl
  | some a =>
    obtain ⟨hm, hp, -⟩ := fetches_eq_some hf
    exact absurd hp (h hm)

/-- The thread tells all messages that it fetches, or the failure. -/
theorem deliveries_of_fetches (h : s.Listens) {m : Move} {a : Arrival}
    (hf : s.fetches m = some a) : s.deliveries m = [.received a.read] := by
  obtain ⟨rfl, hp, hr, inbox, hi⟩ := fetches_eq_some hf
  simp only [deliveries, threadTells, hp, hr, hi]
  exact congrArg ([Event.received ·]) ((h.ready (by rw [hp]; rfl)).receive hr a).1

theorem deliveries_of_none {m : Move} (hf : s.fetches m = none) :
    ((s.deliveries m).filterMap Event.received?).flatten = [] := by
  rcases s.deliveries_cases m with ht | ⟨x, rest, -, -, -, ht⟩ | ⟨f, -, -, -, ht⟩ |
    ⟨v, rfl, hv, ht⟩
  · rw [ht]
    rfl
  · rw [ht, List.filterMap_cons_none rfl, (calls_told s.driver x).1]
    rfl
  · rw [ht, (alarms_told s.driver f.shown).1]
    rfl
  · rw [ht]
    cases v with
    | received r =>
      -- only a refusal is received without anything being fetched
      have hp := hv.receiving
      simp only [deliveries, threadTells, hp] at ht
      simp only [fetches, hp] at hf
      cases hr : s.refusal with
      | some f =>
        rw [hr] at ht
        obtain rfl := Event.received.inj (List.cons.inj ht).1
        rfl
      | none =>
        cases hi : s.inbox with
        | nil => rw [hr, hi] at ht; cases ht
        | cons a inbox => rw [hr, hi] at hf; cases hf
    | _ => rfl

/-- The messages of the arrival that the thread fetches arrive. -/
theorem deliveries_fetches (h : s.Listens) (m : Move) :
    ((s.deliveries m).filterMap Event.received?).flatten =
      (s.fetches m).toList.flatMap Arrival.contents := by
  cases hf : s.fetches m with
  | none => exact deliveries_of_none hf
  | some a =>
    rw [deliveries_of_fetches h hf]
    cases hr : a.read <;> simp [Event.received?, Arrival.contents, hr, Except.toOption]

/-- What has arrived in a run are the messages of the batches. -/
theorem run_arrived (h : s.Sound) (hl : s.Listens) (moves : List Move) :
    arrived (s.run moves).endpoint.history =
      arrived s.endpoint.history ++ (s.batches moves).flatMap Arrival.contents := by
  induction moves generalizing s with
  | nil => exact (List.append_nil _).symm
  | cons m moves ih =>
    have hrest := ih (step_sound h m) (step_listens hl m)
    rw [step_arrived h m, deliveries_fetches hl m] at hrest
    show arrived ((s.step m).run moves).endpoint.history = _
    rw [hrest, batches, List.flatMap_append, List.append_assoc]

/-- What the thread fetches, it receives. -/
theorem step_of_fetches {m : Move} {a : Arrival} (hf : s.fetches m = some a) :
    ∃ inbox, s.inbox = a :: inbox ∧ s.step m = { s with inbox }.receive a := by
  obtain ⟨rfl, hp, hr, inbox, hi⟩ := fetches_eq_some hf
  refine ⟨inbox, hi, ?_⟩
  simp [step, need, dispatchNeed, hp, hr, provides, hi, advance, dispatch]

theorem receive_inbox (s : System) (a : Arrival) : (s.receive a).inbox = s.inbox := by
  unfold receive
  dsimp only
  split
  · rfl
  · exact congrArg Prod.snd (escape_inlet _ _)

/-- What the thread does not fetch stays where it arrived. -/
theorem dispatch_inbox (hf : s.fetches (.go .dispatch) = none) : s.dispatch.inbox = s.inbox := by
  by_cases hb : s.phase = .begun
  · simp only [dispatch, hb]
    split
    · exact congrArg Prod.snd (s.proceed_inlet _ _)
    · rfl
  by_cases hc : ∃ cause, s.phase = .closing cause
  · obtain ⟨cause, hc⟩ := hc
    simp only [dispatch, hc]
  by_cases hp : s.phase = .receiving
  · simp only [fetches, hp] at hf
    simp only [dispatch, hp]
    split
    · exact congrArg Prod.snd (escape_inlet _ _)
    · rfl
    · rename_i hr hi
      rw [hr, hi] at hf
      cases hf
  · exact congrArg Prod.snd (dispatch_inlet hb hp fun cause hc' => hc ⟨cause, hc'⟩)

/-- With every move something may arrive, and something that arrived may be fetched. -/
theorem step_inbox (s : System) (m : Move) :
    s.inbox ++ m.arrival?.toList = (s.fetches m).toList ++ (s.step m).inbox := by
  by_cases hm : m = .go .dispatch
  · subst hm
    rw [show Move.arrival? (.go .dispatch) = none from rfl, Option.toList_none, List.append_nil]
    cases hf : s.fetches (.go .dispatch) with
    | none =>
      rcases s.step_dispatch with he | he
      · rw [he]
        rfl
      · rw [he]
        exact (dispatch_inbox hf).symm
    | some a =>
      obtain ⟨inbox, hi, hs⟩ := step_of_fetches hf
      rw [hs, receive_inbox, hi]
      rfl
  · rw [fetches_of_ne fun hd => absurd hd hm]
    exact (congrArg Prod.snd (s.others_inlet hm)).symm

/-- The batches of a run are what arrives, in order, as far as it is fetched. -/
theorem run_inbox (s : System) (moves : List Move) :
    s.inbox ++ moves.filterMap Move.arrival? = s.batches moves ++ (s.run moves).inbox := by
  induction moves generalizing s with
  | nil => exact List.append_nil _
  | cons m moves ih =>
    have hcons : (m :: moves).filterMap Move.arrival? =
        m.arrival?.toList ++ moves.filterMap Move.arrival? := by
      cases ha : m.arrival? <;> simp [ha]
    rw [hcons, ← List.append_assoc, step_inbox, List.append_assoc, ih (s.step m), batches,
      List.append_assoc]
    rfl

/-! ### Frames that cannot be read -/

/-- An arrival that cannot be read leaves the driver as it is, and its failure leaves the loop. -/
theorem step_unreadable (hl : s.Listens) {m : Move} {a : Arrival} {f : Failure}
    (hf : s.fetches m = some a) (hr : a.read = .error f) :
    (s.step m).driver = s.driver ∧
      (s.step m).phase = if f.isMisuse then .closing (some f) else .escaped f := by
  obtain ⟨-, hp, href, -⟩ := fetches_eq_some hf
  obtain ⟨inbox, hi, hs⟩ := step_of_fetches hf
  have hres : (s.endpoint.useTransport
      (Transport.receive s.driver.settings.receiveTimeout a)).1 = .error f :=
    ((hl.ready (by rw [hp]; rfl)).receive href a).1.trans hr
  rw [hs]
  unfold receive
  dsimp only
  split
  · rename_i hok
    cases hres.symm.trans hok
  · rename_i g hg
    obtain rfl := Except.error.inj (hres.symm.trans hg)
    refine ⟨?_, escape_phase _ f⟩
    unfold escape
    dsimp only
    split <;> rfl

/-- The dispatch thread does not receive any more. -/
structure Deaf (s : System) : Prop where
  looping : s.phase.isLooping = false
  idle : s.phase ≠ .idle
  begun : s.phase ≠ .begun

theorem Deaf.step (h : s.Deaf) (m : Move) : (s.step m).Deaf := by
  by_cases hm : m = .go .dispatch
  · subst hm
    rcases s.step_dispatch with he | he
    · rwa [he]
    · rw [he]
      have hstay := s.dispatch_next.beginning
      refine ⟨Bool.eq_false_iff.mpr fun hl => ?_, fun hi => ?_, fun hb => ?_⟩
      · rcases s.dispatch_next.isLooping hl with hl | hb
        · exact absurd (h.looping.symm.trans hl) Bool.noConfusion
        · exact h.begun hb
      · exact h.idle ((hstay (Or.inl hi)).symm.trans hi)
      · exact h.begun ((hstay (Or.inr hb)).symm.trans hb)
  · rcases s.others_phase hm with hp | ⟨hi, -⟩ | ⟨frame, hc, hp⟩
    · exact ⟨by rw [hp]; exact h.looping, by rw [hp]; exact h.idle, by rw [hp]; exact h.begun⟩
    · exact absurd hi h.idle
    · have hl := h.looping
      rw [hc] at hl
      exact ⟨by rw [hp]; exact hl, by rw [hp]; exact Phase.noConfusion,
        by rw [hp]; exact Phase.noConfusion⟩

theorem Deaf.batches (h : s.Deaf) (moves : List Move) : s.batches moves = [] := by
  induction moves generalizing s with
  | nil => rfl
  | cons m moves ih =>
    have hnone : s.fetches m = none := fetches_of_ne fun _ hp => by
      have hl := h.looping
      rw [hp] at hl
      cases hl
    rw [System.batches, hnone, ih (h.step m)]
    rfl

/-- Only the last batch may be one that cannot be read. -/
theorem run_whole (hl : s.Listens) (moves : List Move) :
    ∀ a ∈ (s.batches moves).dropLast, ∃ ms, a.read = .ok ms := by
  induction moves generalizing s with
  | nil => simp [batches]
  | cons m moves ih =>
    have hrest := ih (step_listens hl m)
    cases hf : s.fetches m with
    | none =>
      rw [batches, hf, Option.toList_none, List.nil_append]
      exact hrest
    | some a =>
      rw [batches, hf, Option.toList_some, List.singleton_append]
      cases hr : a.read with
      | ok ms =>
        intro b hb
        cases hrb : (s.step m).batches moves with
        | nil => rw [hrb] at hb; cases hb
        | cons c cs =>
          rw [hrb, List.dropLast_cons_cons, ← hrb] at hb
          rcases List.mem_cons.mp hb with rfl | hb
          · exact ⟨ms, hr⟩
          · exact hrest b hb
      | error f =>
        have hp := (step_unreadable hl hf hr).2
        have hdeaf : (s.step m).Deaf := by
          refine ⟨?_, ?_, ?_⟩ <;> rw [hp] <;> split <;> first | rfl | exact Phase.noConfusion
        rw [hdeaf.batches moves]
        intro b hb
        cases hb

theorem Delivered.of_active {d : Driver} (hd : s.Delivered d)
    (ha : s.driver.state.isActive = true) :
    arrived s.endpoint.history = handled s.endpoint.history ++ s.phase.pending ∧
      History.callbacks s.endpoint.history =
        (handled s.endpoint.history).flatMap d.calls := by
  obtain ⟨passed, harr, hpass⟩ := hd.arrivals
  obtain ⟨alarm, hcall, halarm⟩ := hd.callbacks
  have hnil : passed = [] := by
    by_contra hne
    exact not_isShut_of_active ha (hpass hne)
  have hquiet : alarm = [] := halarm.resolve_right fun ⟨hs, _⟩ => not_isShut_of_active ha hs
  rw [hnil, List.append_nil] at harr
  rw [hquiet, List.append_nil] at hcall
  exact ⟨harr, hcall⟩

theorem mapM_decode_eq_nil {good : List Bytes} (h : good.mapM Wire.decode = .ok []) :
    good = [] := by
  cases good with
  | nil => rfl
  | cons x good =>
    rw [List.mapM_cons] at h
    cases hx : Wire.decode x with
    | error f => rw [hx] at h; cases h
    | ok m =>
      rw [hx] at h
      cases hg : good.mapM Wire.decode with
      | error f => simp [hg, bind, Except.bind] at h
      | ok ms => simp [hg, bind, Except.bind, pure, Except.pure] at h

/-- A frame that cannot be read takes its batch with it: nothing but what arrived before has been
taken up. -/
theorem step_malformed (h : s.Sound) (hl : s.Listens) {d : Driver} (hd : s.Delivered d)
    {good rest : List Bytes} {bad : Bytes} {ms : List Message} {f : Failure}
    (hg : good.mapM Wire.decode = .ok ms) (hb : Wire.decode bad = .error f)
    (hf : s.fetches (.go .dispatch) = some (.frames (good ++ bad :: rest)))
    (ha : s.driver.state.isActive = true) :
    (s.step (.go .dispatch)).phase = .escaped f ∧
      (s.step (.go .dispatch)).driver = s.driver ∧
      handled (s.step (.go .dispatch)).endpoint.history = arrived s.endpoint.history := by
  have hread : (Arrival.frames (good ++ bad :: rest)).read = .error f :=
    Arrival.read_malformed hg hb
  have hplain := Wire.decode_ordinary bad f hb
  have hpend : s.phase.pending = [] := by
    rw [(fetches_eq_some hf).2.1]
    rfl
  obtain ⟨hdriver, hphase⟩ := step_unreadable hl hf hread
  refine ⟨by simpa [hplain] using hphase, hdriver, ?_⟩
  rw [step_handled h, deliveries_of_fetches hl hf, (hd.of_active ha).1, hpend]
  rfl

/-- A failure that left the loop of an active driver aborts it, and is reported after the callbacks
for all that arrived. -/
theorem step_reported (h : s.Sound) {d : Driver} (hd : s.Delivered d) {f : Failure}
    (hp : s.phase = .escaped f) (ha : s.driver.state.isActive = true) :
    (s.step (.go .dispatch)).driver.state = .aborted ∧
      History.callbacks (s.step (.go .dispatch)).endpoint.history =
        (arrived s.endpoint.history).flatMap d.calls ++ d.alarms f.shown := by
  obtain ⟨hall, hcall⟩ := hd.of_active ha
  have hstep : s.step (.go .dispatch) = s.fail f.shown .escaped := by
    simp [step, need, dispatchNeed, hp, provides, isLocked, advance, dispatch]
  have htold : s.deliveries (.go .dispatch) = s.driver.alarms f.shown := by
    simp only [deliveries, threadTells, hp, ha, if_true]
  refine ⟨by rw [hstep]; exact fail_aborts _ _ ha, ?_⟩
  rw [step_callbacks h, htold, hcall, (alarms_told _ _).2.2, hall, hp,
    (calls_congr hd.same.1 hd.same.2.1 hd.same.2.2).2]
  simp [Phase.pending]

/-- How a driver deals with what arrives over sockets, in a run of a system that begins as this
one. -/
structure Reading (s : System) (moves : List Move) : Prop where
  /-- What arrives is received in batches, in order. -/
  arrivals : s.inbox ++ moves.filterMap Move.arrival? = s.batches moves ++ (s.run moves).inbox
  /-- Every batch could be read as a whole, but perhaps the last one. -/
  whole : ∀ a ∈ (s.batches moves).dropLast, ∃ ms, a.read = .ok ms
  /-- The messages of all batches that could be read are taken up, one after the other; some are
  passed over only once the driver was shut down. -/
  handled : ∃ passed, (s.batches moves).flatMap Arrival.contents =
      handled (s.run moves).endpoint.history ++ passed ++ (s.run moves).phase.pending ∧
    (passed ≠ [] → (s.run moves).driver.state.isShut = true)
  /-- When a frame comes that cannot be read, the messages of all batches before have been taken
  up. Those in front of it in its own batch are lost, and the failure leaves the loop. -/
  malformed : ∀ {good rest : List Bytes} {bad : Bytes} {ms : List Message} {f : Failure},
    good.mapM Wire.decode = .ok ms → Wire.decode bad = .error f →
    (s.run moves).fetches (.go .dispatch) = some (.frames (good ++ bad :: rest)) →
    (s.run moves).driver.state.isActive = true →
    ((s.run moves).step (.go .dispatch)).phase = .escaped f ∧
      ((s.run moves).step (.go .dispatch)).driver = (s.run moves).driver ∧
      History.handled ((s.run moves).step (.go .dispatch)).endpoint.history =
        (s.batches moves).flatMap Arrival.contents ∧
      -- that is all that came before the frame if and only if its batch begins with it
      (History.handled ((s.run moves).step (.go .dispatch)).endpoint.history =
        (s.batches moves).flatMap Arrival.contents ++ ms ↔ good = [])
  /-- A driver that is active then is aborted, and the error callback begins with the failure after
  the callbacks for all messages of the batches that could be read. -/
  reported : ∀ {f : Failure}, (s.run moves).phase = .escaped f →
    (s.run moves).driver.state.isActive = true →
    ((s.run moves).step (.go .dispatch)).driver.state = .aborted ∧
      History.callbacks ((s.run moves).step (.go .dispatch)).endpoint.history =
        ((s.batches moves).flatMap Arrival.contents).flatMap s.driver.calls ++
          s.driver.alarms f.shown

theorem run_reading (h : s.Begins) (ht : s.transport.Clear) (moves : List Move) :
    s.Reading moves := by
  have hlist : s.Listens := ⟨fun _ => ht, fun hl => by rw [h.phase] at hl; cases hl⟩
  have hsound := run_sound h.sound moves
  have hl : (s.run moves).Listens :=
    run_invariant (P := Listens) (fun _ m _ hl => step_listens hl m) h.sound hlist moves
  have hd : (s.run moves).Delivered s.driver :=
    run_invariant (P := Delivered s.driver) (fun _ m hs hd => hd.step hs m) h.sound h.delivered
      moves
  have harr : arrived (s.run moves).endpoint.history =
      (s.batches moves).flatMap Arrival.contents := by
    rw [run_arrived h.sound hlist moves, h.history]
    rfl
  refine ⟨run_inbox s moves, run_whole hlist moves, harr ▸ hd.arrivals, ?_, ?_⟩
  · intro good rest bad ms f hg hb hf ha
    obtain ⟨hphase, hdriver, hhandled⟩ := step_malformed hsound hl hd hg hb hf ha
    rw [harr] at hhandled
    refine ⟨hphase, hdriver, hhandled, ?_⟩
    rw [hhandled, List.self_eq_append_right]
    refine ⟨fun hnil => mapM_decode_eq_nil (hnil ▸ hg), fun hnil => ?_⟩
    rw [hnil] at hg
    exact (Except.ok.inj hg).symm
  · intro f hp ha
    have hrep := step_reported hsound hd hp ha
    rwa [harr] at hrep

/-! ### A run -/

/-- Settings with which receiving waits for a second. -/
def listenerSettings : Settings where
  receiveTimeout := .ofInt 1
  lingerMs := 1000
  sendTimeoutMs := 1000
  resendPeriod := .ofInt 10
  listenHost := "h"

/-- The application of a scheduler that is told that it is registered, and of errors. -/
def listenerApplication : Application :=
  { sampleApplication [.registered, .error] with settings := some listenerSettings }

/-- Its system to begin with, over sockets that never fail. -/
def listener : System :=
  fresh
    { driver := listenerApplication.assemble ⟨.scheduler, [.registered, .error]⟩ listenerSettings
        ⟨['h'], 1⟩ [102] [] []
      surroundings := { (sample [] [] []).endpoint.surroundings with
        transport := .sockets (.fresh (.fresh 1 .never) "tcp://h:1" "h" 1000 1000) }
      history := [] }
    .direct [] true

theorem listener_begins : listener.Begins :=
  ⟨⟨listenerApplication, .text "m@h:1", rfl⟩, rfl, rfl, rfl⟩

theorem listener_clear : listener.transport.Clear :=
  ⟨⟨fun _ _ => rfl, fun _ _ => rfl, rfl⟩, rfl⟩

/-- The way to the first receive. -/
def listeningMoves : List Move :=
  [.call .start, .go (.caller 0), .go .dispatch, .go .dispatch, .go .dispatch, .go .dispatch,
    .go .dispatch]

/-- A frame that can be read. -/
def readableFrame : Bytes := Wire.encode (.frameworkRegistered [1] [2])

/-- A frame of another version. -/
def alienFrame : Bytes := [0, 2]

theorem listener_reading : listener.Begins ∧ listener.transport.Clear ∧
    (listener.run (listeningMoves ++ [.arrive (.frames [readableFrame, alienFrame])])).fetches
      (.go .dispatch) = some (.frames [readableFrame, alienFrame]) ∧
    (listener.run (listeningMoves ++
      [.arrive (.frames [readableFrame, alienFrame])])).driver.state.isActive = true ∧
    listener.Reading (listeningMoves ++ [.arrive (.frames [readableFrame, alienFrame])]) :=
  ⟨listener_begins, listener_clear, by decide +kernel, by decide +kernel,
    run_reading listener_begins listener_clear _⟩

/-- The callbacks before the error depend on how the frames fall into batches: the driver is told
that it is registered if the frame for that comes on its own, and not if it comes along with one
that cannot be read. -/
theorem batch_loses : listener.Begins ∧ listener.transport.Clear ∧
    Wire.decode readableFrame = .ok (.frameworkRegistered [1] [2]) ∧
    Wire.decode alienFrame = .error (.wire (.badVersion 2)) ∧
    begun (listener.run (listeningMoves ++ [.arrive (.frames [readableFrame, alienFrame])] ++
      List.replicate 3 (.go .dispatch))).endpoint.history = [.error] ∧
    begun (listener.run (listeningMoves ++
      [.arrive (.frames [readableFrame]), .arrive (.frames [alienFrame])] ++
      List.replicate 9 (.go .dispatch))).endpoint.history = [.registered, .error] :=
  ⟨listener_begins, listener_clear, by decide +kernel, by decide +kernel, by decide +kernel,
    by decide +kernel⟩

end System

end ClusterLink
