/-
# The status updates of an executor

In every run of an executor, the ledger holds exactly the status updates that
were issued and not acknowledged since, in the order of issue
(`System.Bookkeeping`). They are issued by the calls that are answered that
the driver runs; a call that is rejected and an acknowledgement that is
unknown leave the ledger alone. Whatever status update is passed to the
transport was issued before, and none is once it was acknowledged.

All of this takes for granted that no identifier is drawn twice. Moreover, an
acknowledgement counts only for updates issued before: one for an identifier
that is drawn later is unknown when it comes, and the update goes out all the
same (`System.early_acknowledgement`).

Key definition: `System.Bookkeeping`.
Key theorems: `System.run_bookkeeping`, `System.early_acknowledgement`.
-/
import ClusterLink.Proofs.Inflight
import ClusterLink.Proofs.Reports

namespace ClusterLink

open History

namespace System

variable {s : System} {ids : Nat → Bytes} {first : Nat}

theorem Begins.accounted (h : s.Begins) (hr : s.driver.role = .executor) :
    s.endpoint.Accounted s.endpoint.surroundings.ids s.endpoint.surroundings.drawn := by
  obtain ⟨a, remote, ha⟩ := h.made
  have hd := Application.driver_new ha
  have hh := h.history
  refine ⟨hr, rfl, Nat.le_refl _, ?_, ?_, ?_, ?_, ?_⟩
  · rw [hh, Nat.sub_self]; rfl
  · rw [hh, hd.inflight]; rfl
  · rw [hd.backlog]; simp
  · rw [hd.state]; exact fun h => Lifecycle.noConfusion h
  · rw [hh]; trivial

/-- A move draws one identifier for each update that it issues. -/
theorem step_drawn (h : s.Sound) (m : Move) : (s.step m).endpoint.surroundings.drawn =
    s.endpoint.surroundings.drawn + ((s.tells m).filterMap Event.issued?).length := by
  by_cases ht : ∃ nanos, m = .elapse nanos
  · obtain ⟨nanos, rfl⟩ := ht
    rfl
  · exact Endpoint.Passage.drawn (step_passage h fun nanos hm => ht ⟨nanos, hm⟩)

theorem step_accounted (h : s.Sound) {last : Nat} (hd : Endpoint.Distinct ids first last)
    (ha : s.endpoint.Accounted ids first) (m : Move)
    (hl : (s.step m).endpoint.surroundings.drawn ≤ last) :
    (s.step m).endpoint.Accounted ids first := by
  by_cases ht : ∃ nanos, m = .elapse nanos
  · obtain ⟨nanos, rfl⟩ := ht
    exact ha.extend [] rfl (by simp) ⟨rfl, rfl⟩ rfl rfl ha.waiting ha.ready
  · exact Endpoint.Passage.accounted hd (step_passage h fun nanos hm => ht ⟨nanos, hm⟩) ha hl

/-- The ledger accords with the history as long as no identifier is drawn twice. -/
theorem run_accounted (h : s.Sound) {last : Nat} (hd : Endpoint.Distinct ids first last)
    (ha : s.endpoint.Accounted ids first) (moves : List Move)
    (hl : (s.run moves).endpoint.surroundings.drawn ≤ last) :
    (s.run moves).endpoint.Accounted ids first := by
  refine run_invariant (P := fun t => t.endpoint.surroundings.drawn ≤ last →
    t.endpoint.Accounted ids first) (fun t m ht ih hl => ?_) h (fun _ => ha) moves hl
  have hdrawn := step_drawn ht m
  exact step_accounted ht hd (ih (by omega)) m hl

theorem run_reporting (h : s.Begins) (moves : List Move) : (s.run moves).Reporting :=
  run_invariant (P := fun t => t.Reporting) (fun _ m ht hr => step_reporting ht hr m) h.sound
    h.reporting moves

/-- A call that is rejected tells nothing. -/
theorem tells_of_rejected {m : Move} {c : Call} {r : Except Failure Answer}
    (hans : s.Answers m c r) (hi : s.issuesWith m = []) : s.tells m = [] := by
  have hissues : s.endpoint.issues (s.report? m) = [] := by
    unfold Endpoint.issues
    cases hr : s.report? m with
    | none => rfl
    | some status =>
      have ha : ¬ s.driver.state.isActive = true := fun ha =>
        issuesWith_ne_nil.mpr ⟨⟨status, hr⟩, ha⟩ hi
      exact if_neg ha
  have hdel : s.deliveries m = [] := by
    by_cases hm : m = .go .dispatch
    · subst hm
      obtain ⟨frame, _, _, hp, -⟩ := hans
      exact deliveries_calling hp _
    · exact s.deliveries_of_ne hm
  rw [tells, hdel, hissues, List.append_nil]

/-- A move that tells nothing leaves the ledger alone. -/
theorem step_inflight (h : s.Sound) (ha : s.endpoint.Accounted ids first)
    (hd : Endpoint.Distinct ids first s.endpoint.surroundings.drawn) {m : Move}
    (ht : s.tells m = []) :
    (s.step m).driver.inflight.map Update.entry = s.driver.inflight.map Update.entry := by
  have hdrawn := step_drawn h m
  have htid := step_tidings h m
  rw [ht] at hdrawn htid
  have ha' := step_accounted h hd ha m (Nat.le_of_eq hdrawn)
  rw [ha'.ledger, ha.ledger]
  exact outstanding_congr (htid.trans (List.append_nil _))

/-- The status updates of an executor, and its ledger of them. -/
structure Bookkeeping (s : System) : Prop where
  /-- In flight are the updates that were issued and not acknowledged since, -/
  exact : ∀ x, x ∈ s.driver.inflight.map Update.entry ↔ Stands x s.endpoint.history
  /-- in the order in which they were issued, -/
  order : (s.driver.inflight.map Update.entry).Sublist (issued s.endpoint.history)
  /-- and each of them once. -/
  once : (s.driver.inflight.map Update.uuid).Nodup
  issues : ∀ m, issued (s.step m).endpoint.history = issued s.endpoint.history ++ s.issuesWith m
  /-- A call to report an update is answered that the driver runs exactly if the update is issued,
  and updates are issued by no other calls. -/
  answers : ∀ m a r, s.Answers m (.order (.updateStatus a)) r →
    (r = .ok (.status .running) ↔ s.issuesWith m ≠ [])
  issuer : ∀ m, s.issuesWith m ≠ [] →
    ∃ a, s.Answers m (.order (.updateStatus a)) (.ok (.status .running))
  /-- A call that is rejected leaves the ledger alone. -/
  rejected : ∀ m a r, s.Answers m (.order (.updateStatus a)) r → r ≠ .ok (.status .running) →
    (s.step m).driver.inflight.map Update.entry = s.driver.inflight.map Update.entry
  /-- The acknowledgement of an update that is not in flight is noted, and that is all. -/
  unknown : ∀ f uuid rest, s.phase = .handling (.statusUpdateAcknowledgement f uuid :: rest) →
    s.driver.state.isActive = true → uuid ∉ s.driver.inflight.map Update.uuid →
    s.step (.go .dispatch) =
      { (s.record (.taken (.statusUpdateAcknowledgement f uuid))).note
          (.unknownAcknowledgement uuid) with phase := phaseFor rest }
  /-- An update that is passed to the transport was issued before, and not acknowledged since. -/
  sends : ∀ v t status uuid ok, v :: t <:+ s.endpoint.history →
    v.passed? = some (.statusUpdate status uuid, ok) → Stands (uuid, status) t
  /-- Once an update was acknowledged, none is passed on under its identifier. -/
  silenced : ∀ v t uuid, v :: t <:+ s.endpoint.history → v.acknowledged? = some uuid →
    uuid ∈ (issued t).map Prod.fst → ∀ w u status ok, w :: u <:+ s.endpoint.history →
      v :: t <:+ u → w.passed? ≠ some (.statusUpdate status uuid, ok)

theorem run_bookkeeping (h : s.Begins) (hr : s.driver.role = .executor) (moves : List Move)
    (hd : Endpoint.Distinct s.endpoint.surroundings.ids s.endpoint.surroundings.drawn
      (s.run moves).endpoint.surroundings.drawn) : (s.run moves).Bookkeeping := by
  have hsound := run_sound h.sound moves
  have hrep := run_reporting h moves
  have ha := run_accounted h.sound hd (h.accounted hr) moves (Nat.le_refl _)
  have hnodup := ha.nodup hd
  have hsub : ((s.run moves).driver.inflight.map Update.entry).Sublist
      (issued (s.run moves).endpoint.history) := by
    rw [ha.ledger]
    exact outstanding_sublist _
  have hsends := always_iff.mp ha.sends
  refine ⟨fun x => ?_, hsub, ha.ledger_nodup hd, step_issued hsound,
    fun m a r hans => answers_iff hsound hrep hans, fun m hi => exists_answers hsound hrep hi,
    fun m a r hans hne => ?_, fun f uuid rest hp hact hu => ?_,
    fun v t status uuid ok hv hp => ?_, fun v t uuid hv hack hi w u status ok hw hvw hp => ?_⟩
  · rw [ha.ledger]
    exact mem_outstanding
  · have hi : (s.run moves).issuesWith m = [] :=
      not_not.mp fun hi => hne ((answers_iff hsound hrep hans).mpr hi)
    exact step_inflight hsound ha hd (tells_of_rejected hans hi)
  · have hnone : (s.run moves).driver.inflight.remove? uuid = none := by
      rw [Ledger.remove?_eq_none_iff]
      simpa [Ledger.holds] using hu
    rw [step_handling hp, handle, if_pos hact, take_acknowledgement f uuid rest ha.role hact]
    simp only [Endpoint.settle, Endpoint.record, hnone]
    rfl
  · exact mem_outstanding.mp (hsends v t hv status uuid ok hp)
  · have hstands := mem_outstanding.mp (hsends w u hw status uuid ok hp)
    have hu : u <:+ (s.run moves).endpoint.history := (List.suffix_cons w u).trans hw
    have hd' := hnodup.sublist ((issued_initial hu).map Prod.fst).sublist
    exact not_stands_of_acknowledged hd' hack hvw hi status hstands

/-! ### Runs of an executor -/

/-- The application of an executor without callbacks. -/
def reporterApplication : Application where
  table := .table ⟨.executor, []⟩
  payload := .null
  identity := .executor (.text "m@h:1") (.text "f") (.text "e")
  settings := some default
  environment := []
  hostName := "h"
  handle := "k"

/-- Its system to begin with, over a transport whose sends succeed. -/
def reporter : System :=
  fresh
    { driver := reporterApplication.assemble ⟨.executor, []⟩ default ⟨['h'], 1⟩ []
        (Bytes.ofText "f") (Bytes.ofText "e")
      surroundings :=
        { transport := .scripted ⟨.ok "a", none, [], none⟩
          making := []
          clock := 0
          lags := []
          ids := Bytes.bigEndian 16
          drawn := 0 }
      history := [] }
    .direct [] true

theorem reporter_begins : reporter.Begins :=
  ⟨⟨reporterApplication, .text "m@h:1", rfl⟩, rfl, rfl, rfl⟩

/-- The first two identifiers differ. -/
theorem reporter_distinct {last : Nat} (hl : last ≤ 2) :
    Endpoint.Distinct reporter.endpoint.surroundings.ids reporter.endpoint.surroundings.drawn
      last := by
  intro i j hi hij hj
  have hi : 0 < i := hi
  obtain ⟨rfl, rfl⟩ : i = 1 ∧ j = 2 := by omega
  decide

/-- The executor starts and joins the cluster. -/
def joiningMoves : List Move :=
  [.call .start, .go (.caller 0), .go .dispatch, .go .dispatch, .go .dispatch, .go .dispatch,
    .go .dispatch]

/-- It reports twice, and the first update is acknowledged. -/
def reportingMoves : List Move :=
  joiningMoves ++
    [.call (.order (.updateStatus (.plain (.octets [7])))), .go (.caller 1),
      .call (.order (.updateStatus (.plain (.octets [8])))), .go (.caller 2),
      .arrive (.messages [.statusUpdateAcknowledgement [102] (Bytes.bigEndian 16 1)]),
      .go .dispatch, .go .dispatch]

theorem reporter_bookkeeping : reporter.Begins ∧ reporter.driver.role = .executor ∧
    Endpoint.Distinct reporter.endpoint.surroundings.ids reporter.endpoint.surroundings.drawn
      (reporter.run reportingMoves).endpoint.surroundings.drawn ∧
    (reporter.run reportingMoves).driver.inflight.map Update.entry =
      [(Bytes.bigEndian 16 2, [8])] ∧
    (reporter.run reportingMoves).Bookkeeping :=
  ⟨reporter_begins, rfl, reporter_distinct (by decide), rfl,
    run_bookkeeping reporter_begins rfl reportingMoves (reporter_distinct (by decide))⟩

/-- An acknowledgement comes for the identifier that is drawn next. -/
def earlyMoves : List Move :=
  joiningMoves ++
    [.arrive (.messages [.statusUpdateAcknowledgement [102] (Bytes.bigEndian 16 1)]),
      .go .dispatch, .go .dispatch,
      .call (.order (.updateStatus (.plain (.octets [7])))), .go (.caller 1)]

/-- The update goes out although its identifier was acknowledged, before it was drawn. -/
theorem early_acknowledgement : reporter.Begins ∧ reporter.driver.role = .executor ∧
    Endpoint.Distinct reporter.endpoint.surroundings.ids reporter.endpoint.surroundings.drawn
      (reporter.run earlyMoves).endpoint.surroundings.drawn ∧
    ∃ v t w, v :: t <:+ w ∧ v.acknowledged? = some (Bytes.bigEndian 16 1) ∧
      .sent (.statusUpdate [7] (Bytes.bigEndian 16 1)) 0 0 :: w <:+
        (reporter.run earlyMoves).endpoint.history := by
  refine ⟨reporter_begins, rfl, reporter_distinct (by decide), ?_⟩
  exact ⟨.taken (.statusUpdateAcknowledgement [102] (Bytes.bigEndian 16 1)), _, _,
    ⟨[_, _, _], rfl⟩, rfl, ⟨[_], rfl⟩⟩

end System

end ClusterLink
