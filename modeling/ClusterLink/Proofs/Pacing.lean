/-
# When status updates are sent again

An executor sends a status update again once it was not acknowledged for the
configured age, which counts from its stamp in the ledger. Over every run in
which the clock does not go back, however long the join and the sends take
and whenever the driver comes to it, an update that was sent twice is sent
again only after the age has passed since the end of the last send, unless
the agent came back in between (`System.Pacing`).

The second send is another matter. The first send leaves the stamp of the
issue, which comes before the update waits for the join and before it is on
its way; so the age counts from the issue, and the second send may follow the
first one at once (`System.early_resend`).

Key definitions: `History.Repeats`, `Move.isForward`, `System.Pacing`.
Key theorems: `System.run_paced`, `System.run_pacing`, `System.early_resend`.
-/
import ClusterLink.Proofs.Bookkeeping
import ClusterLink.Proofs.Gaps
import ClusterLink.Proofs.Malformed

namespace ClusterLink

open History

/-- The message was sent twice, and the agent did not come back in between: the earlier send ended
at `a`, the later one began at `b`, and `t` had happened before both. -/
def History.Repeats (m : Message) (a b : Int) (t h : List Event) : Prop :=
  ∃ new v d mid w c, h = new ++ v :: (mid ++ w :: t) ∧ v.span? = some (m, b, d) ∧
    w.span? = some (m, c, a) ∧ ∀ u ∈ mid, u.recalls = false

/-- The last two sends can be read off the times of all sends, if the agent never came back. -/
theorem History.repeats_of_spans {m : Message} {a b c d : Int} {rest : List (Message × Int × Int)}
    {h : List Event} (hs : h.filterMap Event.span? = (m, b, d) :: (m, c, a) :: rest)
    (hn : ∀ v ∈ h, v.recalls = false) :
    ∃ t, Repeats m a b t h ∧ t.filterMap Event.span? = rest := by
  obtain ⟨new, v, l, rfl, -, hv, hl⟩ := List.filterMap_eq_cons_iff.mp hs
  obtain ⟨mid, w, t, rfl, -, hw, ht⟩ := List.filterMap_eq_cons_iff.mp hl
  refine ⟨t, ⟨new, v, d, mid, w, c, rfl, hv, hw, fun u hu => hn u ?_⟩, ht⟩
  exact List.mem_append_right _ (List.mem_cons_of_mem v (List.mem_append_left _ hu))

/-- Whether the move does not take the clock back. -/
def Move.isForward : Move → Bool
  | .elapse nanos => decide (0 ≤ nanos)
  | _ => true

/-- A status update is repeated only after the age has passed since all marks that it has when it is
sent before, and later. -/
theorem Endpoint.Paced.repeats {e : Endpoint} {mark : List Event → Message → Int → Prop}
    {age : Except Failure Int} (h : e.Paced mark age) {status uuid : Bytes} {a b : Int}
    {t : List Event} (hr : Repeats (.statusUpdate status uuid) a b t e.history) :
    ∃ mid w c, w.span? = some (.statusUpdate status uuid, c, a) ∧
      Aged mark age (.statusUpdate status uuid) b (mid ++ w :: t) := by
  obtain ⟨new, v, d, mid, w, c, hh, hv, hw, hmid⟩ := hr
  have hrecent := recent_of_split (t := t) ⟨c, a, hw⟩ hmid
  exact ⟨mid, w, c, hw, always_iff.mp h.gaps v _ ⟨new, hh.symm⟩ _ b d rfl hv hrecent⟩

namespace System

variable {s : System} {ids : Nat → Bytes} {first last : Nat}
  {mark : List Event → Message → Int → Prop}

/-! ### Runs -/

theorem step_paced (h : s.Sound) (hm : Marks mark) (hd : Endpoint.Distinct ids first last)
    (ha : s.endpoint.Accounted ids first) (hp : s.endpoint.Paced mark s.endpoint.resendAge)
    {m : Move} (hf : m.isForward = true) (hl : (s.step m).endpoint.surroundings.drawn ≤ last) :
    (s.step m).endpoint.Paced mark s.endpoint.resendAge := by
  by_cases ht : ∃ nanos, m = .elapse nanos
  · obtain ⟨nanos, rfl⟩ := ht
    have hn : 0 ≤ nanos := of_decide_eq_true hf
    refine hp.extend hm [] rfl (by simp) ?_ (fun _ => Or.inl) (List.Sublist.refl _)
    show s.endpoint.surroundings.clock ≤ s.endpoint.surroundings.clock + nanos
    omega
  · exact (step_passage h fun nanos hm => ht ⟨nanos, hm⟩).paced hm hd ha hp hl

/-- Identifiers that were drawn are not put back. -/
theorem le_run_drawn (h : s.Sound) (moves : List Move) :
    s.endpoint.surroundings.drawn ≤ (s.run moves).endpoint.surroundings.drawn := by
  refine run_invariant (P := fun t => s.endpoint.surroundings.drawn ≤
    t.endpoint.surroundings.drawn) (fun t m ht hle => ?_) h (Nat.le_refl _) moves
  have hdrawn := step_drawn ht m
  omega

/-- The sends of status updates keep their distance over every run in which the clock does not go
back, as long as no identifier is drawn twice. -/
theorem run_paced (h : s.Sound) (hm : Marks mark) (hd : Endpoint.Distinct ids first last)
    (ha : s.endpoint.Accounted ids first) (hp : s.endpoint.Paced mark s.endpoint.resendAge)
    (moves : List Move) (hf : ∀ m ∈ moves, m.isForward = true)
    (hl : (s.run moves).endpoint.surroundings.drawn ≤ last) :
    (s.run moves).endpoint.Paced mark s.endpoint.resendAge := by
  induction moves generalizing s with
  | nil => exact hp
  | cons m moves ih =>
    have hs := step_sound h m
    have hl' : (s.step m).endpoint.surroundings.drawn ≤ last :=
      Nat.le_trans (le_run_drawn hs moves) hl
    have hage : (s.step m).endpoint.resendAge = s.endpoint.resendAge :=
      Endpoint.resendAge_of_given (step_given h m)
    have hp' := step_paced h hm hd ha hp (hf m List.mem_cons_self) hl'
    rw [← hage] at hp' ⊢
    exact ih hs (step_accounted h hd ha m hl') hp' (fun x hx => hf x (List.mem_cons_of_mem m hx)) hl

/-- Before anything happens, nothing was sent. -/
theorem Begins.paced (h : s.Begins) (hm : ∀ m a, ¬ mark [] m a) :
    s.endpoint.Paced mark s.endpoint.resendAge := by
  obtain ⟨a, remote, ha⟩ := h.made
  have hd := Application.driver_new ha
  have hh := h.history
  refine ⟨fun m a ha => ?_, fun u _ a ha => ?_, ?_, ?_, ?_⟩
  · rw [hh] at ha
    exact absurd ha (hm m a)
  · rw [hh] at ha
    exact absurd ha (hm _ a)
  · rw [hd.backlog]
    simp [Endpoint.updates]
  · rw [hd.backlog]
    exact List.nodup_nil
  · rw [hh]
    trivial

/-- What a move issues was not issued before. -/
theorem not_issued (h : s.Sound) (hd : Endpoint.Distinct ids first last)
    (ha : s.endpoint.Accounted ids first) {m : Move}
    (hl : (s.step m).endpoint.surroundings.drawn ≤ last) {x : Bytes × Bytes}
    (hx : x ∈ s.issuesWith m) : x.1 ∉ (issued s.endpoint.history).map Prod.fst := by
  intro hmem
  have hnodup := (step_accounted h hd ha m hl).nodup (hd.mono hl)
  rw [step_issued h m, List.map_append] at hnodup
  exact (List.nodup_append.mp hnodup).2.2 _ hmem _ (List.mem_map_of_mem hx) rfl

/-! ### The distance of sends -/

/-- When the system, by its moves, sends status updates again. -/
structure Pacing (s : System) (moves : List Move) : Prop where
  /-- After any send but the first, an update is sent again only once the age has passed since the
  end of that send. -/
  again : ∀ status uuid a b t,
    Repeats (.statusUpdate status uuid) a b t (s.run moves).endpoint.history →
      Sent (.statusUpdate status uuid) t → ∃ n, s.endpoint.resendAge = .ok n ∧ a + n < b
  /-- After the first send, it is only once the age has passed since the issue. -/
  issue : ∀ before m after, moves = before ++ m :: after →
    ∀ uuid status, (uuid, status) ∈ (s.run before).issuesWith m →
      ∀ a b t, Repeats (.statusUpdate status uuid) a b t (s.run moves).endpoint.history →
        ∃ n, s.endpoint.resendAge = .ok n ∧
          (s.run before).endpoint.surroundings.clock + n < b
  /-- A stamp is not earlier than the end of any send but the first, -/
  stamps : ∀ u ∈ (s.run moves).driver.inflight, ∀ v t b d,
    v :: t <:+ (s.run moves).endpoint.history → v.span? = some (u.message, b, d) →
      Sent u.message t → d ≤ u.stamp
  /-- nor than the issue. -/
  since : ∀ before m after, moves = before ++ m :: after →
    ∀ u ∈ (s.run moves).driver.inflight, u.entry ∈ (s.run before).issuesWith m →
      (s.run before).endpoint.surroundings.clock ≤ u.stamp

/-- The time at which an update was issued counts from then on. -/
theorem run_paced_since (h : s.Begins) (hr : s.driver.role = .executor) {moves : List Move}
    (hf : ∀ m ∈ moves, m.isForward = true)
    (hd : Endpoint.Distinct s.endpoint.surroundings.ids s.endpoint.surroundings.drawn
      (s.run moves).endpoint.surroundings.drawn) {before after : List Move} {m : Move}
    (hmoves : moves = before ++ m :: after) {uuid status : Bytes}
    (hx : (uuid, status) ∈ (s.run before).issuesWith m) :
    (s.run moves).endpoint.Paced (fun _ m a => m = .statusUpdate status uuid ∧
      a = (s.run before).endpoint.surroundings.clock) s.endpoint.resendAge := by
  have hrun : s.run moves = (s.run before).run (m :: after) := by
    rw [hmoves]
    exact List.foldl_append ..
  have hs := run_sound h.sound before
  have hl : (s.run before).endpoint.surroundings.drawn ≤
      (s.run moves).endpoint.surroundings.drawn := hrun ▸ le_run_drawn hs _
  have hlm : ((s.run before).step m).endpoint.surroundings.drawn ≤
      (s.run moves).endpoint.surroundings.drawn := hrun ▸ le_run_drawn (step_sound hs m) after
  have ha := run_accounted h.sound hd (h.accounted hr) before hl
  have hage : (s.run before).endpoint.resendAge = s.endpoint.resendAge :=
    Endpoint.resendAge_of_given (run_given h.sound before)
  have hp := run_paced h.sound marks_resent hd (h.accounted hr) (h.paced fun _ _ => id) before
    (fun x hx => hf x (by simp [hmoves, hx])) hl
  have hsince := hp.since ha (not_issued hs hd ha hlm hx) status
  rw [← hage] at hsince ⊢
  rw [hrun]
  exact run_paced hs (marks_const _) hd ha hsince _
    (fun x hx => hf x (hmoves ▸ List.mem_append_right _ hx)) (hrun ▸ Nat.le_refl _)

theorem run_pacing (h : s.Begins) (hr : s.driver.role = .executor) (moves : List Move)
    (hf : ∀ m ∈ moves, m.isForward = true)
    (hd : Endpoint.Distinct s.endpoint.surroundings.ids s.endpoint.surroundings.drawn
      (s.run moves).endpoint.surroundings.drawn) : s.Pacing moves := by
  have hp := run_paced h.sound marks_resent hd (h.accounted hr) (h.paced fun _ _ => id) moves hf
    (Nat.le_refl _)
  refine ⟨fun status uuid a b t hrep hsent => ?_, fun before m after hmoves uuid status hx a b t
    hrep => ?_, fun u hu v t b d ⟨new, hh⟩ hv hsent => ?_, fun before m after hmoves u hu hx => ?_⟩
  · obtain ⟨mid, w, c, hw, n, hn, hall⟩ := hp.repeats hrep
    exact ⟨n, hn, hall a (resent_of_split hw hsent)⟩
  · obtain ⟨_, _, _, -, n, hn, hall⟩ := (run_paced_since h hr hf hd hmoves hx).repeats hrep
    exact ⟨n, hn, hall _ ⟨rfl, rfl⟩⟩
  · refine hp.stamps u hu d ?_
    rw [← hh]
    exact resent_of_split hv hsent
  · exact (run_paced_since h hr hf hd hmoves hx).stamps u hu _ ⟨rfl, rfl⟩

/-! ### A join that comes late -/

/-- The application of an executor that sends updates again after ten seconds. -/
def latecomerApplication : Application :=
  { reporterApplication with settings := some listenerSettings }

/-- Its system to begin with, over a transport that takes its time to connect. -/
def latecomer : System :=
  fresh
    { driver := latecomerApplication.assemble ⟨.executor, []⟩ listenerSettings ⟨['h'], 1⟩ []
        (Bytes.ofText "f") (Bytes.ofText "e")
      surroundings := reporter.endpoint.surroundings
      history := [] }
    .direct [] false

theorem latecomer_begins : latecomer.Begins :=
  ⟨⟨latecomerApplication, .text "m@h:1", rfl⟩, rfl, rfl, rfl⟩

/-- The executor starts and reports, and joins the cluster fifteen seconds later. -/
def lateMoves : List Move :=
  [.call .start, .go (.caller 0), .go .dispatch,
    .call (.order (.updateStatus (.plain (.octets [7])))), .go (.caller 1), .elapse 15000000000,
    .openGate, .go .dispatch, .go .dispatch, .go .dispatch, .go .dispatch]

/-- A round of the dispatch loop in which nothing comes. -/
def quietRound : List Move :=
  [.arrive (.messages []), .go .dispatch, .go .dispatch, .go .dispatch, .go .dispatch]

/-- Rounds at once, ten seconds later, and just after that. -/
def patientMoves : List Move :=
  lateMoves ++ quietRound ++ .elapse 10000000000 :: quietRound ++ .elapse 1 :: quietRound

/-- The update that is reported. -/
def lateUpdate : Message := .statusUpdate [7] (Bytes.bigEndian 16 1)

/-- The registration that goes out with it. -/
def lateRegistration : Message :=
  .registerExecutor (Bytes.ofText "f") (Bytes.ofText "e") "a"

/-- Between the second and the third send the age has passed, and a nanosecond. -/
theorem latecomer_pacing : latecomer.Begins ∧ latecomer.driver.role = .executor ∧
    (∀ m ∈ patientMoves, m.isForward = true) ∧
    Endpoint.Distinct latecomer.endpoint.surroundings.ids latecomer.endpoint.surroundings.drawn
      (latecomer.run patientMoves).endpoint.surroundings.drawn ∧
    (∃ t, Repeats lateUpdate 15000000000 25000000001 t
      (latecomer.run patientMoves).endpoint.history ∧ Sent lateUpdate t) ∧
    latecomer.Pacing patientMoves := by
  have hf : ∀ m ∈ patientMoves, m.isForward = true := by decide
  have hd : Endpoint.Distinct latecomer.endpoint.surroundings.ids
      latecomer.endpoint.surroundings.drawn
      (latecomer.run patientMoves).endpoint.surroundings.drawn :=
    reporter_distinct (by decide +kernel)
  have hspans : (latecomer.run patientMoves).endpoint.history.filterMap Event.span? =
      [(lateUpdate, 25000000001, 25000000001), (lateUpdate, 15000000000, 15000000000),
        (lateUpdate, 15000000000, 15000000000),
        (lateRegistration, 15000000000, 15000000000)] := by decide +kernel
  obtain ⟨t, ht, hrest⟩ := repeats_of_spans hspans (by decide +kernel)
  obtain ⟨v, hv, hspan⟩ := List.mem_filterMap.mp (hrest ▸ List.mem_cons_self)
  exact ⟨latecomer_begins, rfl, hf, hd, ⟨t, ht, v, hv, _, _, hspan⟩,
    run_pacing latecomer_begins rfl _ hf hd⟩

/-- The first send ends fifteen seconds after the update was stamped, and the second one begins
right then, though the age is ten seconds. -/
theorem early_resend : latecomer.Begins ∧ latecomer.driver.role = .executor ∧
    (∀ m ∈ lateMoves ++ quietRound, m.isForward = true) ∧
    latecomer.endpoint.resendAge = .ok 10000000000 ∧
    (latecomer.run lateMoves).driver.inflight = [⟨Bytes.bigEndian 16 1, [7], 0⟩] ∧
    (∃ v ∈ (latecomer.run lateMoves).endpoint.history,
      v.span? = some (lateUpdate, 15000000000, 15000000000)) ∧
    ∃ t, Repeats lateUpdate 15000000000 15000000000 t
      (latecomer.run (lateMoves ++ quietRound)).endpoint.history := by
  have hspans : (latecomer.run (lateMoves ++ quietRound)).endpoint.history.filterMap Event.span? =
      [(lateUpdate, 15000000000, 15000000000), (lateUpdate, 15000000000, 15000000000),
        (lateRegistration, 15000000000, 15000000000)] := by decide +kernel
  obtain ⟨t, ht, -⟩ := repeats_of_spans hspans (by decide +kernel)
  exact ⟨latecomer_begins, rfl, by decide, by decide +kernel, by decide +kernel, by decide +kernel,
    t, ht⟩

end System

end ClusterLink
