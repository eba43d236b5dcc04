/-
# Running a driver

To run a driver is to start it and to join it then. These are two regions,
and anything may happen between them. A caller who started the driver so
goes through the phases of `System.Running`: he is to join, waits, and is
told the final status. Only a driver that was destroyed before he joined
answers him with misuse.

Where the start is not granted, the call ends with it, as any other start
(`System.run_rules`).

Key definitions: `System.Running`.
Key theorems: `System.step_running`, `System.run_running`.
-/
import ClusterLink.Proofs.Ruling
import ClusterLink.Proofs.Verdict

namespace ClusterLink

namespace System

variable {s : System} {n : Nat} {m : Move}

/-- How far a caller is who started the driver in order to wait for its end. -/
inductive Running (s : System) (n : Nat) : Prop
  | started (h : s.errandOf n = some (.region .join))
  | waiting (h : s.errandOf n = some .awaitVerdict)
  | told {st : Status} (h : s.errandOf n = some (.finished (.ok (.status st))))
    (hf : s.driver.finalStatus = some st)
  /-- The driver was destroyed before he joined. -/
  | late {f : Failure} (h : s.errandOf n = some (.finished (.error f))) (hm : f.isMisuse = true)
    (hd : s.driver.state = .destroyed)

/-- A caller whose start is granted is to join next, and started the driver. -/
theorem step_starts (he : s.errandOf n = some (.region (.start true))) (hl : s.isLocked = false)
    (hc : s.driver.state = .created)
    (hm : s.endpoint.surroundings.making.headD none = none) :
    (s.step (.go (.caller n))).Running n ∧ (s.step (.go (.caller n))).driver.state = .started ∧
      (s.step (.go (.caller n))).driver.launched = true := by
  have hturn : (s.step (.go (.caller n))).errandOf n = some (.region .join) := by
    rw [step_outcome he hl]
    simp only [Region.outcome, hc, Region.ruling, Region.grant, hm, if_true]
  have hstep : s.step (.go (.caller n)) = s.caller n := by
    simp [step, need, callerNeed, he, provides, hl, advance]
  have hstart : s.endpoint.start.2.driver.state = .started ∧
      s.endpoint.start.2.driver.launched = true := by
    unfold Endpoint.start
    rw [if_neg (by rw [hc]; exact Lifecycle.noConfusion), if_neg (not_not_intro hc)]
    simp only [hm]
    exact ⟨rfl, rfl⟩
  rw [hstep, caller_driver he, Endpoint.region_start, ← hstep]
  exact ⟨.started hturn, hstart⟩

/-- Between his turns he stays where he is. -/
theorem Running.stays (h : s.Sound) (hc : s.Concluded) (hr : s.Running n)
    (hm : m ≠ .go (.caller n)) : (s.step m).Running n := by
  cases hr with
  | started he => exact .started (step_waits h he hm)
  | waiting he => exact .waiting (step_waits h he hm)
  | told he hf => exact .told (step_waits h he hm) (step_finalStatus hc m hf)
  | late he hmis hd =>
    exact .late (step_waits h he hm) hmis (step_destroyed h ⟨hd, rfl, fun hdone => hdone⟩ m).state

/-- A caller who cannot go on is left alone. -/
theorem step_blocked (h : s.provides (s.need (.caller n)) = false) :
    s.step (.go (.caller n)) = s := by
  simp [step, h]

/-- When the lock is free he joins, unless the driver is destroyed by then. -/
theorem running_joins (h : s.Sound) (hl : s.driver.launched = true)
    (he : s.errandOf n = some (.region .join)) : (s.step (.go (.caller n))).Running n := by
  by_cases hlock : s.isLocked = true
  · have hneed : s.provides (s.need (.caller n)) = false := by
      simp [need, callerNeed, he, provides, hlock]
    rw [step_blocked hneed]
    exact .started he
  have hturn := step_outcome he (by simpa using hlock)
  have hc : s.driver.state ≠ .created := (h.endpoint.launched hl).1
  by_cases hd : s.driver.state = .destroyed
  · have hgone : Region.join.outcome false s.endpoint =
        .finished (.error (s.driver.gone "join")) := by
      simp only [Region.outcome, hd, Region.ruling]
      rfl
    rw [hgone] at hturn
    refine .late hturn ?_ (step_destroyed h ⟨hd, rfl, fun hdone => hdone⟩ _).state
    simp [Driver.gone, Failure.isMisuse, Failure.kind]
  · have hwait : Region.join.outcome false s.endpoint = .awaitVerdict := by
      have hgranted := Region.join_granted_iff.mpr ⟨rfl, hc, hd⟩
      simp only [Region.outcome, hgranted, Region.grant]
    rw [hwait] at hturn
    exact .waiting hturn

/-- When the dispatch thread ended he is told the final status. -/
theorem running_told (hc : s.Concluded) (he : s.errandOf n = some .awaitVerdict) :
    (s.step (.go (.caller n))).Running n := by
  by_cases hdone : s.driver.done = true
  · obtain ⟨st, hst⟩ := Option.isSome_iff_exists.mp (hc.known hdone)
    have hp : s.provides (s.need (.caller n)) = true := by
      simp [need, callerNeed, he, provides, hdone]
    have hstep : s.step (.go (.caller n)) = s.assign n (.finished (.ok (.status st))) := by
      simp [step, hp, advance, caller, he, Endpoint.awaited, Driver.verdict, hst]
    have htold : (s.step (.go (.caller n))).errandOf n = some (.finished (.ok (.status st))) := by
      rw [hstep]
      exact assign_errandOf (by rw [he]; rfl)
    exact .told htold (step_finalStatus hc _ hst)
  · have hneed : s.provides (s.need (.caller n)) = false := by
      simp [need, callerNeed, he, provides, hdone]
    rw [step_blocked hneed]
    exact .waiting he

theorem step_running (h : s.Sound) (hc : s.Concluded) (hl : s.driver.launched = true)
    (hr : s.Running n) (m : Move) : (s.step m).Running n := by
  by_cases hm : m = .go (.caller n)
  · subst hm
    cases hr with
    | started he => exact running_joins h hl he
    | waiting he => exact running_told hc he
    | told he hf =>
      rw [step_replied he]
      exact .told he hf
    | late he hmis hd =>
      rw [step_replied he]
      exact .late he hmis hd
  · exact hr.stays h hc hm

/-- Whoever starts the driver in order to wait for its end is told its final status, or of his
misuse if the driver was destroyed before he joined. -/
theorem run_running {s : System} (h : s.Begins) (before after : List Move) {n : Nat}
    (he : (s.run before).errandOf n = some (.region (.start true)))
    (hl : (s.run before).isLocked = false) (hc : (s.run before).driver.state = .created)
    (hm : (s.run before).endpoint.surroundings.making.headD none = none) :
    (((s.run before).step (.go (.caller n))).run after).Running n := by
  obtain ⟨hrunning, -, hlaunched⟩ := step_starts he hl hc hm
  refine (run_invariant (P := fun t => t.Concluded ∧ t.driver.launched = true ∧ t.Running n)
    (fun t m ht hP => ⟨step_concluded hP.1 m, step_launched ht m hP.2.1,
      step_running ht hP.1 hP.2.1 hP.2.2 m⟩)
    (step_sound (run_sound h.sound before) _)
    ⟨step_concluded (run_concluded h before) _, hlaunched, hrunning⟩ after).2.2

/-- The driver may be destroyed between his two regions, by somebody who waits for its end. -/
example : ((sample [] [] []).run
    ([.call .run, .go (.caller 0), .call .destroy, .go (.caller 1)] ++
      List.replicate 7 (.go .dispatch) ++
      [.go (.caller 1), .go (.caller 1), .go (.caller 0)])).errandOf 0 =
    some (.finished (.error (.destroyed "join" .scheduler "k"))) := rfl

end System

end ClusterLink
