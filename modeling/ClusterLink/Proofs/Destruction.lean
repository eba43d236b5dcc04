/-
# Destruction

Destroying a driver takes two regions. The first aborts an active driver and
finds out whether there is a dispatch thread to wait for, the second releases
the driver. At most one caller gets to do that, and every other one that ends
is told that it misused the driver (`System.Destruction`).

The dispatch thread of a destroyed driver has ended (`System.Released`),
unless a caller was overtaken (`System.Overtaken`): it found a new driver,
with nobody to wait for, and the driver was started before its second region
ran.

Key definitions: `System.Destruction`, `System.Released`,
`System.Overtaken`.
Key theorems: `System.run_destruction`, `System.run_released`,
`System.overtaken_destroys`.
-/
import ClusterLink.Proofs.Callers

namespace ClusterLink

namespace Endpoint

/-! ### Destroyed drivers -/

/-- The end of the dispatch thread stays known. -/
theorem Deed.done {e e' : Endpoint} (h : Deed e e') (hd : e.driver.done = true) :
    e'.driver.done = true := by
  cases h with
  | submit why m h =>
    obtain ⟨b, p, hp⟩ := push_driver (e.record (.accepted why m)) m
    unfold Endpoint.submit
    rw [hp]
    exact hd
  | signal => rfl
  | _ => exact hd

/-- Destroyed, with a dispatch thread or without; if that ended, then for good. -/
structure Destroyed (launched done : Bool) (e : Endpoint) : Prop where
  state : e.driver.state = .destroyed
  launched : e.driver.launched = launched
  done : done = true → e.driver.done = true

variable {launched done : Bool}

theorem Turn.destroyed {e e' : Endpoint} (h : Turn e e') (he : e.Destroyed launched done) :
    e'.Destroyed launched done := by
  cases h with
  | deed h =>
    refine ⟨?_, h.launched.1.trans he.launched, fun hd => h.done (he.done hd)⟩
    rcases h.state_cases with hs | ⟨hs, -⟩
    · exact hs.trans he.state
    · exact absurd he.state hs.2
  | launch h => exact absurd (h.symm.trans he.state) Lifecycle.noConfusion
  | release h => exact absurd he.state h

/-- A destroyed driver does not join the cluster any more. -/
theorem Destroyed.enter {e : Endpoint} (he : e.Destroyed launched done) :
    e.enter.2.Destroyed launched done := by
  have hn : e.driver.state ≠ .started := by rw [he.state]; exact Lifecycle.noConfusion
  rcases e.enter_cases with ⟨-, h⟩ | ⟨hs, -⟩ | ⟨hs, -⟩
  · rw [h]
    exact ⟨he.state, he.launched, he.done⟩
  · exact absurd hs hn
  · exact absurd hs hn

/-- Only the end of destruction destroys a driver. -/
theorem region_ne_destroyed {e : Endpoint} {r : Region} (hr : r ≠ .destroy)
    (h : e.driver.state ≠ .destroyed) : (e.region false r).2.driver.state ≠ .destroyed := by
  by_cases hs : e.driver.state = .created ∧ ∃ thenJoin, r = .start thenJoin
  · obtain ⟨hc, thenJoin, rfl⟩ := hs
    rw [region_start]
    unfold start
    rw [if_neg h, if_neg (not_not.mpr hc)]
    dsimp only
    split
    · exact h
    · exact Lifecycle.noConfusion
  · have hd : Deeds e (e.region false r).2 :=
      region_deeds false (fun hc thenJoin hj => hs ⟨hc, thenJoin, hj⟩) hr
    rcases hd.state_cases with hs | ⟨-, hs | hs⟩
    · rwa [hs]
    · rw [hs]; exact Lifecycle.noConfusion
    · rw [hs]; exact Lifecycle.noConfusion

/-- The end of destruction succeeds exactly if nobody destroyed the driver before. -/
theorem region_destroy_cases (e : Endpoint) :
    (e.driver.state = .destroyed ∧
      e.region false .destroy = (.finished (.error (e.driver.gone "destroy")), e)) ∨
    (e.driver.state ≠ .destroyed ∧
      e.region false .destroy = (.finished (.ok .nothing), e.release.note .destroyed)) := by
  by_cases h : e.driver.state = .destroyed
  · refine Or.inl ⟨h, ?_⟩
    simp [region, destroy, h, Except.map]
  · refine Or.inr ⟨h, ?_⟩
    simp [region, destroy, h, Except.map, release]

/-- Its beginning never does, and is told to go on unless it comes too late. -/
theorem region_condemn_cases (e : Endpoint) :
    (e.driver.state = .destroyed ∧
      e.region false .condemn = (.finished (.error (e.driver.gone "destroy")), e)) ∨
    (e.driver.state ≠ .destroyed ∧ ∀ r, (e.region false .condemn).1 ≠ .finished r) := by
  by_cases h : e.driver.state = .destroyed
  · refine Or.inl ⟨h, ?_⟩
    simp [region, h]
  · refine Or.inr ⟨h, fun r => ?_⟩
    simp only [region, h, Bool.false_eq_true, if_false]
    split
    · exact Errand.noConfusion
    · exact Errand.noConfusion

end Endpoint

namespace System

/-! ### Who destroys a driver -/

/-- What came of destroying the driver. -/
structure Destruction (s : System) : Prop where
  /-- Whoever succeeded finds the driver destroyed. -/
  gone : ∀ {n : Nat} {x : Caller} {a : Answer}, s.callers[n]? = some x → x.call = .destroy →
    x.errand = .finished (.ok a) → s.driver.state = .destroyed
  /-- At most one caller succeeded. -/
  once : ∀ {n n' : Nat} {x x' : Caller} {a a' : Answer}, s.callers[n]? = some x →
    s.callers[n']? = some x' → x.call = .destroy → x'.call = .destroy →
      x.errand = .finished (.ok a) → x'.errand = .finished (.ok a') → n = n'
  /-- Every other one that ended was told of its misuse. -/
  misuse : ∀ {n : Nat} {x : Caller} {f : Failure}, s.callers[n]? = some x → x.call = .destroy →
    x.errand = .finished (.error f) → f.isMisuse = true

/-- A destroyed driver stays so. -/
theorem step_destroyed {s : System} {launched done : Bool} (h : s.Sound)
    (hd : s.endpoint.Destroyed launched done) (m : Move) :
    (s.step m).endpoint.Destroyed launched done :=
  run_keeps (fun _ _ ht he => ht.destroyed he) (fun _ _ he => he.enter) h hd [m]

/-- Somebody who destroys a driver ends in one of its two regions. -/
theorem suits_destroy {r : Region} (h : (CallOf.destroy : Call).suits (.region r)) :
    r = .condemn ∨ r = .destroy := by
  cases r with
  | condemn => exact Or.inl rfl
  | destroy => exact Or.inr rfl
  | _ => cases h

/-- After its region, a caller leaves the driver as the region did. -/
theorem caller_driver {s : System} {n : Nat} {r : Region} (h : s.errandOf n = some (.region r)) :
    (s.caller n).driver = (s.endpoint.region false r).2.driver := by
  unfold caller
  rw [h]
  dsimp only
  unfold driver
  rw [launch_endpoint]
  exact assign_driver _ n _

/-- A caller that destroys the driver ended before, is told of its misuse with this move, or
destroys the driver with it. -/
theorem step_finished {s : System} (h : s.Sound) (ha : s.Attended) {m : Move} {n : Nat}
    {x : Caller} {r : Except Failure Answer} (hx : (s.step m).callers[n]? = some x)
    (hc : x.call = .destroy) (hf : x.errand = .finished r) :
    s.callers[n]? = some x ∨ m = .go (.caller n) ∧
      ((∃ f, r = .error f ∧ f.isMisuse = true) ∨
        r = .ok .nothing ∧ s.driver.state ≠ .destroyed ∧
          (s.step m).driver.state = .destroyed) := by
  cases step_served h hx with
  | left hx => exact Or.inl hx
  | came hm hn hs hw hd ht =>
    rw [hd hc] at hf
    cases hf
  | @region y q hm hy hq hl hcy he hh =>
    subst hm
    refine Or.inr ⟨rfl, ?_⟩
    have hyc : y.call = .destroy := hcy.symm.trans hc
    have hsuits : (CallOf.destroy : Call).suits (.region q) := by
      have := ha.suits hy
      rwa [hyc, hq] at this
    have herrand : s.errandOf n = some (.region q) := by
      unfold errandOf
      rw [hy, ← hq]
      rfl
    have hr : (s.endpoint.region false q).1 = .finished r := he.symm.trans hf
    rcases suits_destroy hsuits with rfl | rfl
    · -- the first region only ever ends with misuse
      rcases s.endpoint.region_condemn_cases with ⟨-, hreg⟩ | ⟨-, hreg⟩
      · rw [hreg] at hr
        exact Or.inl ⟨_, (Errand.finished.inj hr).symm, rfl⟩
      · exact absurd hr (hreg r)
    · rcases s.endpoint.region_destroy_cases with ⟨-, hreg⟩ | ⟨hnot, hreg⟩
      · rw [hreg] at hr
        exact Or.inl ⟨_, (Errand.finished.inj hr).symm, rfl⟩
      · rw [hreg] at hr
        refine Or.inr ⟨(Errand.finished.inj hr).symm, hnot, ?_⟩
        have hp : s.provides (s.need (.caller n)) = true := by
          simp [need, callerNeed, herrand, provides, hl]
        have hstep : s.step (.go (.caller n)) = s.caller n := by simp [step, hp, advance]
        rw [hstep, caller_driver herrand, hreg]
        rfl
  | @waited y hm hy hw hd hcy he =>
    rcases hw with hw | hw
    · have hsuits := ha.suits hy
      rw [← hcy, hc, hw] at hsuits
      cases hsuits
    · rw [hw] at he
      cases he.symm.trans hf

theorem step_destruction {s : System} (h : s.Sound) (ha : s.Attended) (hd : s.Destruction)
    (m : Move) : (s.step m).Destruction := by
  have hstays : s.driver.state = .destroyed → (s.step m).driver.state = .destroyed := by
    intro hs
    have hgone : s.endpoint.Destroyed s.driver.launched false := ⟨hs, rfl, Bool.noConfusion⟩
    exact (step_destroyed h hgone m).state
  constructor
  · intro n x a hx hc hf
    rcases step_finished h ha hx hc hf with hx | ⟨-, ⟨f, hr, -⟩ | ⟨-, -, hs⟩⟩
    · exact hstays (hd.gone hx hc hf)
    · cases hr
    · exact hs
  · intro n n' x x' a a' hx hx' hc hc' hf hf'
    rcases step_finished h ha hx hc hf with hx | ⟨hm, ⟨f, hr, -⟩ | ⟨-, hs, -⟩⟩
    · rcases step_finished h ha hx' hc' hf' with hx' | ⟨-, ⟨f, hr, -⟩ | ⟨-, hs, -⟩⟩
      · exact hd.once hx hx' hc hc' hf hf'
      · cases hr
      · exact absurd (hd.gone hx hc hf) hs
    · cases hr
    · rcases step_finished h ha hx' hc' hf' with hx' | ⟨hm', -⟩
      · exact absurd (hd.gone hx' hc' hf') hs
      · exact (Thread.caller.inj (Move.go.inj (hm.symm.trans hm')))
  · intro n x f hx hc hf
    rcases step_finished h ha hx hc hf with hx | ⟨-, ⟨f', hr, hm⟩ | ⟨hr, -⟩⟩
    · exact hd.misuse hx hc hf
    · obtain rfl := Except.error.inj hr
      exact hm
    · cases hr

/-- At most one caller destroys a driver, and every other one that ends is told of its misuse. -/
theorem run_destruction {s : System} (h : s.Begins) (moves : List Move) :
    (s.run moves).Destruction := by
  have hbegin : s.Destruction := by
    constructor
    · intro n x a hx
      simp [h.callers] at hx
    · intro n n' x x' a a' hx
      simp [h.callers] at hx
    · intro n x f hx
      simp [h.callers] at hx
  refine (run_invariant (P := fun s => s.endpoint.Recorded [] ∧ s.Attended ∧ s.Destruction) ?_
    h.sound ⟨h.recorded, h.attended, hbegin⟩ moves).2.2
  rintro s m hs ⟨hr, ha, hd⟩
  exact ⟨run_recorded hs hr [m], step_attended hs hr ha m, step_destruction hs ha hd m⟩

/-! ### What is left of a destroyed driver -/

/-- If the driver is destroyed, its dispatch thread ended, if there was one. -/
def Released (s : System) : Prop :=
  s.driver.state = .destroyed → s.driver.launched = true → s.driver.done = true

/-- A caller is about to destroy the driver without having waited for its dispatch thread, which was
launched meanwhile. -/
def Overtaken (s : System) : Prop :=
  s.driver.launched = true ∧ s.driver.done = false ∧ ∃ n, s.errandOf n = some (.region .destroy)

/-- The dispatch thread does not destroy its driver. -/
theorem dispatch_ne_destroyed {s : System} (h : s.Sound) (hd : s.driver.state ≠ .destroyed) :
    s.dispatch.driver.state ≠ .destroyed := by
  have hdeeds : ∀ {e : Endpoint}, Endpoint.Deeds e s.dispatch.endpoint →
      e.driver.state ≠ .destroyed → s.dispatch.driver.state ≠ .destroyed := by
    intro e hde he
    rcases hde.state_cases with hs | ⟨-, hs | hs⟩
    · rwa [driver, hs]
    · rw [driver, hs]; exact Lifecycle.noConfusion
    · rw [driver, hs]; exact Lifecycle.noConfusion
  rcases s.phase.stages with hl | he | hb | hi
  · exact hdeeds (dispatch_onward h.admits hl).deeds hd
  · refine hdeeds (dispatch_entering_onward h he).1 ?_
    rcases s.endpoint.enter_cases with ⟨-, hent⟩ | ⟨-, f, -, hent⟩ | ⟨-, replyTo, -, hent⟩
    · rw [hent]; exact hd
    · rw [hent]; exact hd
    · rw [hent]; exact Lifecycle.noConfusion
  · exact hdeeds (dispatch_early h hb).1 hd
  · rwa [dispatch_idle hi]

/-- As long as nobody is overtaken, no dispatch thread outlives its driver. -/
theorem step_released {s : System} (h : s.Sound) (hr : s.Released) (ho : ¬ s.Overtaken)
    (m : Move) : (s.step m).Released := by
  by_cases hd : s.driver.state = .destroyed
  · -- nothing is launched any more
    have hstays := step_destroyed h ⟨hd, rfl, fun hdone => hdone⟩ m
    intro _ hl
    exact hstays.done (hr hd (hstays.launched.symm.trans hl))
  intro hd' hl
  rcases s.step_cases m with ⟨-, -, -, he⟩ | ⟨-, he⟩ | ⟨n, -, hp, he⟩ | hm
  · rw [he] at hd'
    exact absurd hd' hd
  · rw [he] at hd'
    exact absurd hd' (dispatch_ne_destroyed h hd)
  · rw [he] at hd' hl ⊢
    cases hn : s.errandOf n with
    | none =>
      have hc : s.caller n = s := by simp [caller, hn]
      rw [hc] at hd'
      exact absurd hd' hd
    | some errand =>
      cases errand with
      | region q =>
        rw [caller_driver hn] at hd' hl ⊢
        by_cases hq : q = .destroy
        · subst hq
          rcases s.endpoint.region_destroy_cases with ⟨hs, -⟩ | ⟨-, hreg⟩
          · exact absurd hs hd
          · rw [hreg] at hl ⊢
            have hl : s.driver.launched = true := hl
            show s.driver.done = true
            by_contra hdone
            exact ho ⟨hl, by simpa using hdone, n, hn⟩
        · exact absurd hd' (Endpoint.region_ne_destroyed hq hd)
      | finished r =>
        have hc : s.caller n = s := by simp [caller, hn]
        rw [hc] at hd'
        exact absurd hd' hd
      | _ =>
        have hc : (s.caller n).driver = s.driver := by
          simp only [caller, hn]
          exact assign_driver _ _ _
        rw [hc] at hd'
        exact absurd hd' hd
  · rw [(s.outside_deeds hm).2.1] at hd'
    exact absurd hd' hd

theorem Begins.released {s : System} (h : s.Begins) : s.Released := by
  obtain ⟨a, remote, hmade⟩ := h.made
  have hnew := Application.driver_new hmade
  intro hd
  exact absurd (hnew.state.symm.trans hd) Lifecycle.noConfusion

/-- No dispatch thread outlives its driver in a run in which nobody is overtaken. -/
theorem run_released {s : System} (h : s.Begins) (moves : List Move)
    (ho : ∀ before, before <+: moves → ¬ (s.run before).Overtaken) : (s.run moves).Released :=
  run_invariant_while (P := Released) (Q := fun t => ¬ t.Overtaken)
    (fun _ m ht hot hr => step_released ht hr hot m) h.sound h.released moves ho

/-- A caller that was overtaken destroys the driver under its dispatch thread. -/
theorem overtaken_destroys {s : System} (ho : s.Overtaken) (hd : s.driver.state ≠ .destroyed)
    (hl : s.isLocked = false) : ∃ n, ¬ (s.step (.go (.caller n))).Released := by
  obtain ⟨hlaunched, hdone, n, hn⟩ := ho
  refine ⟨n, fun hr => ?_⟩
  have hp : s.provides (s.need (.caller n)) = true := by
    simp [need, callerNeed, hn, provides, hl]
  have hstep : s.step (.go (.caller n)) = s.caller n := by simp [step, hp, advance]
  unfold Released at hr
  rw [hstep, caller_driver hn] at hr
  rcases s.endpoint.region_destroy_cases with ⟨hs, -⟩ | ⟨-, hreg⟩
  · exact hd hs
  · rw [hreg] at hr
    exact absurd (hdone.symm.trans (hr rfl hlaunched)) Bool.noConfusion

/-- Nobody needs to wait between the two regions, and a start may come in between. -/
example : ((sample [] [] []).run
    [.call .destroy, .go (.caller 0), .call .start, .go (.caller 1)]).Overtaken :=
  ⟨rfl, rfl, 0, rfl⟩

end System

end ClusterLink
