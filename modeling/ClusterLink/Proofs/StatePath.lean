/-
# The path of the states

The states that a driver is put in, one after the other, against the
documented machine (`Lifecycle.Step`). Each is the state the driver is in
already, or follows by a documented change, with one exception
(`History.Lapse`): a callback that misuses the driver after the driver was
stopped, by whoever that was, has it put from stopped to aborted. So the
states form a path of the machine exactly if that never happens, an aborted
driver stays so until it is destroyed, and a stopped one does if it does not
lapse.

Key definitions: `History.Documented`, `History.Lapse`, `System.StatePath`.
Key theorems: `System.run_statePath`, `System.stop_lapses`.
-/
import ClusterLink.Proofs.Callers

namespace ClusterLink

namespace History

/-- If the event puts the driver in another state, the documented machine has that change. -/
def Documented (v : Event) (h : List Event) : Prop :=
  ∀ s, v.state? = some s → s = state h ∨ (state h).Step s

/-- A driver that was stopped is put in the state aborted, since a callback misused it. -/
def Lapse (v : Event) (h : List Event) : Prop :=
  v = .became .aborted ∧
    ∃ slot f t, h = .broke slot f :: t ∧ f.isMisuse = true ∧ state t = .stopped

/-- A callback misused a driver that was stopped. -/
def Lapsed (h : List Event) : Prop :=
  ∃ slot f t, .broke slot f :: t <:+ h ∧ f.isMisuse = true ∧ state t = .stopped

/-- Once the state is one of these, it stays one of them. -/
def Stays (S : Lifecycle → Prop) (h : List Event) : Prop :=
  ∀ t u, t <:+ u → u <:+ h → S (state t) → S (state u)

variable {P Q : Event → List Event → Prop} {h : List Event}

/-- A property may be replaced by one that follows where it holds. -/
theorem Always.mono (H : Always P h) (hpq : ∀ v t, v :: t <:+ h → P v t → Q v t) :
    Always Q h :=
  always_iff.mpr fun v t hs => hpq v t hs (always_iff.mp H v t hs)

/-- What no change of state leads out of stays. -/
theorem stays_of_always {S : Lifecycle → Prop}
    (H : Always (fun v t => ∀ s, v.state? = some s → S (state t) → S s) h) : Stays S h := by
  intro t u htu hu hS
  induction u with
  | nil =>
    rw [List.suffix_nil.mp htu] at hS
    exact hS
  | cons v u ih =>
    rcases List.suffix_cons_iff.mp htu with rfl | htu
    · exact hS
    · have hSu := ih htu ((List.suffix_cons _ _).trans hu)
      cases hv : v.state? with
      | none => simpa [hv] using hSu
      | some s => simpa [hv] using always_iff.mp H v u hu s hv hSu

theorem documented_of_fits {v : Event} (hv : v.fits (state h)) : Documented v h := by
  intro s hs
  rw [hv.state?] at hs
  cases hs

end History

open History

/-- Every change of state is documented, or a lapse. -/
theorem Chronicle.documented_or_lapse {h : List Event} (H : Chronicle h) :
    Always (fun v t => Documented v t ∨ Lapse v t) h := by
  have hstep : ∀ {s : Lifecycle} {t : List Event}, (state t).Step s → Documented (.became s) t := by
    rintro s t hs s' ⟨⟩
    exact Or.inr hs
  induction H with
  | rest => trivial
  | happen H hv ih => exact ⟨Or.inl (documented_of_fits hv), ih⟩
  | shift H hs ih => exact ⟨Or.inl (hstep hs), ih⟩
  | report H ha ih =>
    exact ⟨Or.inl fun s hs => (nomatch hs), Or.inl (hstep (.abort ha)),
      Or.inl fun s hs => (nomatch hs), ih⟩
  | @misuse slot f t H hf hs ih =>
    refine ⟨?_, Or.inl fun s hs => (nomatch hs), ih⟩
    rcases hs with hs | hs | hs
    · refine Or.inl (hstep (.abort ?_))
      show (state t).isActive = true
      rw [hs]; rfl
    · exact Or.inr ⟨rfl, slot, f, t, rfl, hf, hs⟩
    · refine Or.inl ?_
      rintro s ⟨⟩
      exact Or.inl hs.symm

/-- Misuse of a stopped driver is followed by a change that is not documented. -/
theorem Chronicle.not_documented_of_lapsed {h : List Event} (H : Chronicle h)
    (hl : Lapsed h) : ¬ Always Documented h := by
  obtain ⟨slot, f, t, ht, hf, hs⟩ := hl
  induction H with
  | rest => simp at ht
  | happen H hv ih =>
    rcases List.suffix_cons_iff.mp ht with he | ht
    · obtain ⟨rfl, -⟩ := List.cons.inj he
      exact absurd (hf.symm.trans hv) Bool.noConfusion
    · exact fun hd => ih ht hd.2
  | shift H hs' ih =>
    rcases List.suffix_cons_iff.mp ht with he | ht
    · cases he
    · exact fun hd => ih ht hd.2
  | report H ha ih =>
    rcases List.suffix_cons_iff.mp ht with he | ht
    · cases he
    rcases List.suffix_cons_iff.mp ht with he | ht
    · cases he
    rcases List.suffix_cons_iff.mp ht with he | ht
    · cases he
    · exact fun hd => ih ht hd.2.2.2
  | misuse H hf' hs' ih =>
    rcases List.suffix_cons_iff.mp ht with he | ht
    · cases he
    rcases List.suffix_cons_iff.mp ht with he | ht
    · obtain ⟨he, rfl⟩ := List.cons.inj he
      intro hd
      rcases hd.1 .aborted rfl with hsame | hstep
      · exact absurd (hsame.trans hs) (by decide)
      · have hstep : Lifecycle.Step .stopped .aborted := hs ▸ hstep
        cases hstep with
        | abort h => cases h
    · exact fun hd => ih ht hd.2.2

/-- The states form a path of the documented machine unless the driver lapsed. -/
theorem Chronicle.documented_iff {h : List Event} (H : Chronicle h) :
    Always Documented h ↔ ¬ Lapsed h := by
  refine ⟨fun hd hl => H.not_documented_of_lapsed hl hd, fun hl => ?_⟩
  refine H.documented_or_lapse.mono fun v t hs hv => hv.resolve_right ?_
  rintro ⟨-, slot, f, u, rfl, hf, hu⟩
  exact hl ⟨slot, f, u, (List.suffix_cons _ _).trans hs, hf, hu⟩

theorem Chronicle.aborted_stays {h : List Event} (H : Chronicle h) :
    Stays (fun s => s = .aborted ∨ s = .destroyed) h := by
  refine stays_of_always (H.documented_or_lapse.mono fun v t _ hv s hs hst => ?_)
  rcases hv with hv | ⟨-, slot, f, u, rfl, -, hu⟩
  · rcases hv s hs with rfl | hstep
    · exact hst
    · exact Or.inr (hstep.eq_destroyed (by rcases hst with hst | hst <;> rw [hst] <;> rfl))
  · have hu : state (.broke slot f :: u) = .stopped := hu
    rcases hst with hst | hst <;> rw [hu] at hst <;> cases hst

/-- A driver that was shut down stays so. -/
theorem Chronicle.shut_stays {h : List Event} (H : Chronicle h) :
    Stays (fun s => s.isShut = true) h := by
  refine stays_of_always (H.documented_or_lapse.mono fun v t _ hv s hs hst => ?_)
  rcases hv with hv | ⟨rfl, -⟩
  · rcases hv s hs with rfl | hstep
    · exact hst
    · exact hstep.isShut hst
  · obtain rfl : Lifecycle.aborted = s := Option.some.inj hs
    rfl

theorem Chronicle.stopped_stays {h : List Event} (H : Chronicle h) (hl : ¬ Lapsed h) :
    Stays (fun s => s = .stopped ∨ s = .destroyed) h := by
  refine stays_of_always ((H.documented_iff.mpr hl).mono fun v t _ hv s hs hst => ?_)
  rcases hv s hs with rfl | hstep
  · exact hst
  · exact Or.inr (hstep.eq_destroyed (by rcases hst with hst | hst <;> rw [hst] <;> rfl))

/-- What a callback's call was answered tells about the state at that moment. -/
theorem Chronicle.acted {h : List Event} (H : Chronicle h) :
    Always (fun v t => ∀ op r, v = .acted op r → Tells op r (state t)) h := by
  induction H with
  | rest => trivial
  | happen H hv ih =>
    refine ⟨?_, ih⟩
    rintro op r rfl
    exact hv
  | shift H hs ih => exact ⟨fun _ _ he => (nomatch he), ih⟩
  | report H ha ih =>
    exact ⟨fun _ _ he => (nomatch he), fun _ _ he => (nomatch he), fun _ _ he => (nomatch he), ih⟩
  | misuse H hf hs ih => exact ⟨fun _ _ he => (nomatch he), fun _ _ he => (nomatch he), ih⟩

namespace System

/-- Which states the driver of a system has been in, and is in. -/
structure StatePath (s : System) : Prop where
  /-- The history ends in the state that the driver is in. -/
  tracked : state s.endpoint.history = s.driver.state
  /-- Every change of state is documented, exactly if no callback misused a stopped driver. -/
  documented : Always Documented s.endpoint.history ↔ ¬ Lapsed s.endpoint.history
  /-- In any case there is no other change but the one after such a misuse. -/
  otherwise : Always (fun v t => Documented v t ∨ Lapse v t) s.endpoint.history
  aborted : Stays (fun l => l = .aborted ∨ l = .destroyed) s.endpoint.history
  stopped : ¬ Lapsed s.endpoint.history →
    Stays (fun l => l = .stopped ∨ l = .destroyed) s.endpoint.history
  /-- Who aborted the driver, and was told so, finds it aborted until it is destroyed. -/
  aborters : ∀ x ∈ s.callers, x.call = .abort → x.errand = .finished (.ok (.status .aborted)) →
    s.driver.state = .aborted ∨ s.driver.state = .destroyed
  /-- Who stopped the driver, and was told so, finds it stopped until it is destroyed, if no
  callback misused it meanwhile. -/
  stoppers : ¬ Lapsed s.endpoint.history → ∀ x ∈ s.callers, ∀ failover, x.call = .stop failover →
    x.errand = .finished (.ok (.status .stopped)) →
      s.driver.state = .stopped ∨ s.driver.state = .destroyed
  /-- Callbacks are told the truth as well. -/
  callbacks : Always (fun v t => ∀ op r, v = .acted op r → Tells op r (state t))
    s.endpoint.history

theorem run_statePath {s : System} (h : s.Begins) (moves : List Move) :
    (s.run moves).StatePath := by
  have hr := run_chronicle h moves
  have ha := run_attended h moves
  have H : Chronicle (s.run moves).endpoint.history := hr.grows
  have htold : ∀ x ∈ (s.run moves).callers, ∀ r, x.errand = .finished r →
      ∃ t, t <:+ (s.run moves).endpoint.history ∧ Tells x.call.op r (state t) := by
    intro x hx r hf
    obtain ⟨n, hn⟩ := List.mem_iff_getElem?.mp hx
    exact ha.told hn hf
  refine ⟨hr.state, H.documented_iff, H.documented_or_lapse, H.aborted_stays, H.stopped_stays,
    ?_, ?_, H.acted⟩
  · intro x hx hc hf
    obtain ⟨t, ht, htell⟩ := htold x hx _ hf
    have hst : state t = .aborted := htell.abort (by rw [hc]; rfl) rfl
    have := H.aborted_stays t _ ht (List.suffix_refl _) (Or.inl hst)
    rwa [hr.state] at this
  · intro hl x hx failover hc hf
    obtain ⟨t, ht, htell⟩ := htold x hx _ hf
    have hst : state t = .stopped := htell.stop (by rw [hc]; rfl) rfl
    have := H.stopped_stays hl t _ ht (List.suffix_refl _) (Or.inl hst)
    rwa [hr.state] at this

/-- A scheduler whose callback for the registration stops it and then misuses it. -/
def lapsing : System :=
  sample [.registered]
    [(.registered, [.call (.stop none) false, .raise (.raised "ContractViolation" none)])] []

/-- The moves up to the end of that callback. -/
def lapsingMoves : List Move :=
  [.call .start, .go (.caller 0), .go .dispatch, .go .dispatch, .go .dispatch, .go .dispatch,
    .go .dispatch, .arrive (.messages [.frameworkRegistered [102] [109]]), .go .dispatch,
    .go .dispatch, .go .dispatch, .go .dispatch]

theorem lapsing_statePath : lapsing.Begins ∧ (lapsing.run lapsingMoves).StatePath :=
  ⟨sample_begins _ _ _, run_statePath (sample_begins _ _ _) lapsingMoves⟩

/-- The stop succeeded, and yet the driver ends as aborted, and nobody aborted it. -/
theorem stop_lapses : lapsing.Begins ∧
    .acted "stop" (.ok (.status .stopped)) ∈ (lapsing.run lapsingMoves).endpoint.history ∧
    (lapsing.run lapsingMoves).driver.state = .aborted ∧
    ¬ Always Documented (lapsing.run lapsingMoves).endpoint.history := by
  have hdrop : (lapsing.run lapsingMoves).endpoint.history.drop 3 =
      .broke .registered (.raised "ContractViolation" none) ::
        (lapsing.run lapsingMoves).endpoint.history.drop 4 := rfl
  refine ⟨sample_begins _ _ _, ?_, rfl, ?_⟩
  · exact List.mem_of_getElem? (i := 4) rfl
  · have H : Chronicle (lapsing.run lapsingMoves).endpoint.history :=
      (run_chronicle (sample_begins _ _ _) lapsingMoves).grows
    refine H.not_documented_of_lapsed ⟨.registered, .raised "ContractViolation" none,
      (lapsing.run lapsingMoves).endpoint.history.drop 4, ?_, by decide, rfl⟩
    rw [← hdrop]
    exact List.drop_suffix 3 _

end System

end ClusterLink
