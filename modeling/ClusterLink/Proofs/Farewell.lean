/-
# The farewell

A scheduler that is stopped for good has its framework torn down by a last
message, the farewell. Of all moves only a stop accepts one: with the
failover left out, on an active driver that has an identifier, be it made by
a caller or by a callback (`System.Parts`, `System.farewells_of_not_parts`).

A driver that has an identifier was registered, so that it was running
(`System.run_registered`); while it is active it still is, and its transport
is connected. That is why the farewell never waits in the backlog. It leaves
the driver stopped, so that nothing follows it, and no other one can be
accepted.

Key definitions: `Message.isFarewell`, `History.farewells`, `System.Parts`,
`System.Farewell`.
Key theorems: `System.run_registered`, `System.farewells_of_not_parts`,
`System.step_parts`, `System.run_farewell`.
-/
import ClusterLink.Proofs.Fields
import ClusterLink.Proofs.Ruling

namespace ClusterLink

open History

/-- Whether the message has a framework torn down. -/
def Message.isFarewell : Message → Bool
  | unregisterFramework _ => true
  | _ => false

/-- The farewells that were accepted for sending. -/
def History.farewells (h : List Event) : List Message := (accepted h).filter Message.isFarewell

theorem History.farewells_append {h h' : List Event} {new : List Message}
    (hh : accepted h' = accepted h ++ new) :
    farewells h' = farewells h ++ new.filter Message.isFarewell := by
  rw [farewells, hh, List.filter_append]
  rfl

/-- Once the driver was running, it is running or was shut down. -/
theorem Chronicle.running_stays {h : List Event} (H : Chronicle h) :
    Stays (fun l => l = .running ∨ l.isShut = true) h := by
  refine stays_of_always (H.documented_or_lapse.mono fun v t _ hv l hl hst => ?_)
  rcases hv with hv | ⟨rfl, -⟩
  · rcases hv l hl with rfl | hstep
    · exact hst
    · refine Or.inr ?_
      rcases hst with hr | hs
      · rw [hr] at hstep
        cases hstep <;> rfl
      · exact hstep.isShut hs
  · obtain rfl : Lifecycle.aborted = l := Option.some.inj hl
    exact Or.inr rfl

namespace Endpoint

variable {e e' : Endpoint} {x : Message}

/-! ### Who accepts a farewell -/

/-- Of the regions, only a stop for good accepts a farewell. -/
theorem submits_farewell {r : Region} (hx : x ∈ e.submits r) (hf : x.isFarewell = true) :
    r = .stop false ∧ e.driver.state.isActive = true ∧ e.driver.frameworkId ≠ [] := by
  cases r with
  | stop failover =>
    rw [submits_stop] at hx
    by_cases ha : e.driver.state.isActive = true
    · rw [if_pos ha] at hx
      unfold Driver.farewell at hx
      cases hr : e.driver.role with
      | executor => simp [hr] at hx
      | scheduler =>
        by_cases hn : failover = true ∨ e.driver.frameworkId = []
        · simp [hr, hn] at hx
        · rw [not_or] at hn
          obtain rfl : failover = false := by simpa using hn.1
          exact ⟨rfl, ha, hn.2⟩
    · simp [ha] at hx
  | give c =>
    rw [submits_give] at hx
    split at hx
    · obtain rfl := List.mem_singleton.mp hx
      cases c <;> cases hf
    · cases hx
  | _ => cases hx

/-- What is sent again is no farewell, and no acknowledgement is one. -/
theorem retries_farewell {m : Message} (hx : x ∈ e.retries m) : x.isFarewell = false := by
  unfold retries at hx
  split at hx
  · obtain ⟨u, -, rfl⟩ := List.mem_map.mp hx
    rfl
  · cases hx

theorem overdue_farewell (hx : x ∈ e.overdue) : x.isFarewell = false := by
  unfold overdue at hx
  split at hx
  · obtain ⟨u, -, rfl⟩ := List.mem_map.mp hx
    rfl
  · cases hx

theorem acknowledges_farewell {m : Message} (hx : x ∈ e.acknowledges m) :
    x.isFarewell = false := by
  unfold acknowledges at hx
  split at hx
  · split at hx
    · obtain rfl := List.mem_singleton.mp hx
      rfl
    · cases hx
  · cases hx

theorem resumes_farewell {after : After} (hx : x ∈ e.resumes after) : x.isFarewell = false := by
  cases after with
  | message m rest => exact acknowledges_farewell hx
  | _ => cases hx

/-! ### A stop for good -/

/-- A scheduler with an identifier that is stopped for good hands the farewell over, and is then
stopped. -/
theorem stop_for_good (ha : e.driver.state.isActive = true) (hr : e.driver.role = .scheduler)
    (hf : e.driver.frameworkId ≠ []) : (e.stop false).2 =
      ((e.submit .farewell (.unregisterFramework e.driver.frameworkId)).become .stopped).note
        .stopped := by
  have hd : e.driver.state ≠ .destroyed := fun hd => by rw [hd] at ha; cases ha
  have hm : e.driver.farewell false = some (.unregisterFramework e.driver.frameworkId) := by
    simp [Driver.farewell, hr, hf]
  unfold stop
  rw [if_neg hd, if_neg (by simp [ha]), hm]

/-- What becomes of a message that is accepted while the transport is connected. -/
theorem submit_passed (why : Cause) (hc : e.driver.connected = true) (m : Message) :
    (e.submit why m).driver.backlog = e.driver.backlog ∧
      (e.driver.pendingError = none →
        ∃ ok, passed (e.submit why m).history = passed e.history ++ [(m, ok)]) ∧
      (e.driver.pendingError.isSome = true →
        passed (e.submit why m).history = passed e.history) := by
  have hc' : (e.record (.accepted why m)).driver.connected = true := hc
  have hsame : passed (e.record (.accepted why m)).history = passed e.history := by
    simp [record, Event.passed?]
  refine ⟨push_backlog hc' m, fun hp => ?_, fun hp => ?_⟩
  · obtain ⟨ok, h, -⟩ := push_passed hc' hp m
    exact ⟨ok, by rw [← hsame]; exact h⟩
  · have hw := push_withheld (e := e.record (.accepted why m)) hc' hp m
    have hn : passed ((e.record (.accepted why m)).note (.withheld m)).history =
        passed (e.record (.accepted why m)).history := by
      simp [note, record, Event.passed?]
    unfold submit
    rw [hw, hn, hsame]

/-! ### The connection of a running driver -/

theorem Turn.running_connected (h : Turn e e')
    (he : e.driver.state = .running → e.driver.connected = true)
    (hs : e'.driver.state = .running) : e'.driver.connected = true := by
  cases h with
  | deed h =>
    cases h with
    | submit why m h =>
      rw [submit_state] at hs
      exact (push_connected _ m).trans (he hs)
    | halt h hl => rcases hl with rfl | rfl <;> cases hs
    | withdraw h hc =>
      have hs : e.driver.state = .running := hs
      rw [hs] at h
      cases h
    | report | misuse => cases hs
    | _ => exact he hs
  | launch | release => cases hs

theorem enter_running_connected (hr : e.driver.state ≠ .running)
    (hs : e.enter.2.driver.state = .running) : e.enter.2.driver.connected = true := by
  rcases e.enter_cases with ⟨-, h⟩ | ⟨-, f, -, h⟩ | ⟨-, replyTo, -, h⟩
  · rw [h] at hs
    exact absurd hs hr
  · rw [h]
  · obtain ⟨b, p, hd⟩ := e.flush_driver replyTo
    rw [h]
    show (e.flush replyTo).driver.connected = true
    rw [hd]

/-! ### What waits -/

/-- Whatever waits did so before, or was accepted since. -/
def Waits (e e' : Endpoint) : Prop :=
  ∃ new, accepted e'.history = accepted e.history ++ new ∧
    ∀ x ∈ e'.driver.backlog, x ∈ e.driver.backlog ∨ x ∈ new

theorem Waits.of_eq (hh : accepted e'.history = accepted e.history)
    (hb : ∀ x ∈ e'.driver.backlog, x ∈ e.driver.backlog) : Waits e e' :=
  ⟨[], hh.trans (List.append_nil _).symm, fun x hx => Or.inl (hb x hx)⟩

theorem Waits.trans {e'' : Endpoint} (h : Waits e e') (h' : Waits e' e'') : Waits e e'' := by
  obtain ⟨new, hh, hb⟩ := h
  obtain ⟨new', hh', hb'⟩ := h'
  refine ⟨new ++ new', by rw [hh', hh, List.append_assoc], fun x hx => ?_⟩
  rcases hb' x hx with hx | hx
  · rcases hb x hx with hx | hx
    · exact Or.inl hx
    · exact Or.inr (List.mem_append_left _ hx)
  · exact Or.inr (List.mem_append_right _ hx)

theorem push_waits (e : Endpoint) (m : Message) :
    ∀ x ∈ (e.push m).driver.backlog, x ∈ e.driver.backlog ∨ x = m := by
  intro x hx
  by_cases hc : e.driver.connected = true
  · rw [push_backlog hc] at hx
    exact Or.inl hx
  · rw [push_of_not_connected (by simpa using hc)] at hx
    rcases List.mem_append.mp hx with hx | hx
    · exact Or.inl hx
    · exact Or.inr (List.mem_singleton.mp hx)

theorem Turn.waits (h : Turn e e') : Waits e e' := by
  cases h with
  | deed h =>
    cases h with
    | submit why m h =>
      refine ⟨[m], submit_accepted e why m, fun x hx => ?_⟩
      rcases push_waits (e.record (.accepted why m)) m x hx with hx | rfl
      · exact Or.inl hx
      · exact Or.inr (List.mem_singleton_self x)
    | aside h => exact .of_eq (by simp [record, Event.isAside.accepted? h]) fun _ => id
    | withdraw => exact .of_eq rfl fun x hx => by cases hx
    | halt | begin | report | act | fall | misuse =>
      exact .of_eq (by simp [become, note, record, Event.accepted?]) fun _ => id
    | _ => exact .of_eq rfl fun _ => id
  | launch => exact .of_eq (by simp [Endpoint.launch, become, record, Event.accepted?]) fun _ => id
  | release =>
    exact .of_eq (by simp [Endpoint.release, become, record, Event.accepted?])
      fun x hx => by cases hx

theorem Turns.waits (h : Turns e e') : Waits e e' := by
  induction h with
  | refl => exact .of_eq rfl fun _ => id
  | tail _ ht ih => exact ih.trans ht.waits

/-- With the join nothing is put into the backlog. -/
theorem enter_waits (e : Endpoint) : Waits e e.enter.2 := by
  refine .of_eq e.enter_accepted fun x hx => ?_
  rcases e.enter_cases with ⟨-, h⟩ | ⟨-, f, -, h⟩ | ⟨-, replyTo, -, h⟩
  · rw [h] at hx
    cases hx
  · rw [h] at hx
    exact hx
  · rw [h] at hx
    have hx : x ∈ (e.flush replyTo).driver.backlog := hx
    rw [flush_backlog] at hx
    cases hx

end Endpoint

namespace System

variable {s : System} {m : Move} {x : Message}

/-! ### Moves -/

/-- With the move the driver is stopped for good, by a caller or by a callback, who is told that it
stopped. -/
inductive Parts (s : System) : Move → Prop
  | caller {n : Nat} (he : s.errandOf n = some (.region (.stop false)))
    (hl : s.isLocked = false) (hr : (s.step (.go (.caller n))).errandOf n =
      some (.finished (.ok (.status .stopped)))) : Parts s (.go (.caller n))
  | callback {frame : Frame} {c : Call} {passOn : Bool} {rest : List Action}
    (hp : s.phase = .calling frame) (hh : frame.held = false)
    (ha : frame.actions = .call c passOn :: rest)
    (he : c.errand s.surface s.driver s.find = .region (.stop false))
    (hr : (s.callInside c).1 = .ok (.status .stopped)) : Parts s (.go .dispatch)

/-- A stop is granted to an active driver. -/
theorem region_stop (e : Endpoint) (inside failover : Bool) :
    (e.region inside (.stop failover)).1 = .finished (.ok (.status .stopped)) ↔
      e.driver.state.isActive = true := by
  have h := (e.stop_accepts failover).1
  rw [← h]
  show Errand.finished ((e.stop failover).1.map .status) = _ ↔ _
  cases (e.stop failover).1 with
  | error f => simp [Except.map]
  | ok st => simp [Except.map]

/-- The driver parts if one of its callers stops an active driver for good. -/
theorem parts_caller {n : Nat} (he : s.errandOf n = some (.region (.stop false)))
    (hl : s.isLocked = false) (ha : s.driver.state.isActive = true) :
    s.Parts (.go (.caller n)) := by
  refine .caller he hl ?_
  rw [step_outcome he hl, ← s.endpoint.region_outcome]
  exact congrArg some ((region_stop s.endpoint false false).mpr ha)

/-- So it does if one of its callbacks does. -/
theorem parts_callback {frame : Frame} {c : Call} {passOn : Bool} {rest : List Action}
    (hs : s.Sound) (hp : s.phase = .calling frame) (hh : frame.held = false)
    (hacts : frame.actions = .call c passOn :: rest)
    (he : c.errand s.surface s.driver s.find = .region (.stop false))
    (ha : s.driver.state.isActive = true) : s.Parts (.go .dispatch) := by
  refine .callback hp hh hacts he ?_
  rw [callInside_region hs hp he, ← s.endpoint.region_outcome,
    (region_stop s.endpoint true false).mpr ha]
  rfl

/-- What the dispatch thread accepts is a farewell only if a callback stops the driver for good. -/
theorem threadYields_farewell (hs : s.Sound) {new : List Message} (hy : s.ThreadYields new)
    (hx : x ∈ new) (hf : x.isFarewell = true) :
    s.Parts (.go .dispatch) ∧ s.driver.frameworkId ≠ [] := by
  have hnot : x.isFarewell = false →
      s.Parts (.go .dispatch) ∧ s.driver.frameworkId ≠ [] := fun hn =>
    absurd (hn.symm.trans hf) Bool.noConfusion
  unfold ThreadYields at hy
  split at hy
  · rename_i frame hp
    split at hy
    · rw [hy] at hx; cases hx
    rename_i hh
    have hh : frame.held = false := by simpa using hh
    rw [hy] at hx
    unfold actYields at hx
    split at hx
    · exact hnot (Endpoint.resumes_farewell hx)
    · rename_i c passOn rest hacts
      cases he : c.errand s.surface s.driver s.find with
      | region r =>
        rw [he] at hx
        obtain ⟨rfl, ha, hid⟩ := Endpoint.submits_farewell hx hf
        exact ⟨parts_callback hs hp hh hacts he ha, hid⟩
      | _ => rw [he] at hx; cases hx
    · cases hx
  · split at hy
    · rw [hy] at hx
      rcases List.mem_append.mp hx with hx | hx
      · exact hnot (Endpoint.retries_farewell hx)
      · split at hx
        · cases hx
        · exact hnot (Endpoint.acknowledges_farewell hx)
    · rw [hy] at hx; cases hx
  · split at hy
    · exact hnot (Endpoint.overdue_farewell (hy.1.subset hx))
    · rw [hy] at hx; cases hx
  · rw [hy] at hx; cases hx

/-- A move accepts a farewell only if with it the driver is stopped for good. -/
theorem yields_farewell (hs : s.Sound) {new : List Message} (hy : s.Yields m new)
    (hx : x ∈ new) (hf : x.isFarewell = true) : s.Parts m ∧ s.driver.frameworkId ≠ [] := by
  unfold Yields at hy
  split at hy
  · exact threadYields_farewell hs hy hx hf
  · rename_i n
    split at hy
    · rename_i r he
      split at hy
      · rw [hy] at hx; cases hx
      · rename_i hl
        rw [hy.1] at hx
        obtain ⟨rfl, ha, hid⟩ := Endpoint.submits_farewell hx hf
        exact ⟨parts_caller he (by simpa using hl) ha, hid⟩
    · rw [hy] at hx; cases hx
  · rw [hy] at hx; cases hx

/-- No other move accepts a farewell. -/
theorem farewells_of_not_parts (hs : s.Sound)
    (hn : ¬ (s.Parts m ∧ s.driver.frameworkId ≠ [])) :
    farewells (s.step m).endpoint.history = farewells s.endpoint.history := by
  obtain ⟨new, hy, hacc⟩ := step_accepts hs m
  have hnone : new.filter Message.isFarewell = [] := by
    refine List.filter_eq_nil_iff.mpr fun x hx hf => hn ?_
    exact yields_farewell hs hy hx hf
  rw [farewells_append hacc, hnone, List.append_nil]

/-- The move with which the driver is stopped for good is that stop, and its answer. -/
theorem step_parts (hs : s.Sound) (hp : s.Parts m) : s.driver.state.isActive = true ∧
    ∃ v : Event, v.passed? = none ∧ v.accepted? = none ∧
      (s.step m).endpoint = (s.endpoint.stop false).2.record v := by
  cases hp with
  | @caller n he hl hr =>
    rw [step_outcome he hl, ← s.endpoint.region_outcome] at hr
    have hr := Option.some.inj hr
    refine ⟨(region_stop _ _ _).mp hr, .returned n (.ok (.status .stopped)), rfl, rfl, ?_⟩
    rw [step_caller_region he hl, hr, launch_endpoint]
    rfl
  | @callback frame c passOn rest hph hh hacts he hr =>
    have hstep : s.step (.go .dispatch) = s.act frame := by
      simp [step, need, dispatchNeed, hph, hh, provides, advance, dispatch]
    have hcall := callInside_region hs hph he
    have hend : (s.callInside c).2.endpoint = (s.endpoint.stop false).2 := by rw [hcall]; rfl
    refine ⟨?_, .acted c.op (.ok (.status .stopped)), rfl, rfl, ?_⟩
    · rw [hcall, ← s.endpoint.region_outcome] at hr
      refine (region_stop s.endpoint true false).mp ?_
      have hfin : (s.endpoint.region true (.stop false)).1 =
          .finished ((s.endpoint.stop false).1.map .status) := rfl
      rw [hfin] at hr ⊢
      exact congrArg Errand.finished hr
    · rw [hstep]
      unfold act
      rw [hacts]
      dsimp only
      rw [hr]
      dsimp only
      rw [← hend]
      rfl

/-! ### Runs -/

/-- A driver that is running is connected. -/
theorem run_running_connected (h : s.Begins) (moves : List Move)
    (hr : (s.run moves).driver.state = .running) : (s.run moves).driver.connected = true := by
  refine run_keeps (P := fun e => e.driver.state = .running → e.driver.connected = true)
    (fun _ _ ht he => ht.running_connected he)
    (fun _ hs _ => Endpoint.enter_running_connected hs.2) h.sound (fun hs => ?_) moves hr
  obtain ⟨a, remote, ha⟩ := h.made
  exact absurd ((Application.driver_new ha).state.symm.trans hs) Lifecycle.noConfusion

/-- A scheduler that is active and has an identifier is running, and connected. -/
theorem run_registered (h : s.Begins) (hr : s.driver.role = .scheduler) (moves : List Move)
    (ha : (s.run moves).driver.state.isActive = true)
    (hf : (s.run moves).driver.frameworkId ≠ []) :
    (s.run moves).driver.state = .running ∧ (s.run moves).driver.connected = true := by
  have hrec := run_chronicle h moves
  have H : Chronicle (s.run moves).endpoint.history := hrec.grows
  have hmem : .became .running ∈ (s.run moves).endpoint.history := by
    by_contra hn
    exact hf (frameworkId_of_never (run_acknowledges h hr moves) hn)
  obtain ⟨later, earlier, heq⟩ := List.append_of_mem hmem
  have hsuf : .became .running :: earlier <:+ (s.run moves).endpoint.history :=
    ⟨later, heq.symm⟩
  have hst := H.running_stays _ _ hsuf (List.suffix_refl _) (Or.inl rfl)
  rw [hrec.state] at hst
  have hrun : (s.run moves).driver.state = .running := by
    rcases hst with hst | hst
    · exact hst
    · exact absurd ((Lifecycle.not_active_of_isShut hst).symm.trans ha) Bool.noConfusion
  exact ⟨hrun, run_running_connected h moves hrun⟩

/-- Whatever waits after a move did so before, or was accepted with it. -/
theorem step_waiting (hs : s.Sound) (m : Move) : Endpoint.Waits s.endpoint (s.step m).endpoint := by
  by_cases hj : s.joins m = true
  · exact s.endpoint.enter_waits.trans (step_joins hs hj).1.turns.waits
  · exact (step_turns hs (by simpa using hj)).waits

/-- What a stop for good does to a scheduler that has an identifier. -/
structure Parted (s s' : System) : Prop where
  accepts : accepted s'.endpoint.history =
    accepted s.endpoint.history ++ [.unregisterFramework (registeredAs s.endpoint.history)]
  /-- The farewell does not wait. -/
  backlog : s'.driver.backlog = s.driver.backlog
  /-- It is passed to the transport, unless an earlier send failed. -/
  passes : s.driver.pendingError = none → ∃ ok, passed s'.endpoint.history =
    passed s.endpoint.history ++ [(.unregisterFramework (registeredAs s.endpoint.history), ok)]
  withholds : s.driver.pendingError.isSome = true →
    passed s'.endpoint.history = passed s.endpoint.history
  state : s'.driver.state = .stopped

theorem run_parted (h : s.Begins) (hr : s.driver.role = .scheduler) (moves : List Move)
    (hp : (s.run moves).Parts m) (hf : (s.run moves).driver.frameworkId ≠ []) :
    (s.run moves).Parted ((s.run moves).step m) := by
  obtain ⟨ha, v, hv, hv', he⟩ := step_parts (run_sound h.sound moves) hp
  have hrole : (s.run moves).driver.role = .scheduler := (run_role h.sound moves).trans hr
  have hcon := (run_registered h hr moves ha hf).2
  have hid : (s.run moves).driver.frameworkId = registeredAs (s.run moves).endpoint.history :=
    (run_acknowledges h hr moves).owes.registered
  rw [Endpoint.stop_for_good ha hrole hf] at he
  obtain ⟨hb, hpass, hhold⟩ := Endpoint.submit_passed .farewell hcon
    (.unregisterFramework (s.run moves).driver.frameworkId)
  have hsame : passed ((s.run moves).step m).endpoint.history =
      passed ((s.run moves).endpoint.submit .farewell
        (.unregisterFramework (s.run moves).driver.frameworkId)).history := by
    rw [he]
    show passed (v :: .noted .stopped :: .became .stopped :: _) = _
    rw [passed_cons, hv, passed_cons, passed_cons]
    simp [Event.passed?]
  refine ⟨?_, ?_, fun hn => ?_, fun hs => hsame.trans (hhold hs), ?_⟩
  · rw [he]
    show accepted (v :: Endpoint.history _) = _
    rw [accepted_cons, hv', Endpoint.note_accepted, Endpoint.become_accepted,
      Endpoint.submit_accepted, ← hid]
    exact List.append_nil _
  · unfold driver
    rw [he]
    exact hb
  · obtain ⟨ok, hok⟩ := hpass hn
    exact ⟨ok, by rw [hsame, hok, ← hid]⟩
  · unfold driver
    rw [he]
    rfl

/-- A farewell is accepted once, after which the driver is not active any more, and none waits. -/
theorem run_farewells (h : s.Begins) (hr : s.driver.role = .scheduler) (moves : List Move) :
    (farewells (s.run moves).endpoint.history = [] ∨
      (farewells (s.run moves).endpoint.history).length = 1 ∧
        (s.run moves).driver.state.isShut = true) ∧
      ∀ x ∈ (s.run moves).driver.backlog, x.isFarewell = false := by
  -- the last move is the one that may accept a farewell
  induction moves using List.reverseRecOn with
  | nil =>
    obtain ⟨a, remote, ha⟩ := h.made
    refine ⟨Or.inl ?_, fun x hx => ?_⟩
    · show farewells s.endpoint.history = []
      rw [h.history]
      rfl
    · have hb : s.driver.backlog = [] := (Application.driver_new ha).backlog
      rw [show (s.run []).driver.backlog = [] from hb] at hx
      cases hx
  | append_singleton moves m ih =>
    obtain ⟨honce, hwait⟩ := ih
    have hs := run_sound h.sound moves
    rw [run_concat]
    by_cases hp : (s.run moves).Parts m ∧ (s.run moves).driver.frameworkId ≠ []
    · have hparted := run_parted h hr moves hp.1 hp.2
      have hact := (step_parts hs hp.1).1
      have hnone : farewells (s.run moves).endpoint.history = [] := honce.resolve_right fun hx =>
        absurd ((Lifecycle.not_active_of_isShut hx.2).symm.trans hact) Bool.noConfusion
      refine ⟨Or.inr ⟨?_, ?_⟩, fun x hx => hwait x (hparted.backlog ▸ hx)⟩
      · rw [farewells_append hparted.accepts, hnone]
        rfl
      · rw [hparted.state]
        rfl
    · rw [farewells_of_not_parts hs hp]
      refine ⟨honce.imp_right (And.imp_right (step_isShut hs m)), fun x hx => ?_⟩
      obtain ⟨new, hacc, hb⟩ := step_waiting hs m
      rcases hb x hx with hx | hx
      · exact hwait x hx
      · by_contra hx'
        obtain ⟨new', hy, hacc'⟩ := step_accepts hs m
        obtain rfl : new = new' := List.append_cancel_left (hacc.symm.trans hacc')
        exact hp (yields_farewell hs hy hx (by simpa using hx'))

/-- The farewell of a scheduler, as it stands in a run. -/
structure Farewell (s : System) : Prop where
  once : (farewells s.endpoint.history).length ≤ 1
  waiting : ∀ x ∈ s.driver.backlog, x.isFarewell = false
  /-- A stop for good accepts it if the driver has an identifier, and that is the one that the
  framework was last registered with. -/
  parts : ∀ {m}, s.Parts m → s.driver.frameworkId ≠ [] → s.Parted (s.step m)
  identified : s.driver.frameworkId = registeredAs s.endpoint.history
  /-- Nothing else accepts it. -/
  others : ∀ {m}, ¬ (s.Parts m ∧ s.driver.frameworkId ≠ []) →
    farewells (s.step m).endpoint.history = farewells s.endpoint.history
  /-- After it nothing is passed to the transport any more. -/
  last : farewells s.endpoint.history ≠ [] → ∀ more : List Move,
    passed (s.run more).endpoint.history = passed s.endpoint.history

/-- In every run of a scheduler's driver the farewell is accepted once at most, by a stop for good,
and is the last message that is passed to the transport. -/
theorem run_farewell (h : s.Begins) (hr : s.driver.role = .scheduler) (moves : List Move) :
    (s.run moves).Farewell := by
  have hs := run_sound h.sound moves
  have hrec := run_chronicle h moves
  obtain ⟨honce, hwait⟩ := run_farewells h hr moves
  refine ⟨?_, hwait, fun hp hf => run_parted h hr moves hp hf,
    (run_acknowledges h hr moves).owes.registered, fun hp => farewells_of_not_parts hs hp,
    fun hne more => ?_⟩
  · rcases honce with hnil | ⟨hl, -⟩
    · rw [hnil]
      exact Nat.zero_le 1
    · exact hl.le
  · obtain ⟨-, hsh⟩ := honce.resolve_left hne
    have hgrow := run_recorded hs ⟨.rest, hrec.state⟩ more
    exact (hgrow.grows.silent (by rw [hrec.state]; exact hsh)).2.1

/-- A scheduler whose callback for the registration stops it for good. -/
def parting : System := sample [.registered] [(.registered, [.call (.stop none) false])] []

/-- The scheduler is registered. -/
def partingMoves : List Move :=
  [.call .start, .go (.caller 0), .go .dispatch, .go .dispatch, .go .dispatch, .go .dispatch,
    .go .dispatch, .arrive (.messages [.frameworkRegistered [7] [8]]), .go .dispatch,
    .go .dispatch, .go .dispatch]

theorem parting_farewell : parting.Begins ∧ parting.driver.role = .scheduler ∧
    farewells (parting.run partingMoves).endpoint.history = [.unregisterFramework [7]] ∧
    passed (parting.run partingMoves).endpoint.history =
      [(.registerFramework [102] "a", true), (.unregisterFramework [7], true)] ∧
    (parting.run partingMoves).Farewell :=
  ⟨sample_begins _ _ _, rfl, rfl, rfl,
    run_farewell (s := parting) (sample_begins _ _ _) rfl partingMoves⟩

end System

end ClusterLink
