/-
# Reports of status updates

Who issues status updates, and what he is told. A call that is to report a
status update fails at once, or is left with the region that reports it, and
no other call is left with that one (`CallOf.Reports`). So the updates that a
move issues (`System.issuesWith`) are those of the calls that are answered
with the move that the driver runs.

Key definitions: `CallOf.Reports`, `System.issuesWith`, `System.Answers`,
`System.Reporting`.
Key theorems: `System.step_issued`, `System.answers_iff`,
`System.exists_answers`, `System.step_reporting`.
-/
import ClusterLink.Proofs.Outstanding
import ClusterLink.Proofs.Provenance

namespace ClusterLink

open History

/-! ### What a call is left with -/

namespace Order

theorem mapArguments_updateStatus {α β : Type} {f : α → Except Failure β} {o : Order α} {b : β}
    (h : o.mapArguments f = .ok (.updateStatus b)) : ∃ a, o = .updateStatus a := by
  cases o with
  | updateStatus a => exact ⟨a, rfl⟩
  | _ =>
    simp only [mapArguments, bind, Except.bind] at h
    repeat' split at h
    all_goals cases h

theorem readyDirect_updateStatus {o : Order Argument} {data : Bytes}
    (h : o.readyDirect = .ok (.updateStatus data)) : ∃ a, o = .updateStatus a := by
  cases o with
  | updateStatus a => exact ⟨a, rfl⟩
  | _ =>
    simp only [readyDirect, bind, Except.bind] at h
    repeat' split at h
    all_goals cases h

/-- Only the command for it becomes one that updates a status. -/
theorem ready_updateStatus {o : Order Argument} {surface : Surface} {data : Bytes}
    (h : o.ready surface = .ok (.command (.updateStatus data))) : ∃ a, o = .updateStatus a := by
  have hdirect : o.readyDirect.map Readied.command = .ok (.command (.updateStatus data)) →
      ∃ a, o = .updateStatus a := by
    intro h
    cases hr : o.readyDirect with
    | error f => rw [hr] at h; cases h
    | ok c =>
      rw [hr] at h
      obtain rfl := Readied.command.inj (Except.ok.inj h)
      exact readyDirect_updateStatus hr
  cases surface with
  | direct => exact hdirect h
  | flat =>
    cases o with
    | launchTasks | requestResources =>
      simp only [ready, readyFlat, bind, Except.bind] at h
      repeat' split at h
      all_goals cases h
    | _ => exact hdirect h

/-- The command that updates a status is given if its argument can be read. -/
theorem ready_of_updateStatus (a : Argument) (surface : Surface) :
    (Order.updateStatus a).ready surface =
      a.copyIn.map fun data => .command (.updateStatus data) := by
  cases surface <;> cases h : a.copyIn <;>
    simp [ready, readyFlat, readyDirect, h, bind, Except.bind, Except.map, pure, Except.pure]

end Order

namespace CallOf

/-- Of the calls, exactly those that report a status update are left with that. -/
structure Reports (c : Call) (errand : Errand) : Prop where
  asked : ∀ {data}, errand = .region (.give (.updateStatus data)) →
    ∃ a, c = .order (.updateStatus a)
  gives : ∀ {a}, c = .order (.updateStatus a) →
    (∃ data, errand = .region (.give (.updateStatus data))) ∨ ∃ r, errand = .finished r

theorem reports_finished (c : Call) (r : Except Failure Answer) : c.Reports (.finished r) :=
  ⟨fun h => Errand.noConfusion h, fun _ => Or.inr ⟨r, rfl⟩⟩

variable {surface : Surface} {d : Driver} {find : Int → Except Failure Argument}

/-- The arguments of a command are looked up, and nothing else changes. -/
theorem prepared_order {c : Call} {o : Order Argument}
    (h : c.prepared surface d.role find = .ok (.order o)) :
    ∃ k, c = .order k ∧ k.mapArguments (Operand.argument find) = .ok o := by
  have hc : c.arguments find = .ok (.order o) := by
    cases ha : c.arguments find with
    | error f => simp [prepared, ha, bind, Except.bind] at h
    | ok c' =>
      simp only [prepared, ha, bind, Except.bind] at h
      split at h
      · cases h
      · exact h
  cases c with
  | order k =>
    refine ⟨k, rfl, ?_⟩
    cases hm : k.mapArguments (Operand.argument find) with
    | error f => simp [arguments, hm, Except.map] at hc
    | ok o' =>
      simp only [arguments, hm, Except.map] at hc
      rw [CallOf.order.inj (Except.ok.inj hc)]
  | _ => cases hc

/-- What becomes of a call that is to report a status update: it fails at once, or reports. -/
theorem errand_updateStatus (surface : Surface) (d : Driver)
    (find : Int → Except Failure Argument) (a : Kept) :
    (∃ f, (order (.updateStatus a) : Call).errand surface d find = .finished (.error f)) ∨
      ∃ data, (order (.updateStatus a) : Call).errand surface d find =
        .region (.give (.updateStatus data)) := by
  unfold errand
  split
  · rename_i c' h
    have hc : ∃ a', c' = .order (.updateStatus a') := by
      unfold prepared arguments at h
      cases ha : Operand.argument find a with
      | error f => simp [Order.mapArguments, ha, bind, Except.bind, Except.map] at h
      | ok a' =>
        simp only [Order.mapArguments, ha, bind, Except.bind, Except.map, pure, Except.pure] at h
        split at h
        · cases h
        · exact ⟨a', (Except.ok.inj h).symm⟩
    obtain ⟨a', rfl⟩ := hc
    unfold work
    dsimp only
    rw [Order.ready_of_updateStatus]
    cases a'.copyIn with
    | error f => exact Or.inl ⟨f, rfl⟩
    | ok data => exact Or.inr ⟨data, rfl⟩
  · exact Or.inl ⟨_, rfl⟩

theorem errand_reports (c : Call) : c.Reports (c.errand surface d find) := by
  constructor
  · intro data h
    unfold errand at h
    split at h
    · rename_i c' hp
      cases c' with
      | order o =>
        have ho : ∃ a, o = .updateStatus a := by
          simp only [work] at h
          split at h
          · rename_i cmd hcmd
            obtain rfl := Region.give.inj (Errand.region.inj h)
            exact Order.ready_updateStatus hcmd
          · cases h
          · cases h
        obtain ⟨a, rfl⟩ := ho
        obtain ⟨k, rfl, hk⟩ := prepared_order hp
        obtain ⟨b, rfl⟩ := Order.mapArguments_updateStatus hk
        exact ⟨b, rfl⟩
      | read r => cases r <;> cases h
      | _ => cases h
    · cases h
  · rintro a rfl
    rcases errand_updateStatus surface d find a with
      ⟨f, h⟩ | ⟨data, h⟩
    · exact Or.inr ⟨_, h⟩
    · exact Or.inl ⟨data, h⟩

end CallOf

namespace Endpoint

/-- A region leaves no status update to be reported. -/
theorem region_report? (e : Endpoint) (inside : Bool) (r : Region) :
    (e.region inside r).1.report? = none := by
  cases r with
  | start thenJoin =>
    simp only [region]
    split
    · split <;> rfl
    · rfl
  | join =>
    simp only [region]
    repeat' split
    all_goals rfl
  | condemn =>
    simp only [region]
    repeat' split
    all_goals rfl
  | turnDown op =>
    simp only [region]
    split <;> rfl
  | _ => rfl

/-- A command is answered that the driver runs exactly if it is accepted. -/
theorem order_running (e : Endpoint) (c : Command) :
    (e.order c).1.map Answer.status = .ok (.status .running) ↔
      e.driver.state.isActive = true := by
  unfold Endpoint.order
  split
  · rename_i hd
    rw [hd]
    simp [Except.map, Lifecycle.isActive]
  split
  · rename_i ha
    rw [ha]
    simp [Except.map]
  · rename_i ha
    have ha : e.driver.state.isActive = true := by simpa using ha
    simp [Except.map, ha]

end Endpoint

namespace System

/-! ### What is issued -/

/-- What a move issues: the update that is reported, if the driver is active. -/
def issuesWith (s : System) (m : Move) : List (Bytes × Bytes) :=
  match s.report? m with
  | some status =>
    if s.driver.state.isActive then
      [(s.endpoint.surroundings.ids (s.endpoint.surroundings.drawn + 1), status)]
    else []
  | none => []

theorem issuesWith_ne_nil {s : System} {m : Move} :
    s.issuesWith m ≠ [] ↔
      (∃ status, s.report? m = some status) ∧ s.driver.state.isActive = true := by
  unfold issuesWith
  cases s.report? m with
  | none => simp
  | some status => simp

/-- Nothing that is delivered issues a status update. -/
theorem deliveries_issued (s : System) (m : Move) :
    (s.deliveries m).filterMap Event.issued? = [] := by
  have hcalls : ∀ x, (s.driver.calls x).filterMap Event.issued? = [] := by
    intro x
    rcases s.driver.calls_cases x with hc | ⟨slot, l, args, hc⟩ <;> rw [hc] <;> rfl
  rcases s.deliveries_cases m with ht | ⟨x, rest, -, -, -, ht⟩ | ⟨f, -, -, -, ht⟩ |
    ⟨v, -, hv, ht⟩
  · rw [ht]; rfl
  · rw [ht, List.filterMap_cons_none rfl, hcalls]
  · rw [ht, ← Driver.calls_error, hcalls]
  · rw [ht, List.filterMap_cons_none hv.issued?]; rfl

theorem step_issued {s : System} (h : s.Sound) (m : Move) :
    issued (s.step m).endpoint.history = issued s.endpoint.history ++ s.issuesWith m := by
  have ht := step_tidings h m
  have hi : (s.endpoint.issues (s.report? m)).filterMap Event.issued? = s.issuesWith m := by
    unfold Endpoint.issues issuesWith
    cases s.report? m with
    | none => rfl
    | some status =>
      dsimp only
      split <;> rfl
  rw [issued_eq, issued_eq, ht, List.filterMap_append, tells, List.filterMap_append,
    deliveries_issued, hi, List.nil_append]

/-! ### Callers -/

/-- Every caller of a call is left with what suits it. -/
def Reporting (s : System) : Prop :=
  ∀ (n : Nat) (x : Caller), s.callers[n]? = some x → x.call.Reports x.errand

theorem step_reporting {s : System} (h : s.Sound) (hr : s.Reporting) (m : Move) :
    (s.step m).Reporting := by
  intro n x' hx'
  cases step_served h hx' with
  | left hx => exact hr _ _ hx
  | came hm hn _ _ _ _ =>
    subst hm hn
    obtain ⟨-, ⟨⟨r, hr⟩, -⟩ | hr⟩ := addCaller_errand hx'
    · rw [hr]
      exact CallOf.reports_finished _ _
    · rw [hr]
      exact CallOf.errand_reports _
  | @region x r _ hx hreg _ hc he _ =>
    rw [hc, he]
    have hx := hr _ _ hx
    constructor
    · intro data h
      have hnone := s.endpoint.region_report? false r
      rw [h] at hnone
      cases hnone
    · intro a ha
      rcases hx.gives ha with ⟨data, h⟩ | ⟨r', h⟩
      · obtain rfl := Errand.region.inj (hreg.symm.trans h)
        exact Or.inr ⟨_, rfl⟩
      · rw [hreg] at h
        cases h
  | @waited x _ hx hw _ hc he =>
    rw [hc, he]
    have hx := hr _ _ hx
    rcases hw with hw | hw
    · rw [hw]
      exact CallOf.reports_finished _ _
    · rw [hw] at hx ⊢
      refine ⟨fun h => Region.noConfusion (Errand.region.inj h), fun ha => ?_⟩
      rcases hx.gives ha with ⟨data, h⟩ | ⟨r, h⟩ <;> cases h

theorem Begins.reporting {s : System} (h : s.Begins) : s.Reporting := by
  intro n x hx
  simp [h.callers] at hx

/-! ### Answers -/

/-- A call is answered with a move: one that a callback makes, one of a caller whose turn it is, or
one that fails at once. -/
def Answers (s : System) (m : Move) (c : Call) (r : Except Failure Answer) : Prop :=
  match m with
  | .go .dispatch => ∃ frame passOn actions, s.phase = .calling frame ∧ frame.held = false ∧
      frame.actions = .call c passOn :: actions ∧ (s.callInside c).1 = r
  | .go (.caller n) => ∃ x region, s.callers[n]? = some x ∧ x.call = c ∧
      x.errand = .region region ∧ s.isLocked = false ∧ (s.step m).errandOf n = some (.finished r)
  | .call c' => c' = c ∧ (s.step m).errandOf s.callers.length = some (.finished r)
  | _ => False

/-- A callback that reports a status update is answered what the driver answers. -/
theorem callInside_report {s : System} {c : Call} {status : Bytes}
    (h : c.errand s.surface s.driver s.find = .region (.give (.updateStatus status))) :
    (s.callInside c).1 = (s.endpoint.order (.updateStatus status)).1.map Answer.status := by
  cases c with
  | ask i q => cases h
  | _ => simp only [callInside, h]; rfl

/-- A call that reports a status update on the dispatch thread is made by a callback. -/
theorem report_calling {s : System} {status : Bytes}
    (hr : s.report? (.go .dispatch) = some status) : ∃ frame c passOn actions,
      s.phase = .calling frame ∧ frame.held = false ∧ frame.actions = .call c passOn :: actions ∧
        c.errand s.surface s.driver s.find = .region (.give (.updateStatus status)) := by
  cases hp : s.phase with
  | calling frame =>
    simp only [report?, hp] at hr
    split at hr
    · cases hr
    · rename_i hheld
      unfold actReport? at hr
      split at hr
      · rename_i c passOn actions hact
        exact ⟨frame, c, passOn, actions, rfl, by simpa using hheld, hact,
          Errand.report?_eq_some.mp hr⟩
      · cases hr
  | _ => simp [report?, hp] at hr

theorem report_caller {s : System} {n : Nat} {status : Bytes} :
    s.report? (.go (.caller n)) = some status ↔
      s.isLocked = false ∧ s.errandOf n = some (.region (.give (.updateStatus status))) := by
  simp only [report?]
  constructor
  · intro hr
    split at hr
    · cases hr
    · rename_i hl
      obtain ⟨errand, he, hrep⟩ := Option.bind_eq_some_iff.mp hr
      exact ⟨by simpa using hl, by rw [he, Errand.report?_eq_some.mp hrep]⟩
  · rintro ⟨hl, he⟩
    simp [hl, he, Errand.report?, Region.report?]

/-- A caller whose turn it is to report a status update is answered what the driver answers. -/
theorem caller_report {s : System} (h : s.Sound) {n : Nat} {status : Bytes}
    (hr : s.report? (.go (.caller n)) = some status) :
    (s.step (.go (.caller n))).errandOf n = some (.finished
      ((s.endpoint.order (.updateStatus status)).1.map Answer.status)) := by
  obtain ⟨hl, he⟩ := report_caller.mp hr
  obtain ⟨new, hy, -⟩ := step_accepts h (.go (.caller n))
  simp only [Yields, he, hl, Bool.false_eq_true, if_false] at hy
  exact hy.2

/-- A call to report a status update is answered that the driver runs exactly if the update is
issued. -/
theorem answers_iff {s : System} (h : s.Sound) (hrep : s.Reporting) {m : Move} {a : Kept}
    {r : Except Failure Answer} (hans : s.Answers m (.order (.updateStatus a)) r) :
    r = .ok (.status .running) ↔ s.issuesWith m ≠ [] := by
  rw [issuesWith_ne_nil]
  cases m with
  | go t =>
    cases t with
    | dispatch =>
      obtain ⟨frame, passOn, actions, hp, hheld, hact, rfl⟩ := hans
      have hr : s.report? (.go .dispatch) =
          ((CallOf.order (.updateStatus a) : Call).errand s.surface s.driver s.find).report? := by
        simp [report?, hp, hheld, actReport?, hact]
      rcases CallOf.errand_updateStatus s.surface s.driver s.find a
        with ⟨f, he⟩ | ⟨data, he⟩
      · have hc : (s.callInside (.order (.updateStatus a))).1 = .error f := by
          simp only [callInside, he]; rfl
        rw [hr, he, hc]
        simp [Errand.report?]
      · rw [hr, he, callInside_report he, Endpoint.order_running]
        simp [Errand.report?, Region.report?]
    | caller n =>
      obtain ⟨x, region, hx, hc, hreg, hl, hans⟩ := hans
      have he : s.errandOf n = some x.errand := by simp [errandOf, hx]
      rcases (hrep _ _ hx).gives hc with ⟨data, h'⟩ | ⟨r', h'⟩
      · have hr := report_caller.mpr ⟨hl, he.trans (by rw [h'])⟩
        have hr' := caller_report h hr
        obtain rfl := Errand.finished.inj (Option.some.inj (hans.symm.trans hr'))
        rw [hr, Endpoint.order_running]
        simp
      · rw [hreg] at h'
        cases h'
  | call c =>
    obtain ⟨rfl, hans⟩ := hans
    have hcal : (s.step (.call (.order (.updateStatus a)))).errandOf s.callers.length =
        some ((CallOf.order (.updateStatus a) : Call).errand s.surface s.driver s.find) := by
      have hnew : ({ s with callers := s.callers ++ [Caller.mk (.order (.updateStatus a))
          ((CallOf.order (.updateStatus a) : Call).errand s.surface s.driver s.find)] } :
          System).errandOf s.callers.length =
            some ((CallOf.order (.updateStatus a) : Call).errand s.surface s.driver s.find) := by
        simp [errandOf]
      exact errandOf_assign _ hnew
    rw [hcal] at hans
    have hans := Option.some.inj hans
    rcases CallOf.errand_updateStatus s.surface s.driver s.find a
      with ⟨f, he⟩ | ⟨data, he⟩
    · obtain rfl := Errand.finished.inj (he.symm.trans hans)
      simp [report?]
    · rw [he] at hans
      cases hans
  | _ => exact hans.elim

/-- Whatever is issued with a move is issued by a call that is answered with it. -/
theorem exists_answers {s : System} (h : s.Sound) (hrep : s.Reporting) {m : Move}
    (hi : s.issuesWith m ≠ []) :
    ∃ a, s.Answers m (.order (.updateStatus a)) (.ok (.status .running)) := by
  obtain ⟨⟨status, hr⟩, ha⟩ := issuesWith_ne_nil.mp hi
  have hrun := (s.endpoint.order_running (.updateStatus status)).mpr ha
  cases m with
  | go t =>
    cases t with
    | dispatch =>
      obtain ⟨frame, c, passOn, actions, hp, hheld, hact, he⟩ := report_calling hr
      obtain ⟨a, rfl⟩ := (CallOf.errand_reports c).asked he
      exact ⟨a, frame, passOn, actions, hp, hheld, hact, (callInside_report he).trans hrun⟩
    | caller n =>
      obtain ⟨hl, he⟩ := report_caller.mp hr
      obtain ⟨x, hx, hreg⟩ := errandOf_eq_some he
      obtain ⟨a, ha⟩ := (hrep _ _ hx).asked hreg
      exact ⟨a, x, _, hx, ha, hreg, hl, by rw [caller_report h hr, hrun]⟩
  | _ => cases hr

end System

end ClusterLink
