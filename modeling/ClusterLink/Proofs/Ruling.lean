/-
# Rulings

Whether a call succeeds is decided by the state that the driver is in when
the caller has the lock, and by nothing else (`Region.ruling`). A start
needs a new driver, a stop, an abort and a command an active one, and a join
one that was started; on a destroyed driver all of them are misuse, and so
are a join and a destruction on the dispatch thread, which would wait for
themselves. What a call comes to follows from the ruling
(`Region.outcome`); only the start asks somebody else as well, the factory
of transports.

A call that is turned down, or that fails with the factory, spares the
driver (`Endpoint.Spared`): no field of it changes, no identifier is drawn,
nothing is accepted or passed to the transport and no callback begins. At
most the call is noted.

Key definitions: `Ruling`, `Region.ruling`, `Region.outcome`,
`Region.fruitless`, `Endpoint.Spared`, `System.Rules`.
Key theorems: `Endpoint.region_outcome`, `Endpoint.region_spared`,
`Endpoint.Spared.unseen`, `System.run_rules`.
-/
import ClusterLink.Proofs.Callers

namespace ClusterLink

/-- What is decided about a call. -/
inductive Ruling
  | granted
  /-- The call is answered with the status that is the reason why not. -/
  | declined (s : Status)
  /-- The driver is destroyed. -/
  | gone
  /-- The call would wait for the thread that it is made on. -/
  | ownCallback
  deriving DecidableEq, Repr

namespace Region

/-- The name of the call, as its failures give it. -/
def op : Region → String
  | start _ => "start"
  | stop _ => "stop"
  | abort => "abort"
  | join => "join"
  | condemn | destroy => "destroy"
  | give c => c.op
  | turnDown _ | status => "status"
  | state => "state"

/-- What is decided in a state about a call, which is made on the dispatch thread or elsewhere. -/
def ruling (inside : Bool) : Region → Lifecycle → Ruling
  | state, _ => .granted
  | _, .destroyed => .gone
  | start _, .created => .granted
  | start _, _ => .declined .invalidState
  | stop _, s | abort, s | give _, s => if s.isActive then .granted else .declined .invalidState
  | join, .created => .declined .notStarted
  | join, _ | condemn, _ => if inside then .ownCallback else .granted
  | turnDown _, _ => .declined .invalidState
  | destroy, _ | status, _ => .granted

/-- What is left to do for a call that is granted. A start fails with the factory, or the transport
is made. -/
def grant (r : Region) (e : Endpoint) : Errand :=
  match r with
  | start thenJoin =>
    match e.surroundings.making.headD none with
    | some f => .finished (.error f)
    | none => if thenJoin then .region .join else .finished (.ok (.status .running))
  | stop _ => .finished (.ok (.status .stopped))
  | abort => .finished (.ok (.status .aborted))
  | give _ => .finished (.ok (.status .running))
  | join => .awaitVerdict
  | condemn => if e.driver.launched then .awaitDestroy else .region .destroy
  | destroy => .finished (.ok .nothing)
  | turnDown _ => .finished (.ok (.status .invalidState))
  | state => .finished (.ok (.state e.driver.state))
  | status => .finished (.ok (.status e.driver.state.status))

/-- What is left to do for a call, by the ruling on it. -/
def outcome (inside : Bool) (r : Region) (e : Endpoint) : Errand :=
  match r.ruling inside e.driver.state with
  | .granted => r.grant e
  | .declined s => .finished (.ok (.status s))
  | .gone => .finished (.error (e.driver.gone r.op))
  | .ownCallback => .finished (.error (e.driver.inOwnCallback r.op))

/-- Whether the call is a start for which the factory fails. -/
def unmade (r : Region) (e : Endpoint) : Bool :=
  match r with
  | start _ => (e.surroundings.making.headD none).isSome
  | _ => false

/-- Whether a call is turned down, or fails with the factory. -/
def fruitless (inside : Bool) (r : Region) (e : Endpoint) : Bool :=
  r.ruling inside e.driver.state ≠ .granted || r.unmade e

/-- Only a new driver is started. -/
theorem start_granted_iff {inside thenJoin : Bool} {s : Lifecycle} :
    (start thenJoin).ruling inside s = .granted ↔ s = .created := by
  cases s <;> simp [ruling]

/-- Whatever needs an active driver is granted to that one only. -/
theorem active_granted_iff {inside : Bool} {r : Region} {s : Lifecycle}
    (h : (∃ f, r = stop f) ∨ r = abort ∨ ∃ c, r = give c) :
    r.ruling inside s = .granted ↔ s.isActive = true := by
  rcases h with ⟨f, rfl⟩ | rfl | ⟨c, rfl⟩ <;> cases s <;> simp [ruling, Lifecycle.isActive]

/-- A caller waits for a driver that was started and not destroyed. -/
theorem join_granted_iff {inside : Bool} {s : Lifecycle} :
    join.ruling inside s = .granted ↔ inside = false ∧ s ≠ .created ∧ s ≠ .destroyed := by
  cases s <;> cases inside <;> simp [ruling]

/-- A call that is misuse fails, and its failure says that it is. -/
theorem outcome_misuse {inside : Bool} {r : Region} {e : Endpoint}
    (h : r.ruling inside e.driver.state = .gone ∨
      r.ruling inside e.driver.state = .ownCallback) :
    ∃ f, r.outcome inside e = .finished (.error f) ∧ f.isMisuse = true := by
  unfold outcome
  rcases h with h | h
  · exact ⟨e.driver.gone r.op, by rw [h], by simp [Driver.gone, Failure.isMisuse, Failure.kind]⟩
  · exact ⟨e.driver.inOwnCallback r.op, by rw [h],
      by simp [Driver.inOwnCallback, Failure.isMisuse, Failure.kind]⟩

/-- A call that is fruitless has its result at once. -/
theorem outcome_of_fruitless {inside : Bool} {r : Region} {e : Endpoint}
    (h : r.fruitless inside e = true) : ∃ res, r.outcome inside e = .finished res := by
  unfold outcome
  cases hr : r.ruling inside e.driver.state with
  | granted =>
    have hu : r.unmade e = true := by simpa [fruitless, hr] using h
    cases r with
    | start thenJoin =>
      obtain ⟨f, hf⟩ := Option.isSome_iff_exists.mp hu
      exact ⟨.error f, by simp only [grant, hf]⟩
    | _ => cases hu
  | declined s => exact ⟨_, rfl⟩
  | gone => exact ⟨_, rfl⟩
  | ownCallback => exact ⟨_, rfl⟩

/-- On the dispatch thread of a driver no call leads from one region to another. -/
theorem outcome_inside {r : Region} {e : Endpoint} (h : e.driver.state ≠ .created) (r' : Region) :
    r.outcome true e ≠ .region r' := by
  unfold outcome
  cases hr : r.ruling true e.driver.state with
  | granted =>
    cases r with
    | start thenJoin => exact absurd (start_granted_iff.mp hr) h
    | condemn => cases hs : e.driver.state <;> rw [hs] at hr <;> cases hr
    | _ => exact Errand.noConfusion
  | _ => exact Errand.noConfusion

end Region

namespace Endpoint

variable {e e' : Endpoint}

/-- At most something was noted, and the factory of transports asked. -/
structure Spared (e e' : Endpoint) : Prop where
  driver : e'.driver = e.driver
  surroundings : e'.surroundings = { e.surroundings with making := e'.surroundings.making }
  history : ∃ notes : List Note, e'.history = notes.map .noted ++ e.history

theorem Spared.refl (e : Endpoint) : Spared e e := ⟨rfl, rfl, [], rfl⟩

theorem Spared.note (e : Endpoint) (n : Note) : Spared e (e.note n) := ⟨rfl, rfl, [n], rfl⟩

/-- Of a driver that is spared nothing is read off its history that was not before. -/
theorem Spared.unseen (h : Spared e e') :
    History.state e'.history = History.state e.history ∧
      History.passed e'.history = History.passed e.history ∧
      History.accepted e'.history = History.accepted e.history ∧
      History.begun e'.history = History.begun e.history := by
  obtain ⟨notes, hn⟩ := h.history
  have hnone : ∀ {α : Type} (f : Event → Option α), (∀ n, f (.noted n) = none) →
      (notes.map Event.noted).filterMap f = [] := by
    intro α f hf
    rw [List.filterMap_map, List.filterMap_eq_nil_iff]
    exact fun n _ => hf n
  rw [hn]
  refine ⟨History.state_append fun v hv => ?_, ?_, ?_, ?_⟩
  · obtain ⟨n, -, rfl⟩ := List.mem_map.mp hv
    rfl
  · rw [History.passed, List.filterMap_append, hnone _ fun _ => rfl]; rfl
  · rw [History.accepted, List.filterMap_append, hnone _ fun _ => rfl]; rfl
  · rw [History.begun, List.filterMap_append, hnone _ fun _ => rfl]; rfl

/-! ### Regions -/

/-- A new driver is started if the factory makes its transport. -/
theorem start_of_created (h : e.driver.state = .created) :
    (∃ f, e.surroundings.making.headD none = some f ∧
      e.start = (.error f, { e with surroundings.making := e.surroundings.making.tail })) ∨
    (e.surroundings.making.headD none = none ∧ e.start.1 = .ok .running) := by
  unfold start
  rw [if_neg (by rw [h]; exact Lifecycle.noConfusion), if_neg (not_not_intro h)]
  cases hm : e.surroundings.making.headD none with
  | some f => exact Or.inl ⟨f, rfl, rfl⟩
  | none => exact Or.inr ⟨rfl, rfl⟩

/-- A region comes to what is ruled. -/
theorem region_outcome (e : Endpoint) (inside : Bool) (r : Region) :
    (e.region inside r).1 = r.outcome inside e := by
  unfold Region.outcome
  cases r with
  | start thenJoin =>
    cases hs : e.driver.state with
    | created =>
      simp only [Region.ruling, Region.grant]
      rcases start_of_created hs with ⟨f, hm, he⟩ | ⟨hm, he⟩
      · simp only [region, he, hm, reported, Except.map]
      · have hp : e.start = (.ok .running, e.start.2) := Prod.ext he rfl
        rw [hm]
        simp only [region]
        rw [hp]
        cases thenJoin <;> rfl
    | _ => simp [region, start, refuse, reported, Region.ruling, Region.op, hs, Except.map]
  | stop failover =>
    cases hs : e.driver.state <;>
      simp [region, stop, refuse, reported, Region.ruling, Region.grant, Region.op, hs, Except.map,
        Lifecycle.isActive]
  | abort =>
    cases hs : e.driver.state <;>
      simp [region, abort, refuse, reported, Region.ruling, Region.grant, Region.op, hs,
        Except.map, Lifecycle.isActive]
  | give c =>
    cases hs : e.driver.state <;>
      simp [region, order, reported, Region.ruling, Region.grant, Region.op, hs, Except.map,
        Lifecycle.isActive]
  | join =>
    cases hs : e.driver.state <;> cases inside <;>
      simp [region, Region.ruling, Region.grant, Region.op, hs]
  | condemn =>
    have hl : e.condemn.driver.launched = e.driver.launched := e.condemn_deeds.launched.1
    cases hs : e.driver.state <;> cases inside <;>
      simp [region, Region.ruling, Region.grant, Region.op, hs, hl]
  | destroy =>
    cases hs : e.driver.state <;>
      simp [region, destroy, Region.ruling, Region.grant, Region.op, hs, Except.map]
  | turnDown op =>
    cases hs : e.driver.state <;>
      simp [region, Driver.alive, Region.ruling, Region.op, hs]
  | state => simp [region, Driver.read, Region.ruling, Region.grant]
  | status =>
    cases hs : e.driver.state <;>
      simp [region, Driver.read, Driver.alive, Region.ruling, Region.grant, Region.op, hs]

/-- A region that is turned down spares the driver, and nobody was asked. -/
theorem region_turnedDown {inside : Bool} {r : Region}
    (h : r.ruling inside e.driver.state ≠ .granted) :
    e.Spared (e.region inside r).2 ∧ (e.region inside r).2.surroundings = e.surroundings := by
  -- either nothing was done, or the call was noted
  have hnote : ∀ {x : Endpoint}, x = e ∨ (∃ n, x = e.note n) →
      e.Spared x ∧ x.surroundings = e.surroundings := by
    rintro x (rfl | ⟨n, rfl⟩)
    · exact ⟨.refl _, rfl⟩
    · exact ⟨.note _ n, rfl⟩
  refine hnote ?_
  cases r with
  | start thenJoin =>
    cases hs : e.driver.state with
    | created => exact absurd (by rw [hs]; rfl) h
    | destroyed => exact Or.inl (by simp [region_start, start, hs])
    | _ => exact Or.inr ⟨.refused "start" e.driver.state, by simp [region_start, start, refuse, hs]⟩
  | stop failover =>
    cases hs : e.driver.state with
    | started | running => exact absurd (by rw [hs]; rfl) h
    | destroyed => exact Or.inl (by simp [region, stop, reported, hs])
    | _ =>
      exact Or.inr ⟨.refused "stop" e.driver.state,
        by simp [region, stop, refuse, reported, hs, Lifecycle.isActive]⟩
  | abort =>
    cases hs : e.driver.state with
    | started | running => exact absurd (by rw [hs]; rfl) h
    | destroyed => exact Or.inl (by simp [region, abort, reported, hs])
    | _ =>
      exact Or.inr ⟨.refused "abort" e.driver.state,
        by simp [region, abort, refuse, reported, hs, Lifecycle.isActive]⟩
  | give c =>
    cases hs : e.driver.state with
    | started | running => exact absurd (by rw [hs]; rfl) h
    | destroyed => exact Or.inl (by simp [region, order, reported, hs])
    | _ =>
      exact Or.inr ⟨.rejected c.op e.driver.state,
        by simp [region, order, reported, hs, Lifecycle.isActive]⟩
  | join =>
    exact Or.inl (e.region_join inside)
  | condemn =>
    refine Or.inl ?_
    cases hs : e.driver.state <;> cases inside <;>
      first
        | exact absurd (by rw [hs]; rfl) h
        | simp [region, hs]
  | destroy =>
    cases hs : e.driver.state with
    | destroyed => exact Or.inl (by simp [region, destroy, hs])
    | _ => exact absurd (by rw [hs]; rfl) h
  | turnDown op =>
    cases hs : e.driver.state with
    | destroyed => exact Or.inl (by simp [region, Driver.alive, hs])
    | _ => exact Or.inr ⟨.malformed op, by simp [region, Driver.alive, hs]⟩
  | state => exact Or.inl rfl
  | status => exact Or.inl rfl

/-- So does a start for which the factory fails. -/
theorem region_unmade {inside : Bool} {r : Region} (h : r.unmade e = true) :
    e.Spared (e.region inside r).2 := by
  cases r with
  | start thenJoin =>
    obtain ⟨f, hf⟩ := Option.isSome_iff_exists.mp h
    by_cases hs : e.driver.state = .created
    · obtain ⟨f', -, he⟩ := (start_of_created hs).resolve_right fun hn => by
        rw [hf] at hn
        cases hn.1
      rw [region_start, he]
      exact ⟨rfl, rfl, [], rfl⟩
    · exact (region_turnedDown fun hr => hs (Region.start_granted_iff.mp hr)).1
  | _ => cases h

/-- A call that is turned down, or fails with the factory, spares the driver. -/
theorem region_spared {inside : Bool} {r : Region} (h : r.fruitless inside e = true) :
    e.Spared (e.region inside r).2 := by
  by_cases hr : r.ruling inside e.driver.state = .granted
  · exact region_unmade (by simpa [Region.fruitless, hr] using h)
  · exact (region_turnedDown hr).1

end Endpoint

namespace System

variable {s t : System} {c : Call} {n : Nat} {r : Region}

/-! ### Calls of a system -/

/-- A caller is given a result, and only the endpoint changes beside that. -/
def replied (s : System) (n : Nat) (e : Endpoint) (res : Except Failure Answer) : System :=
  { s with
    endpoint := e.record (.returned n res)
    callers := s.callers.modify n fun c => { c with errand := .finished res } }

/-- A caller comes and is answered at once, and nothing else changes. -/
def answered (s : System) (c : Call) (res : Except Failure Answer) : System :=
  { s with
    endpoint := s.endpoint.record (.returned s.callers.length res)
    callers := s.callers ++ [⟨c, .finished res⟩] }

/-- How a system goes by the rulings on the calls of its driver. -/
structure Rules (s : System) : Prop where
  /-- A call with well-formed arguments is judged, unless it reads something without the lock. -/
  reaches : ∀ {c : Call} {c' : CallOf Argument},
    c.prepared s.surface s.driver.role s.find = .ok c' →
    (∀ o, c' = .order o → ∃ k, o.ready s.surface = .ok k) →
      (∃ r, c.errand s.surface s.driver s.find = .region r) ∨
        (∃ x, c' = .read x ∧ x ≠ .state ∧ x ≠ .status) ∨ ∃ i q, c' = .ask i q
  /-- A caller comes, and takes his place among the others. -/
  comes : ∀ {c r}, c.errand s.surface s.driver s.find = .region r →
    c.suits (.region r) ∧ r ≠ .destroy ∧
      s.step (.call c) = { s with callers := s.callers ++ [⟨c, .region r⟩] }
  /-- When the lock is free, his call comes to what is ruled on it. -/
  serves : ∀ {n r}, s.errandOf n = some (.region r) → s.isLocked = false →
    (s.step (.go (.caller n))).errandOf n = some (r.outcome false s.endpoint)
  /-- If it is fruitless, nothing else changes. -/
  spares : ∀ {n r}, s.errandOf n = some (.region r) → s.isLocked = false →
    r.fruitless false s.endpoint = true →
      ∃ e res, s.endpoint.Spared e ∧ r.outcome false s.endpoint = .finished res ∧
        s.step (.go (.caller n)) = s.replied n e res
  /-- So it is with the call of a callback, which holds the lock already. -/
  servesInside : ∀ {frame c r}, s.phase = .calling frame →
    c.errand s.surface s.driver s.find = .region r →
      (s.callInside c).1 = (r.outcome true s.endpoint).result
  sparesInside : ∀ {frame c r}, s.phase = .calling frame →
    c.errand s.surface s.driver s.find = .region r → r.fruitless true s.endpoint = true →
      ∃ e, s.endpoint.Spared e ∧ (s.callInside c).2 = { s with endpoint := e }
  /-- What is read without the lock is there until the driver is destroyed. -/
  reads : ∀ {x}, x = .payload ∨ x = .callbacks → ∃ res,
    s.step (.call (.read x)) = s.answered (.read x) res ∧
      s.callInside (.read x) = (res, s) ∧
        (s.driver.state = .destroyed → res = .error (s.driver.gone x.op)) ∧
          (s.driver.state ≠ .destroyed → ∃ a, res = .ok a)
  /-- On a destroyed driver, and where a callback would wait for itself, the failure is misuse. -/
  misuses : ∀ {inside : Bool} {r : Region}, r.ruling inside s.driver.state = .gone ∨
    r.ruling inside s.driver.state = .ownCallback →
      ∃ f, r.outcome inside s.endpoint = .finished (.error f) ∧ f.isMisuse = true

/-- A dispatch thread is launched together with its driver, and not once more. -/
theorem launch_eq (h : s.Sound) (hp : t.phase = s.phase) (hd : t.driver = s.driver) :
    t.launch = t := by
  unfold launch
  split
  · rename_i hi
    have hl : ¬ s.driver.launched = true := fun hl => h.launched.mp hl (hp.symm.trans hi)
    rw [hd, if_neg hl]
  · rfl

/-- To leave a caller with the errand that he has is to leave him alone. -/
theorem modify_errand {callers : List Caller} {x : Caller} (h : callers[n]? = some x) :
    (callers.modify n fun c => { c with errand := x.errand }) = callers := by
  refine List.ext_getElem? fun k => ?_
  by_cases hk : n = k
  · subst hk
    rw [List.getElem?_modify_eq, h]
    rfl
  · rw [List.getElem?_modify_ne _ _ hk]

/-- A question to an object that was kept does not get to a region of the driver. -/
theorem ne_ask_of_region (h : c.errand s.surface s.driver s.find = .region r) :
    ∀ i q, c ≠ .ask i q := by
  rintro i q rfl
  cases h

/-- A call with well-formed arguments is judged, unless it reads something without the lock. -/
theorem errand_reaches {surface : Surface} {d : Driver} {find : Int → Except Failure Argument}
    {c' : CallOf Argument} (h : c.prepared surface d.role find = .ok c')
    (hw : ∀ o, c' = .order o → ∃ k, o.ready surface = .ok k) :
    (∃ r, c.errand surface d find = .region r) ∨
      (∃ x, c' = .read x ∧ x ≠ .state ∧ x ≠ .status) ∨ ∃ i q, c' = .ask i q := by
  have he : c.errand surface d find = c'.work surface d := by simp only [CallOf.errand, h]
  rw [he]
  cases c' with
  | order o =>
    obtain ⟨k, hk⟩ := hw o rfl
    refine Or.inl ?_
    cases k with
    | command k => exact ⟨.give k, by simp only [CallOf.work, hk]⟩
    | malformed op => exact ⟨.turnDown op, by simp only [CallOf.work, hk]⟩
  | read x =>
    cases x with
    | state | status => exact Or.inl ⟨_, rfl⟩
    | _ => exact Or.inr (Or.inl ⟨_, rfl, Reading.noConfusion, Reading.noConfusion⟩)
  | ask i q => exact Or.inr (Or.inr ⟨i, q, rfl⟩)
  | _ => exact Or.inl ⟨_, rfl⟩

/-- A caller whose call begins with a region waits for the lock. -/
theorem addCaller_region (h : c.errand s.surface s.driver s.find = .region r) :
    s.addCaller c = { s with callers := s.callers ++ [⟨c, .region r⟩] } := by
  have hx : (s.callers ++ [⟨c, .region r⟩])[s.callers.length]? = some ⟨c, .region r⟩ :=
    List.getElem?_concat_length
  rw [addCaller_eq (ne_ask_of_region h), h]
  simp only [assign, modify_errand hx]

/-- A caller whose call needs no lock is answered. -/
theorem addCaller_finished {res : Except Failure Answer} (hc : ∀ i q, c ≠ .ask i q)
    (h : c.errand s.surface s.driver s.find = .finished res) :
    s.addCaller c = s.answered c res := by
  have hx : (s.callers ++ [⟨c, .finished res⟩])[s.callers.length]? = some ⟨c, .finished res⟩ :=
    List.getElem?_concat_length
  rw [addCaller_eq hc, h]
  simp only [assign, modify_errand hx]
  rfl

/-- A caller's turn, up to the launch of the dispatch thread. -/
theorem step_caller_region (h : s.errandOf n = some (.region r)) (hl : s.isLocked = false) :
    s.step (.go (.caller n)) = (({ s with endpoint := (s.endpoint.region false r).2 } :
      System).assign n (s.endpoint.region false r).1).launch := by
  have hp : s.provides (s.need (.caller n)) = true := by
    simp [need, callerNeed, h, provides, hl]
  simp only [step, hp, if_true, advance, caller, h]

theorem assign_errandOf {errand : Errand} (h : (s.errandOf n).isSome = true) :
    (s.assign n errand).errandOf n = some errand := by
  obtain ⟨x, hx⟩ := Option.isSome_iff_exists.mp h
  obtain ⟨y, hy, -⟩ := errandOf_eq_some hx
  rw [errandOf, assign_callers, List.getElem?_modify_eq, hy]
  rfl

theorem step_outcome (h : s.errandOf n = some (.region r)) (hl : s.isLocked = false) :
    (s.step (.go (.caller n))).errandOf n = some (r.outcome false s.endpoint) := by
  rw [step_caller_region h hl, errandOf, launch_callers, ← errandOf, assign_errandOf,
    s.endpoint.region_outcome]
  show (s.errandOf n).isSome = true
  rw [h]
  rfl

theorem step_spares (hs : s.Sound) (h : s.errandOf n = some (.region r))
    (hl : s.isLocked = false) (hf : r.fruitless false s.endpoint = true) :
    ∃ e res, s.endpoint.Spared e ∧ r.outcome false s.endpoint = .finished res ∧
      s.step (.go (.caller n)) = s.replied n e res := by
  obtain ⟨res, hres⟩ := Region.outcome_of_fruitless hf
  have hsp := Endpoint.region_spared hf
  refine ⟨(s.endpoint.region false r).2, res, hsp, hres, ?_⟩
  rw [step_caller_region h hl, s.endpoint.region_outcome, hres]
  exact launch_eq hs rfl hsp.driver

/-! ### Calls of a callback -/

/-- In a callback no call leads from one region to another. -/
theorem conduct_region {e : Endpoint} (hc : e.driver.state ≠ .created) :
    e.conduct (.region r) = ((r.outcome true e).result, (e.region true r).2) := by
  have ho := e.region_outcome true r
  unfold Endpoint.conduct
  dsimp only
  split
  · rename_i r' e' hr
    rw [hr] at ho
    exact absurd ho.symm (Region.outcome_inside hc r')
  · rename_i hr
    rw [← ho, hr]

/-- The call of a callback comes to what is ruled on it. -/
theorem callInside_region {frame : Frame} (hs : s.Sound) (hp : s.phase = .calling frame)
    (h : c.errand s.surface s.driver s.find = .region r) : s.callInside c =
      ((r.outcome true s.endpoint).result,
        { s with endpoint := (s.endpoint.region true r).2 }) := by
  have hc : s.driver.state ≠ .created :=
    hs.admits.ne_created (by rw [hp]; exact Phase.noConfusion)
  rw [callInside_eq (ne_ask_of_region h), h, conduct_region hc]

theorem errand_read {surface : Surface} {d : Driver} {find : Int → Except Failure Argument}
    {x : Reading} (hx : x = .payload ∨ x = .callbacks) :
    (.read x : Call).errand surface d find = .finished (d.read x) := by
  rcases hx with rfl | rfl <;> rfl

/-- What a driver gives away until it is destroyed. -/
theorem read_cases {d : Driver} {x : Reading} (hx : x = .payload ∨ x = .callbacks) :
    (d.state = .destroyed → d.read x = .error (d.gone x.op)) ∧
      (d.state ≠ .destroyed → ∃ a, d.read x = .ok a) := by
  rcases hx with rfl | rfl
  · exact ⟨fun hd => if_pos hd, fun hd => ⟨_, if_neg hd⟩⟩
  · exact ⟨fun hd => if_pos hd, fun hd => ⟨_, if_neg hd⟩⟩

theorem Sound.rules (hs : s.Sound) : s.Rules where
  reaches h hw := errand_reaches h hw
  comes {c r} h := by
    refine ⟨h ▸ CallOf.errand_suits _ _ _ c, ?_, addCaller_region h⟩
    rintro rfl
    exact CallOf.errand_ne_destroy _ _ _ c h
  serves h hl := step_outcome h hl
  spares h hl hf := step_spares hs h hl hf
  servesInside hp h := by rw [callInside_region hs hp h]
  sparesInside hp h hf := ⟨_, Endpoint.region_spared hf, by rw [callInside_region hs hp h]⟩
  reads {x} hx := by
    have hask : ∀ i q, (.read x : Call) ≠ .ask i q := fun _ _ he => by cases he
    obtain ⟨hgone, hthere⟩ := read_cases (d := s.driver) hx
    refine ⟨s.driver.read x, addCaller_finished hask (errand_read hx), ?_, hgone, hthere⟩
    rw [callInside_eq hask, errand_read hx]
    rfl
  misuses h := Region.outcome_misuse h

/-- In every state of every run, the state of the driver decides about the calls that are made, and
a call that is turned down spares the driver. -/
theorem run_rules {s : System} (h : s.Begins) (moves : List Move) : (s.run moves).Rules :=
  (run_sound h.sound moves).rules

/-- A driver that is started a second time. -/
def restartingMoves : List Move := [.call .start, .go (.caller 0), .call .start]

theorem sample_rules : (sample [] [] []).Begins ∧
    ((sample [] [] []).run restartingMoves).errandOf 1 = some (.region (.start false)) ∧
    ((sample [] [] []).run restartingMoves).isLocked = false ∧
    (Region.start false).fruitless false ((sample [] [] []).run restartingMoves).endpoint = true ∧
    ((sample [] [] []).run restartingMoves).Rules :=
  ⟨sample_begins _ _ _, rfl, rfl, rfl, run_rules (sample_begins _ _ _) restartingMoves⟩

end System

end ClusterLink
