/-
# Answers

What the answer of a call tells about the driver. A stop, an abort or a
destruction that succeeded leaves the driver in the state it is named after
(`Tells`), whoever made the call, a caller or a callback.

A caller goes from errand to errand, and stays with those that its call can
lead to (`CallOf.suits`): only somebody who destroys a driver ever gets to
the end of destruction.

Key definitions: `Tells`, `CallOf.suits`.
Key theorems: `CallOf.errand_suits`, `Endpoint.region_suits`,
`Endpoint.region_tells`, `Endpoint.conduct_tells`.
-/
import ClusterLink.System.Dispatch

namespace ClusterLink

/-- What the answer of a call of that name tells about the state right after it. -/
structure Tells (op : String) (r : Except Failure Answer) (s : Lifecycle) : Prop where
  stop : op = "stop" → r = .ok (.status .stopped) → s = .stopped
  abort : op = "abort" → r = .ok (.status .aborted) → s = .aborted
  destroy : op = "destroy" → ∀ a, r = .ok a → s = .destroyed

variable {α : Type} {op : String} {r : Except Failure Answer} {s : Lifecycle} {e : Endpoint}

theorem tells_error (f : Failure) : Tells op (.error f) s :=
  ⟨fun _ h => (nomatch h), fun _ h => (nomatch h), fun _ _ h => (nomatch h)⟩

/-- Other calls tell nothing. -/
theorem tells_other (h : op ∉ ["stop", "abort", "destroy"]) : Tells op r s := by
  simp only [List.mem_cons, List.not_mem_nil, or_false, not_or] at h
  exact ⟨fun hs => absurd hs h.1, fun ha => absurd ha h.2.1, fun hd => absurd hd h.2.2⟩

theorem tells_stop (h : r = .ok (.status .stopped) → s = .stopped) : Tells "stop" r s :=
  ⟨fun _ => h, fun h => absurd h (by decide), fun h => absurd h (by decide)⟩

theorem tells_abort (h : r = .ok (.status .aborted) → s = .aborted) : Tells "abort" r s :=
  ⟨fun h => absurd h (by decide), fun _ => h, fun h => absurd h (by decide)⟩

theorem tells_destroy (h : ∀ a, r = .ok a → s = .destroyed) : Tells "destroy" r s :=
  ⟨fun h => absurd h (by decide), fun h => absurd h (by decide), fun _ => h⟩

namespace CallOf

/-- Whether a caller of the call may be left with the errand. -/
def suits : CallOf α → Errand → Prop
  | start, .region (.start thenJoin) => thenJoin = false
  | run, .region (.start thenJoin) => thenJoin = true
  | run, .region .join | join, .region .join | run, .awaitVerdict | join, .awaitVerdict => True
  | stop _, .region (.stop _) => True
  | abort, .region .abort => True
  | destroy, .region .condemn | destroy, .awaitDestroy | destroy, .region .destroy => True
  | order _, .region (.give _) | order _, .region (.turnDown _) => True
  | read _, .region .state | read _, .region .status => True
  | _, .finished _ => True
  | _, _ => False

theorem suits_finished (c : CallOf α) (r : Except Failure Answer) : c.suits (.finished r) := by
  cases c <;> trivial

/-- Commands and readings tell nothing. -/
theorem tells_order (o : Order α) : Tells (order o).op r s := by
  cases o <;> exact tells_other (by simp [op, Order.op])

theorem tells_read (x : Reading) : Tells (read x : CallOf α).op r s := by
  cases x <;> exact tells_other (by simp [op, Reading.op])

/-- A call with its arguments suits what the call suits. -/
theorem suits_of_prepared {surface : Surface} {role : Role}
    {find : Int → Except Failure Argument} {c : Call} {c' : CallOf Argument} {errand : Errand}
    (h : c.prepared surface role find = .ok c') (hs : c'.suits errand) : c.suits errand := by
  have hc : c.arguments find = .ok c' := by
    unfold prepared at h
    cases ha : c.arguments find with
    | error f => simp [ha, bind, Except.bind] at h
    | ok x =>
      simp only [ha, bind, Except.bind] at h
      split at h
      · cases h
      · exact h
  cases c with
  | order o =>
    simp only [arguments] at hc
    cases hm : o.mapArguments (Operand.argument find) with
    | error f => simp [hm, Except.map] at hc
    | ok o' =>
      simp only [hm, Except.map] at hc
      obtain rfl := Except.ok.inj hc
      cases errand with
      | region r => cases r <;> exact hs
      | _ => exact hs
  | _ =>
    obtain rfl := Except.ok.inj hc
    cases errand with
    | region r => cases r <;> exact hs
    | _ => exact hs

theorem work_suits (surface : Surface) (d : Driver) (c : CallOf Argument) :
    c.suits (c.work surface d) := by
  cases c with
  | order o =>
    simp only [work]
    split <;> trivial
  | read x => cases x <;> trivial
  | start | run => rfl
  | _ => trivial

theorem errand_suits (surface : Surface) (d : Driver) (find : Int → Except Failure Argument)
    (c : Call) : c.suits (c.errand surface d find) := by
  unfold errand
  split
  · rename_i c' h
    exact suits_of_prepared h (work_suits surface d c')
  · exact suits_finished c _

/-- A call is answered at once, or begins with a region, but not with the end of destruction. -/
theorem errand_cases (surface : Surface) (d : Driver) (find : Int → Except Failure Argument)
    (c : Call) : (∃ x, c.errand surface d find = .region x ∧ x ≠ .destroy) ∨
      ∃ r, c.errand surface d find = .finished r := by
  unfold errand
  split
  · rename_i c' _
    cases c' with
    | order o =>
      simp only [work]
      split
      · exact Or.inl ⟨_, rfl, Region.noConfusion⟩
      · exact Or.inl ⟨_, rfl, Region.noConfusion⟩
      · exact Or.inr ⟨_, rfl⟩
    | read x =>
      cases x with
      | state | status => exact Or.inl ⟨_, rfl, Region.noConfusion⟩
      | _ => exact Or.inr ⟨_, rfl⟩
    | ask => exact Or.inr ⟨_, rfl⟩
    | _ => exact Or.inl ⟨_, rfl, Region.noConfusion⟩
  · exact Or.inr ⟨_, rfl⟩

theorem errand_ne_destroy (surface : Surface) (d : Driver)
    (find : Int → Except Failure Argument) (c : Call) :
    c.errand surface d find ≠ .region .destroy := by
  rcases errand_cases surface d find c with ⟨x, h, hx⟩ | ⟨r, h⟩
  · rw [h]; exact fun he => hx (Errand.region.inj he)
  · rw [h]; exact Errand.noConfusion

/-- A stop is carried out, or fails for want of an argument. -/
theorem errand_stop (surface : Surface) (d : Driver) (find : Int → Except Failure Argument)
    (failover : Option Bool) :
    (stop failover : Call).errand surface d find = .region (.stop (failover.getD false)) ∨
      ∃ f, (stop failover : Call).errand surface d find = .finished (.error f) := by
  cases hd : (stop failover : CallOf Argument).defect? surface d.role with
  | none => exact Or.inl (by simp [errand, prepared, arguments, bind, Except.bind, hd, work])
  | some f => exact Or.inr ⟨f, by simp [errand, prepared, arguments, bind, Except.bind, hd]⟩

/-- What needs no lock tells nothing. -/
theorem errand_tells {surface : Surface} {d : Driver} {find : Int → Except Failure Argument}
    {c : Call} (h : c.errand surface d find = .finished r) : Tells c.op r s := by
  cases c with
  | order o => exact tells_order o
  | read x => exact tells_read x
  | stop failover =>
    rcases errand_stop surface d find failover with he | ⟨f, he⟩
    · exact absurd (he.symm.trans h) Errand.noConfusion
    · obtain rfl := Errand.finished.inj (he.symm.trans h)
      exact tells_error f
  | abort | destroy => cases h
  | _ => exact tells_other (by simp [op])

end CallOf

namespace Endpoint

theorem stop_tells (failover : Bool) :
    Tells "stop" ((e.stop failover).1.map .status) (e.stop failover).2.driver.state := by
  unfold stop
  split
  · exact tells_error _
  split
  · exact tells_stop fun h => (nomatch h)
  · exact tells_stop fun _ => rfl

theorem abort_tells : Tells "abort" (e.abort.1.map .status) e.abort.2.driver.state := by
  unfold abort
  split
  · exact tells_error _
  split
  · exact tells_abort fun h => (nomatch h)
  · exact tells_abort fun _ => rfl

theorem destroy_tells {g : Unit → Answer} :
    Tells "destroy" (e.destroy.1.map g) e.destroy.2.driver.state := by
  unfold destroy
  split
  · exact tells_error _
  · exact tells_destroy fun _ _ => rfl

/-- A caller goes from one errand of its call to another one. -/
theorem region_suits {c : CallOf α} {r : Region} (inside : Bool) (h : c.suits (.region r)) :
    c.suits (e.region inside r).1 := by
  have hf : ∀ x : Except Failure Status × Endpoint, c.suits (reported x).1 :=
    fun x => c.suits_finished _
  cases r with
  | start thenJoin =>
    simp only [region]
    split
    · split
      · cases c <;> simp_all [CallOf.suits]
      · exact c.suits_finished _
    · exact hf _
  | join =>
    simp only [region]
    split
    · exact c.suits_finished _
    split
    · exact c.suits_finished _
    split
    · exact c.suits_finished _
    · cases c <;> simp_all [CallOf.suits]
  | condemn =>
    simp only [region]
    split
    · exact c.suits_finished _
    split
    · exact c.suits_finished _
    · dsimp only
      split <;> cases c <;> simp_all [CallOf.suits]
  | turnDown op =>
    simp only [region]
    split <;> exact c.suits_finished _
  | _ => exact c.suits_finished _

/-- Only the first part of destruction leads to waiting for its second part. -/
theorem region_awaits {x : Region} {inside : Bool}
    (h : (e.region inside x).1 = .awaitDestroy) : x = .condemn := by
  cases x with
  | condemn => rfl
  | start thenJoin =>
    simp only [region] at h
    split at h
    · split at h <;> cases h
    · cases h
  | join =>
    simp only [region] at h
    split at h
    · cases h
    split at h
    · cases h
    split at h <;> cases h
  | turnDown op =>
    simp only [region] at h
    split at h <;> cases h
  | _ => cases h

/-- Destruction ends early only by failing. -/
theorem condemn_finished {inside : Bool} (h : (e.region inside .condemn).1 = .finished r) :
    ∃ f, r = .error f := by
  simp only [region] at h
  split at h
  · exact ⟨_, (Errand.finished.inj h).symm⟩
  split at h
  · exact ⟨_, (Errand.finished.inj h).symm⟩
  · dsimp only at h
    split at h <;> cases h

/-- What a call is answered after a region tells about the state. -/
theorem region_tells {c : CallOf α} {x : Region} {inside : Bool} (h : c.suits (.region x))
    (hr : (e.region inside x).1 = .finished r) :
    Tells c.op r (e.region inside x).2.driver.state := by
  cases c with
  | stop f =>
    cases x with
    | stop failover =>
      obtain rfl : _ = r := Errand.finished.inj hr
      exact stop_tells failover
    | _ => exact h.elim
  | abort =>
    cases x with
    | abort =>
      obtain rfl : _ = r := Errand.finished.inj hr
      exact abort_tells
    | _ => exact h.elim
  | destroy =>
    cases x with
    | destroy =>
      obtain rfl : _ = r := Errand.finished.inj hr
      exact destroy_tells
    | condemn =>
      -- only failures end a destruction that early
      obtain ⟨f, rfl⟩ := condemn_finished hr
      exact tells_error f
    | _ => exact h.elim
  | order o => exact CallOf.tells_order o
  | read y => exact CallOf.tells_read y
  | _ => exact tells_other (by simp [CallOf.op])

/-- What a caller is answered after waiting tells nothing. -/
theorem awaited_tells {c : CallOf α} {errand : Errand} (h : c.suits errand)
    (hn : ∀ r, errand ≠ .finished r) (hr : e.awaited errand = .finished r) : Tells c.op r s := by
  cases errand with
  | awaitVerdict =>
    cases c with
    | join | run => exact tells_other (by simp [CallOf.op])
    | _ => exact h.elim
  | finished r' => exact absurd rfl (hn r')
  | _ => cases hr

theorem awaited_suits {c : CallOf α} {errand : Errand} (h : c.suits errand) :
    c.suits (e.awaited errand) := by
  cases errand with
  | awaitVerdict => exact c.suits_finished _
  | awaitDestroy => cases c <;> trivial
  | _ => exact h

/-- A callback cannot destroy its driver, which would have to wait for it. -/
theorem conduct_destroy (e : Endpoint) :
    ∃ f, (e.conduct (.region .condemn)).1 = .error f ∧ f.isMisuse = true := by
  by_cases h : e.driver.state = .destroyed
  · exact ⟨e.driver.gone "destroy", by simp [conduct, region, h, Errand.result],
      by simp [Driver.gone, Failure.isMisuse, Failure.kind]⟩
  · exact ⟨e.driver.inOwnCallback "destroy", by simp [conduct, region, h, Errand.result],
      by simp [Driver.inOwnCallback, Failure.isMisuse, Failure.kind]⟩

/-- What a callback's call is answered tells about the state. -/
theorem conduct_tells (surface : Surface) (d : Driver) (find : Int → Except Failure Argument)
    (c : Call) : Tells c.op (e.conduct (c.errand surface d find)).1
      (e.conduct (c.errand surface d find)).2.driver.state := by
  cases c with
  | stop failover =>
    rcases CallOf.errand_stop surface d find failover with he | ⟨f, he⟩
    · rw [he]; exact stop_tells _
    · rw [he]; exact tells_error f
  | abort => exact abort_tells
  | destroy =>
    obtain ⟨f, hf, -⟩ := conduct_destroy e
    show Tells "destroy" (e.conduct (.region .condemn)).1 _
    rw [hf]
    exact tells_error f
  | order o => exact CallOf.tells_order o
  | read x => exact CallOf.tells_read x
  | _ => exact tells_other (by simp [CallOf.op])

end Endpoint

end ClusterLink
