/-
# Callers

What the moves of a system do to its callers (`System.Served`): a caller
comes, does what is next in its errand once the lock is free or the dispatch
thread ended, or is left alone. So a caller's errand always suits its call,
and what it was answered tells about the state that the driver was in when
its last region ended (`System.Attended`).

Key definitions: `System.Served`, `System.Attended`.
Key theorems: `System.step_served`, `System.run_attended`.
-/
import ClusterLink.Proofs.Chronicle

namespace ClusterLink

namespace System

/-- What became of a caller in a move. -/
inductive Served (s : System) (m : Move) (n : Nat) (x' : Caller) : Prop
  | left (h : s.callers[n]? = some x')
  | came (hm : m = .call x'.call) (hn : n = s.callers.length) (hs : x'.call.suits x'.errand)
    (hw : x'.errand ≠ .awaitDestroy) (hd : x'.call = .destroy → x'.errand = .region .condemn)
    (ht : ∀ r l, x'.errand = .finished r → Tells x'.call.op r l)
  | region {x : Caller} {r : Region} (hm : m = .go (.caller n)) (hx : s.callers[n]? = some x)
    (hr : x.errand = .region r) (hl : s.isLocked = false) (hc : x'.call = x.call)
    (he : x'.errand = (s.endpoint.region false r).1)
    (hh : (s.endpoint.region false r).2.history <:+ (s.step m).endpoint.history)
  | waited {x : Caller} (hm : m = .go (.caller n)) (hx : s.callers[n]? = some x)
    (hw : x.errand = .awaitVerdict ∨ x.errand = .awaitDestroy) (hd : s.driver.done = true)
    (hc : x'.call = x.call) (he : x'.errand = s.endpoint.awaited x.errand)

theorem assign_callers (s : System) (n : Nat) (errand : Errand) :
    (s.assign n errand).callers = s.callers.modify n fun c => { c with errand } := by
  unfold assign
  dsimp only
  split <;> rfl

theorem launch_callers (s : System) : s.launch.callers = s.callers := by
  unfold launch
  split
  · split <;> rfl
  · rfl

theorem dispatch_callers {s : System} (h : s.Sound) : s.dispatch.callers = s.callers := by
  rcases s.phase.stages with hl | he | hb | hi
  · exact (dispatch_onward h.admits hl).callers
  · exact (dispatch_entering_onward h he).2.2.2
  · exact (dispatch_early h hb).2.2.2
  · rw [dispatch_idle hi]

theorem errandOf_eq_some {s : System} {n : Nat} {errand : Errand}
    (h : s.errandOf n = some errand) : ∃ x, s.callers[n]? = some x ∧ x.errand = errand :=
  Option.map_eq_some_iff.mp h

/-- Of a caller that is left with an errand, only the errand changes. -/
theorem assign_getElem? {s : System} {n k : Nat} {errand : Errand} {x x' : Caller}
    (hx : s.callers[n]? = some x) (hx' : (s.assign n errand).callers[k]? = some x') :
    (n = k ∧ x' = { x with errand }) ∨ s.callers[k]? = some x' := by
  rw [assign_callers] at hx'
  by_cases hk : n = k
  · subst hk
    rw [List.getElem?_modify_eq, hx] at hx'
    exact Or.inl ⟨rfl, (Option.some.inj hx').symm⟩
  · rw [List.getElem?_modify_ne _ _ hk] at hx'
    exact Or.inr hx'

/-- A caller whose turn it is does what is next in its errand. -/
theorem caller_served {s : System} {n k : Nat} {x' : Caller}
    (hp : s.provides (s.need (.caller n)) = true)
    (hx' : (s.step (.go (.caller n))).callers[k]? = some x') :
    Served s (.go (.caller n)) k x' := by
  have hstep : s.step (.go (.caller n)) = s.caller n := by simp [step, hp, advance]
  rw [hstep] at hx'
  cases he : s.errandOf n with
  | none => exact .left (by simpa [caller, he] using hx')
  | some errand =>
    obtain ⟨x, hx, rfl⟩ := errandOf_eq_some he
    cases hr : x.errand with
    | finished r => exact .left (by simpa [caller, he, hr] using hx')
    | region r =>
      have hc : s.caller n = ((({ s with endpoint := (s.endpoint.region false r).2 } :
          System).assign n (s.endpoint.region false r).1)).launch := by
        simp only [caller, he, hr]
      rw [hc, launch_callers] at hx'
      rcases assign_getElem? (s := { s with endpoint := (s.endpoint.region false r).2 }) hx hx'
        with ⟨rfl, rfl⟩ | hx'
      · refine .region rfl hx hr ?_ rfl rfl ?_
        · simpa [need, callerNeed, he, hr, provides] using hp
        · have hd := assign_deeds { s with endpoint := (s.endpoint.region false r).2 } n
            (s.endpoint.region false r).1
          rw [hstep, hc, launch_endpoint]
          exact hd.1.turns.history
      · exact .left hx'
    | awaitVerdict =>
      have hc : s.caller n = s.assign n (s.endpoint.awaited x.errand) := by
        simp only [caller, he, hr]
      rw [hc] at hx'
      rcases assign_getElem? hx hx' with ⟨rfl, rfl⟩ | hx'
      · refine .waited rfl hx (Or.inl hr) ?_ rfl rfl
        simpa [need, callerNeed, he, hr, provides] using hp
      · exact .left hx'
    | awaitDestroy =>
      have hc : s.caller n = s.assign n (s.endpoint.awaited x.errand) := by
        simp only [caller, he, hr]
      rw [hc] at hx'
      rcases assign_getElem? hx hx' with ⟨rfl, rfl⟩ | hx'
      · refine .waited rfl hx (Or.inr hr) ?_ rfl rfl
        simpa [need, callerNeed, he, hr, provides] using hp
      · exact .left hx'

theorem addCaller_served {s : System} {k : Nat} {c : Call} {x' : Caller}
    (hx' : (s.addCaller c).callers[k]? = some x') : Served s (.call c) k x' := by
  have hgo : ∀ (t : System) (errand : Errand), t.callers = s.callers → c.suits errand →
      errand ≠ .awaitDestroy → (c = .destroy → errand = .region .condemn) →
      (∀ r l, errand = .finished r → Tells c.op r l) →
      (({ t with callers := t.callers ++ [Caller.mk c errand] } : System).assign
        s.callers.length errand).callers[k]? = some x' → Served s (.call c) k x' := by
    intro t errand hcal hs hw hd ht hx'
    have hx : ({ t with callers := t.callers ++ [Caller.mk c errand] } :
        System).callers[s.callers.length]? = some ⟨c, errand⟩ := by
      simp [hcal]
    rcases assign_getElem? hx hx' with ⟨rfl, rfl⟩ | hx'
    · exact .came rfl rfl hs hw hd ht
    · simp only [hcal] at hx'
      rcases Nat.lt_or_ge k s.callers.length with hk | hk
      · rw [List.getElem?_append_left hk] at hx'
        exact .left hx'
      · obtain ⟨hk', rfl⟩ : k = s.callers.length ∧ x' = ⟨c, errand⟩ := by
          rw [List.getElem?_append_right hk, List.getElem?_singleton] at hx'
          split at hx'
          · exact ⟨by omega, (Option.some.inj hx').symm⟩
          · cases hx'
        exact .came rfl hk' hs hw hd ht
  unfold addCaller at hx'
  dsimp only at hx'
  split at hx'
  · rename_i i q
    refine hgo (s.ask i q).2 _ (s.ask_eq i q).2.2 (CallOf.suits_finished _ _)
      Errand.noConfusion (fun hc => by cases hc) ?_ hx'
    exact fun r l _ => tells_other (by simp [CallOf.op])
  · refine hgo s _ rfl (CallOf.errand_suits _ _ _ _) ?_ ?_ ?_ hx'
    · rcases CallOf.errand_cases s.surface s.driver s.find c with ⟨x, h, -⟩ | ⟨r, h⟩ <;> rw [h] <;>
        exact Errand.noConfusion
    · rintro rfl
      rfl
    · exact fun r l hr => CallOf.errand_tells hr

/-- A new caller is left with the errand of its call, unless it is a question. -/
theorem addCaller_errand {s : System} {c : Call} {x : Caller}
    (hx : (s.addCaller c).callers[s.callers.length]? = some x) : x.call = c ∧
      ((∃ r, x.errand = .finished r) ∧ (∃ i q, c = .ask i q) ∨
        x.errand = c.errand s.surface s.driver s.find) := by
  have hgo : ∀ (t : System) (errand : Errand), t.callers = s.callers →
      (({ t with callers := t.callers ++ [Caller.mk c errand] } : System).assign
        s.callers.length errand).callers[s.callers.length]? = some x →
      x = ⟨c, errand⟩ := by
    intro t errand hcal hx
    rw [assign_callers, List.getElem?_modify_eq, ← hcal, List.getElem?_concat_length] at hx
    exact (Option.some.inj hx).symm
  unfold addCaller at hx
  dsimp only at hx
  split at hx
  · rename_i i q
    rw [hgo _ _ (s.ask_eq _ _).2.2 hx]
    exact ⟨rfl, Or.inl ⟨⟨_, rfl⟩, i, q, rfl⟩⟩
  · rw [hgo _ _ rfl hx]
    exact ⟨rfl, Or.inr rfl⟩

/-- What a move does to a caller. -/
theorem step_served {s : System} (h : s.Sound) {m : Move} {n : Nat} {x' : Caller}
    (hx' : (s.step m).callers[n]? = some x') : Served s m n x' := by
  cases m with
  | go t =>
    by_cases hp : s.provides (s.need t) = true
    · cases t with
      | caller k => exact caller_served hp hx'
      | dispatch =>
        refine .left ?_
        simpa [step, hp, advance, dispatch_callers h] using hx'
    · exact .left (by simpa [step, hp] using hx')
  | call c => exact addCaller_served hx'
  | wake =>
    refine .left ?_
    simp only [step, wake] at hx'
    split at hx' <;> exact hx'
  | _ => exact .left hx'

/-- No caller goes away. -/
theorem step_length {s : System} (h : s.Sound) (m : Move) :
    s.callers.length ≤ (s.step m).callers.length := by
  have hassign : ∀ (t : System) (n : Nat) (errand : Errand),
      (t.assign n errand).callers.length = t.callers.length := fun t n errand => by
    rw [assign_callers, List.length_modify]
  rcases s.step_cases m with ⟨-, -, -, he⟩ | ⟨-, he⟩ | ⟨n, -, -, he⟩ | ho
  · rw [he]
  · rw [he, dispatch_callers h]
  · rw [he]
    unfold caller
    split
    · exact le_rfl
    · exact le_rfl
    · dsimp only
      rw [launch_callers, hassign]
    · rw [hassign]
  · cases m with
    | go t => exact absurd rfl (ho t)
    | call c =>
      simp only [step, addCaller]
      split <;> simp only [hassign, List.length_append, (s.ask_eq _ _).2.2, Nat.le_add_right]
    | wake =>
      simp only [step, wake]
      split <;> exact le_rfl
    | _ => exact le_rfl

/-- Until it is his turn, a caller is left with his errand. -/
theorem step_waits {s : System} (h : s.Sound) {m : Move} {n : Nat} {errand : Errand}
    (he : s.errandOf n = some errand) (hm : m ≠ .go (.caller n)) :
    (s.step m).errandOf n = some errand := by
  obtain ⟨x, hx, rfl⟩ := errandOf_eq_some he
  have hn : n < s.callers.length := (List.getElem?_eq_some_iff.mp hx).1
  have hx' := List.getElem?_eq_getElem (Nat.lt_of_lt_of_le hn (step_length h m))
  cases step_served h hx' with
  | left hleft =>
    rw [errandOf, hx', ← hleft]
    exact he
  | came _ hlast _ _ _ _ => exact absurd hlast (Nat.ne_of_lt hn)
  | region hgo _ _ _ _ _ _ => exact absurd hgo hm
  | waited hgo _ _ _ _ _ => exact absurd hgo hm

/-- A caller that was answered has nothing left to do. -/
theorem step_replied {s : System} {n : Nat} {res : Except Failure Answer}
    (h : s.errandOf n = some (.finished res)) : s.step (.go (.caller n)) = s := by
  simp [step, need, callerNeed, h, provides]

/-- Somebody who has to wait to destroy a driver finds it shut down. -/
theorem condemn_isShut {e : Endpoint} (he : e.Sound)
    (h : (e.region false .condemn).1 = .awaitDestroy) :
    (e.region false .condemn).2.driver.state.isShut = true := by
  by_cases hd : e.driver.state = .destroyed
  · simp [Endpoint.region, hd] at h
  have hr : e.region false .condemn =
      (if e.condemn.driver.launched then .awaitDestroy else .region .destroy, e.condemn) := by
    simp [Endpoint.region, hd]
  rw [hr] at h ⊢
  have hl : e.condemn.driver.launched = true := by
    by_contra hl
    simp [hl] at h
  have hc := (he.launched (e.condemn_deeds.launched.1 ▸ hl)).1
  show e.condemn.driver.state.isShut = true
  unfold Endpoint.condemn
  split
  · rfl
  · rename_i ha
    rcases shut_of_inactive (by simpa using ha) hc with hs | hs | hs <;> rw [hs] <;> rfl

/-- Callers do what their calls lead to, and have been told the truth. -/
structure Attended (s : System) : Prop where
  suits : ∀ {n : Nat} {x : Caller}, s.callers[n]? = some x → x.call.suits x.errand
  told : ∀ {n : Nat} {x : Caller} {r : Except Failure Answer}, s.callers[n]? = some x →
    x.errand = .finished r → ∃ t, t <:+ s.endpoint.history ∧ Tells x.call.op r (History.state t)
  condemned : ∀ {n : Nat} {x : Caller}, s.callers[n]? = some x → x.errand = .awaitDestroy →
    ∃ t, t <:+ s.endpoint.history ∧ (History.state t).isShut = true

theorem step_attended {s : System} (h : s.Sound) (hr : s.endpoint.Recorded []) (ha : s.Attended)
    (m : Move) : (s.step m).Attended := by
  constructor
  · intro n x' hx'
    cases step_served h hx' with
    | left hx => exact ha.suits hx
    | came _ _ hs _ _ _ => exact hs
    | region _ hx hreg _ hc he _ =>
      rw [hc, he]
      exact Endpoint.region_suits false (hreg ▸ ha.suits hx)
    | waited _ hx _ _ hc he =>
      rw [hc, he]
      exact Endpoint.awaited_suits (ha.suits hx)
  · intro n x' r hx' hf
    cases step_served h hx' with
    | left hx =>
      obtain ⟨t, ht, htell⟩ := ha.told hx hf
      exact ⟨t, ht.trans (step_history h m), htell⟩
    | came _ _ _ _ _ ht => exact ⟨_, List.suffix_refl _, ht r _ hf⟩
    | @region x reg _ hx hreg _ hc he hh =>
      refine ⟨_, hh, ?_⟩
      have hrec : (s.endpoint.region false reg).2.Recorded [] :=
        (s.endpoint.region_turns false reg).keep (fun _ _ ht hx => ht.recorded hx) hr
      rw [hrec.state, hc]
      exact Endpoint.region_tells (hreg ▸ ha.suits hx) (he.symm.trans hf)
    | waited _ hx hw _ hc he =>
      refine ⟨_, List.suffix_refl _, ?_⟩
      rw [hc]
      refine Endpoint.awaited_tells (ha.suits hx) ?_ (he.symm.trans hf)
      intro r'
      rcases hw with hw | hw <;> rw [hw] <;> exact Errand.noConfusion
  · intro n x' hx' hf
    cases step_served h hx' with
    | left hx =>
      obtain ⟨t, ht, hs⟩ := ha.condemned hx hf
      exact ⟨t, ht.trans (step_history h m), hs⟩
    | came _ _ _ hw _ _ => exact absurd hf hw
    | @region x reg _ hx hreg _ hc he hh =>
      obtain rfl := Endpoint.region_awaits (he.symm.trans hf)
      refine ⟨_, hh, ?_⟩
      have hrec : (s.endpoint.region false .condemn).2.Recorded [] :=
        (s.endpoint.region_turns false .condemn).keep (fun _ _ ht hx => ht.recorded hx) hr
      rw [hrec.state]
      exact condemn_isShut h.endpoint (he.symm.trans hf)
    | waited _ hx hw _ hc he =>
      rcases hw with hw | hw <;> rw [hw] at he <;> cases he.symm.trans hf

theorem Begins.attended {s : System} (h : s.Begins) : s.Attended := by
  constructor
  · intro n x hx
    simp [h.callers] at hx
  · intro n x r hx
    simp [h.callers] at hx
  · intro n x hx
    simp [h.callers] at hx

theorem run_attended {s : System} (h : s.Begins) (moves : List Move) : (s.run moves).Attended := by
  refine (run_invariant (P := fun s => s.endpoint.Recorded [] ∧ s.Attended) ?_ h.sound
    ⟨h.recorded, h.attended⟩ moves).2
  exact fun _ m hs ⟨hr, ha⟩ => ⟨run_recorded hs hr [m], step_attended hs hr ha m⟩

end System

end ClusterLink
