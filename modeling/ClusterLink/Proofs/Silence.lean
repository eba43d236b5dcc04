/-
# Silence after shutdown

When messages are passed to the transport and callbacks begin. Messages are
passed on while the driver is active, callbacks begin while it is running;
only the error callback begins later, right after the driver was aborted for
a failure, and it is the last one. So once a driver was shut down, by
whatever call or failure, nothing more is sent and no callback begins
(`Chronicle.silent_after` within a history, `History.Grows.silent` from one
time of a run to a later one).

Key definitions: `Closing`, `System.Silence`.
Key theorems: `Chronicle.silent_after`, `System.run_silence`.
-/
import ClusterLink.Proofs.StatePath

namespace ClusterLink

open History

/-- Whether a call of that name, answered like that, shut the driver down. -/
def Closing (op : String) (a : Answer) : Prop :=
  (op = "stop" ∧ a = .status .stopped) ∨ (op = "abort" ∧ a = .status .aborted) ∨ op = "destroy"

theorem Tells.isShut {op : String} {a : Answer} {s : Lifecycle} (h : Tells op (.ok a) s)
    (hc : Closing op a) : s.isShut = true := by
  rcases hc with ⟨hop, rfl⟩ | ⟨hop, rfl⟩ | hop
  · rw [h.stop hop rfl]; rfl
  · rw [h.abort hop rfl]; rfl
  · rw [h.destroy hop a rfl]; rfl

/-! ### Within a history -/

namespace Chronicle

variable {h : List Event}

/-- Messages are passed on while the driver is active. -/
theorem sends (H : Chronicle h) :
    Always (fun v t => v.passed?.isSome = true → (state t).isActive = true) h := by
  induction H with
  | rest => trivial
  | @happen v t H hv ih =>
    refine ⟨fun hp => ?_, ih⟩
    cases v with
    | sent | notSent => exact hv
    | _ => cases hp
  | shift H hs ih => exact ⟨Bool.noConfusion, ih⟩
  | report H ha ih => exact ⟨Bool.noConfusion, Bool.noConfusion, Bool.noConfusion, ih⟩
  | misuse H hf hs ih => exact ⟨Bool.noConfusion, Bool.noConfusion, ih⟩

/-- Callbacks other than the error callback begin while the driver is running. -/
theorem callbacks (H : Chronicle h) : Always (fun v t => ∀ slot l payload args,
    v = .began slot l payload args → slot ≠ .error → l = .running ∧ state t = .running) h := by
  induction H with
  | rest => trivial
  | happen H hv ih =>
    refine ⟨?_, ih⟩
    rintro slot l payload args rfl -
    exact hv.2
  | shift H hs ih => exact ⟨fun _ _ _ _ he => (nomatch he), ih⟩
  | report H ha ih =>
    refine ⟨?_, fun _ _ _ _ he => (nomatch he), fun _ _ _ _ he => (nomatch he), ih⟩
    rintro slot l payload args he hn
    exact absurd (Event.began.inj he).1.symm hn
  | misuse H hf hs ih =>
    exact ⟨fun _ _ _ _ he => (nomatch he), fun _ _ _ _ he => (nomatch he), ih⟩

/-- The error callback begins right after the driver was aborted for a failure. -/
theorem errors (H : Chronicle h) : Always (fun v t => ∀ l payload args,
    v = .began .error l payload args → l = .aborted ∧ ∃ message u,
      t = .became .aborted :: .noted (.failed message) :: u ∧ (state u).isActive = true) h := by
  induction H with
  | rest => trivial
  | happen H hv ih =>
    refine ⟨?_, ih⟩
    rintro l payload args rfl
    exact absurd rfl hv.1
  | shift H hs ih => exact ⟨fun _ _ _ he => (nomatch he), ih⟩
  | @report message _ _ t H ha ih =>
    refine ⟨?_, fun _ _ _ he => (nomatch he), fun _ _ _ he => (nomatch he), ih⟩
    rintro l payload args he
    exact ⟨(Event.began.inj he).2.1.symm, message, t, rfl, ha⟩
  | misuse H hf hs ih =>
    exact ⟨fun _ _ _ he => (nomatch he), fun _ _ _ he => (nomatch he), ih⟩

/-- After a time at which the driver was shut down, and not just for a failure that is still to be
reported, nothing is sent and no callback begins. -/
theorem silent_after (H : Chronicle h) {w : Event} {u v : List Event} (hu : u <:+ v)
    (hv : w :: v <:+ h) (hs : (state u).isShut = true)
    (hn : ∀ message t, u ≠ .became .aborted :: .noted (.failed message) :: t) :
    w.passed? = none ∧ w.begun? = none := by
  have hsv : (state v).isShut = true :=
    H.shut_stays u v hu ((List.suffix_cons _ _).trans hv) hs
  have hnv : (state v).isActive = false := Lifecycle.not_active_of_isShut hsv
  constructor
  · by_contra hp
    have ha := always_iff.mp H.sends w v hv (Option.isSome_iff_ne_none.mpr hp)
    exact absurd (hnv.symm.trans ha) Bool.noConfusion
  · cases w with
    | began slot l payload args =>
      by_cases hslot : slot = .error
      · subst hslot
        obtain ⟨-, message, t, rfl, ha⟩ := always_iff.mp H.errors _ v hv l payload args rfl
        -- the driver was active right before the report, so the cut is in it
        have hat : ∀ t', u <:+ t' → t' <:+ h → (state t').isActive = false := fun t' hut hth =>
          Lifecycle.not_active_of_isShut (H.shut_stays u t' hut hth hs)
        have hth : t <:+ h := ((List.suffix_cons _ _).trans (List.suffix_cons _ _)).trans
          ((List.suffix_cons _ _).trans hv)
        rcases List.suffix_cons_iff.mp hu with rfl | hu
        · exact absurd rfl (hn message t)
        rcases List.suffix_cons_iff.mp hu with rfl | hu
        · have hs' : (state t).isShut = true := hs
          exact absurd ((Lifecycle.not_active_of_isShut hs').symm.trans ha) Bool.noConfusion
        · exact absurd ((hat t hu hth).symm.trans ha) Bool.noConfusion
      · obtain ⟨-, hr⟩ := always_iff.mp H.callbacks _ v hv slot l payload args rfl hslot
        rw [hr] at hsv
        cases hsv
    | _ => rfl

/-- No callback begins once the error callback began. -/
theorem error_last (H : Chronicle h) :
    Always (fun v t => v.begun?.isSome = true → .error ∉ begun t) h := by
  refine always_iff.mpr fun w t hw hb he => ?_
  obtain ⟨l, payload, args, u, hu⟩ := mem_begun.mp he
  have huh : .began .error l payload args :: u <:+ h := hu.trans ((List.suffix_cons _ _).trans hw)
  obtain ⟨-, message, u', rfl, -⟩ := always_iff.mp H.errors _ u huh l payload args rfl
  have hnone := (H.silent_after hu hw rfl fun _ _ => by simp).2
  rw [hnone] at hb
  cases hb

/-- The error callback begins once at most. -/
theorem count_error (H : Chronicle h) (ha : .error ∈ begun h) :
    (begun h).count .error = 1 := by
  have hle : ∀ t, t <:+ h → (begun t).count .error ≤ 1 := by
    intro t ht
    induction t with
    | nil => simp [begun]
    | cons v t ih =>
      rw [begun_cons, List.count_append]
      cases hv : v.begun? with
      | none => simpa using ih ((List.suffix_cons _ _).trans ht)
      | some slot =>
        have hnone := always_iff.mp H.error_last v t ht (by rw [hv]; rfl)
        rw [List.count_eq_zero_of_not_mem hnone]
        simp only [Option.toList_some, List.count_singleton, Nat.zero_add]
        split <;> omega
  exact Nat.le_antisymm (hle h (List.suffix_refl _)) (List.count_pos_iff.mpr ha)

end Chronicle

/-! ### From one time to a later one -/

/-- A history that grew while the driver was shut down tells of no message and no callback. -/
theorem History.Grows.silent {past h : List Event} (H : Grows past h)
    (hs : (state past).isShut = true) :
    (state h).isShut = true ∧ passed h = passed past ∧ begun h = begun past := by
  induction H with
  | rest => exact ⟨hs, rfl, rfl⟩
  | @happen v h H hv ih =>
    obtain ⟨hst, hp, hb⟩ := ih
    have hna := Lifecycle.not_active_of_isShut hst
    have hv' : v.passed? = none ∧ v.begun? = none := by
      cases v with
      | sent | notSent => exact absurd (hna.symm.trans hv) Bool.noConfusion
      | began => rw [hv.2.2] at hst; cases hst
      | _ => exact ⟨rfl, rfl⟩
    refine ⟨?_, ?_, ?_⟩
    · rw [state_cons, hv.state?]; exact hst
    · rw [passed_cons, hv'.1, hp]; simp
    · rw [begun_cons, hv'.2, hb]; simp
  | shift H hstep ih =>
    obtain ⟨hst, hp, hb⟩ := ih
    exact ⟨hstep.isShut hst, by simpa [Event.passed?] using hp, by simpa [Event.begun?] using hb⟩
  | report H ha ih =>
    exact absurd ((Lifecycle.not_active_of_isShut ih.1).symm.trans ha) Bool.noConfusion
  | misuse H hf hst ih =>
    obtain ⟨-, hp, hb⟩ := ih
    exact ⟨rfl, by simpa [Event.passed?] using hp, by simpa [Event.begun?] using hb⟩

namespace System

/-- When the driver of a system sends and calls back. -/
structure Silence (s : System) : Prop where
  sends : Always (fun v t => v.passed?.isSome = true → (state t).isActive = true)
    s.endpoint.history
  callbacks : Always (fun v t => ∀ slot l payload args, v = .began slot l payload args →
    slot ≠ .error → l = .running ∧ state t = .running) s.endpoint.history
  /-- The error callback begins in the region that aborts an active driver. -/
  errors : Always (fun v t => ∀ l payload args, v = .began .error l payload args →
    l = .aborted ∧ ∃ message u, t = .became .aborted :: .noted (.failed message) :: u ∧
      (state u).isActive = true) s.endpoint.history
  /-- The error callback begins once, and after it no other one. -/
  last : Always (fun v t => v.begun?.isSome = true → .error ∉ begun t) s.endpoint.history
  /-- Nothing is sent and no callback begins any more, once the driver was shut down. -/
  silent : s.driver.state.isShut = true → ∀ more : List Move,
    passed (s.run more).endpoint.history = passed s.endpoint.history ∧
      begun (s.run more).endpoint.history = begun s.endpoint.history
  /-- It was, once a caller was told that it is. -/
  told : ∀ x ∈ s.callers, ∀ a, x.errand = .finished (.ok a) → Closing x.call.op a →
    s.driver.state.isShut = true
  /-- It was, once a caller waits to destroy it. -/
  condemned : ∀ x ∈ s.callers, x.errand = .awaitDestroy → s.driver.state.isShut = true
  /-- Nothing is sent and no callback begins any more, once a callback was told so. -/
  inside : ∀ op a t, .acted op (.ok a) :: t <:+ s.endpoint.history → Closing op a →
    ∀ w v, w :: v <:+ s.endpoint.history → .acted op (.ok a) :: t <:+ v →
      w.passed? = none ∧ w.begun? = none

theorem run_silence {s : System} (h : s.Begins) (moves : List Move) : (s.run moves).Silence := by
  have hr := run_chronicle h moves
  have ha := run_attended h moves
  have H : Chronicle (s.run moves).endpoint.history := hr.grows
  have hnow : ∀ t, t <:+ (s.run moves).endpoint.history → (state t).isShut = true →
      (s.run moves).driver.state.isShut = true := fun t ht hs =>
    hr.state ▸ H.shut_stays t _ ht (List.suffix_refl _) hs
  refine ⟨H.sends, H.callbacks, H.errors, H.error_last, ?_, ?_, ?_, ?_⟩
  · intro hs more
    have hgrow := run_recorded (run_sound h.sound moves) ⟨.rest, hr.state⟩ more
    exact (hgrow.grows.silent (by rw [hr.state]; exact hs)).2
  · intro x hx a hf hc
    obtain ⟨n, hn⟩ := List.mem_iff_getElem?.mp hx
    obtain ⟨t, ht, htell⟩ := ha.told hn hf
    exact hnow t ht (htell.isShut hc)
  · intro x hx hf
    obtain ⟨n, hn⟩ := List.mem_iff_getElem?.mp hx
    obtain ⟨t, ht, hs⟩ := ha.condemned hn hf
    exact hnow t ht hs
  · intro op a t ht hc w v hw hu
    have htell := always_iff.mp H.acted _ t ht op _ rfl
    exact H.silent_after hu hw (htell.isShut hc) fun _ _ => by simp

/-- The master tells a scheduler of an error. -/
def failingMoves : List Move :=
  [.call .start, .go (.caller 0), .go .dispatch, .go .dispatch, .go .dispatch, .go .dispatch,
    .go .dispatch, .arrive (.messages [.error "lost"]), .go .dispatch, .go .dispatch]

theorem sample_silence : (sample [.error] [] []).Begins ∧
    begun ((sample [.error] [] []).run failingMoves).endpoint.history = [.error] ∧
    ((sample [.error] [] []).run failingMoves).Silence :=
  ⟨sample_begins _ _ _, rfl, run_silence (sample_begins _ _ _) failingMoves⟩

end System

end ClusterLink
