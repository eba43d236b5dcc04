/-
# Applications for drivers

What can go wrong when a driver is made: a value is malformed, or a framework
info is passed in an envelope that was released. Every check fails in one of
these ways, whatever the arguments and the environment are
(`Application.driver_fails`). So the flat surface answers an application with a
driver if there is one, and with the null pair otherwise, unless such an
envelope is passed (`Application.opens`).

There is one more exception. What is noted about a driver that was not made
shows the master, and a number of too many digits cannot be shown; then the
note fails, and with it the call (`Application.unshown_fails`).

Key definitions: `Application.PassesReleased`, `Application.Opens`.
Key theorems: `Application.driver_fails`, `Application.opens`,
`Application.unshown_fails`.
-/
import ClusterLink.Proofs.Course
import ClusterLink.Proofs.Forms
import ClusterLink.Proofs.Identity
import ClusterLink.Session

namespace ClusterLink

/-! ### Checks -/

namespace Identity

/-- The argument is an envelope that was released, and the failure is that of an access to it. -/
def Released (x : Argument) (f : Failure) : Prop :=
  ∃ e, x = .envelope e ∧ e.released = true ∧ f = .released e.ownership

theorem frameworkInfo_fails (x : Argument) :
    FailsBy (fun f => f.isMalformed = true ∨ Released x f) (frameworkInfo x) := by
  have hdata : ∀ b : Bytes, x.copyIn = .ok b →
      FailsBy (fun f => f.isMalformed = true ∨ Released x f) (frameworkInfo x) := by
    intro b hb
    unfold frameworkInfo
    rw [hb]
    cases b with
    | nil => exact .error (Or.inl (by decide))
    | cons => exact .ok _
  cases x with
  | envelope e =>
    cases hr : e.released with
    | true =>
      have hread : (Argument.envelope e).copyIn = .error (.released e.ownership) := if_pos hr
      unfold frameworkInfo
      rw [hread]
      exact .error (Or.inr ⟨e, rfl, hr, rfl⟩)
    | false => exact hdata e.data (by simp [Argument.copyIn, Envelope.read, hr])
  | octets b | buffer b => exact hdata b rfl
  | view content =>
    cases content with
    | none => exact .error (Or.inl (by decide))
    | some b => exact hdata b rfl
  | none | text | number | list => exact .error (Or.inl rfl)

theorem identifiers_fails (f e : Argument) :
    FailsBy (fun x => x.isMalformed = true) (identifiers f e) := by
  unfold identifiers
  split
  · split
    · exact .error (by decide)
    · exact .ok _
  · exact .error rfl

theorem complete_fails (env : Environment) (i : Identity) :
    FailsBy (fun f => f.isMalformed = true) (i.complete env) := by
  cases i with
  | scheduler f m => exact .ok _
  | executor a f e =>
    simp only [complete]
    split
    · exact FailsBy.bind (fun _ h => LaunchInfo.isMalformed_of_ofEnvironment h) fun _ => .ok _
    · exact .ok _

end Identity

namespace Application

variable (a : Application)

/-- The framework info is passed in an envelope that was released, and the failure is that of an
access to it. -/
def PassesReleased (f : Failure) : Prop :=
  ∃ framework master, a.identity = .scheduler framework master ∧ Identity.Released framework f

theorem checkedTable_fails : FailsBy (fun f => f.isMalformed = true) a.checkedTable := by
  unfold checkedTable
  split
  · split
    · exact .ok _
    · exact .error rfl
  · exact .error rfl

theorem checkedSettings_fails : FailsBy (fun f => f.isMalformed = true) a.checkedSettings := by
  unfold checkedSettings
  split
  · exact .ok _
  · unfold Settings.ofEnvironment Settings.ofArguments
    dsimp only
    split
    · exact .ok _
    · exact .error rfl

/-- A driver is not made for one of two reasons. -/
theorem driver_fails :
    FailsBy (fun f => f.isMalformed = true ∨ a.PassesReleased f) a.driver := by
  have hremote : ∀ x, FailsBy (fun f => f.isMalformed = true) (Address.parse x) := fun x =>
    (Address.parse_fails x).imp fun f hf => by simp [Failure.isMalformed, hf]
  -- the address and the settings come last
  have hrest : ∀ {x : Argument} {f : Address → Settings → Driver × Argument},
      FailsBy (fun f => f.isMalformed = true ∨ a.PassesReleased f) (do
        let remote ← Address.parse x
        let settings ← a.checkedSettings
        .ok (f remote settings)) := fun {x f} =>
    ((hremote x).imp fun _ => Or.inl).bind fun _ =>
      (a.checkedSettings_fails.imp fun _ => Or.inl).bind fun _ => .ok _
  unfold driver
  refine (a.checkedTable_fails.imp fun _ => Or.inl).bind fun table => ?_
  cases hi : a.identity with
  | scheduler framework master =>
    -- nothing of it is completed
    have hinfo : FailsBy (fun f => f.isMalformed = true ∨ a.PassesReleased f)
        (Identity.frameworkInfo framework) :=
      (Identity.frameworkInfo_fails framework).imp fun f hf =>
        hf.imp_right fun h => ⟨framework, master, hi, h⟩
    exact (hinfo.map _).bind fun _ => hrest
  | executor agent frameworkId executorId =>
    refine ((Identity.complete_fails a.environment _).imp fun _ => Or.inl).bind_of_ok
      fun i hcomplete => ?_
    have hrole := Identity.complete_role hcomplete
    cases i with
    | scheduler => cases hrole
    | executor x f e =>
      exact (((Identity.identifiers_fails f e).imp fun _ => Or.inl).map _).bind fun _ => hrest

/-- What a driver is not made with, the master included, can be told unless the master is or holds
a number of too many digits. -/
theorem regret_fails : FailsBy (fun f => f = .longNumber ∧
    ∃ framework master, a.identity = .scheduler framework master ∧ master.shown = .error f)
    a.regret := by
  unfold regret
  cases hi : a.identity with
  | scheduler framework master =>
    intro f hf
    cases hs : master.shown with
    | ok s =>
      simp only [hs] at hf
      cases hf
    | error g =>
      simp only [hs] at hf
      cases hf
      exact ⟨master.shown_fails f hs, framework, master, rfl, hs⟩
  | executor => exact .ok _

/-! ### Answers -/

/-- What the flat surface answers an application with. -/
structure Opens (a : Application) : Prop where
  /-- If there is a driver, it is that one, which was just made and holds the callbacks given, -/
  driver : ∀ d remote, a.driver = .ok (d, remote) →
    (a.submit true).1 = .driver d ∧ d.IsNew ∧ a.table = .table d.table
  /-- and otherwise the null pair, unless a released envelope is passed as the framework info, or
  the master cannot be shown. -/
  nullPair : ∀ f, a.driver = .error f → (a.submit true).1 = .nullPair ∨
    (a.submit true).1 = .failed f ∧ a.PassesReleased f ∨
    (a.submit true).1 = .failed .longNumber ∧ a.regret = .error .longNumber
  /-- On the null pair, whatever is a call of the driver is misuse. -/
  misuse : ∀ sc : Scenario, sc.application = a → ∀ (c : Call) (x : CallOf Argument),
    (∀ r, c ≠ .read r) → (∀ i q, c ≠ .ask i q) →
      c.prepared sc.surface a.identity.role (fun _ => .error .listIndex) = .ok x →
        sc.callOnNullPair c = .error .nullPair

theorem table_of_driver {a : Application} {d : Driver} {remote : Argument}
    (h : a.driver = .ok (d, remote)) : a.table = .table d.table := by
  have htable : ∀ t, a.checkedTable = .ok t → a.table = .table t := by
    intro t ht
    unfold checkedTable at ht
    split at ht
    · rename_i t' heq
      split at ht
      · rw [heq, Except.ok.inj ht]
      · cases ht
    · cases ht
  unfold driver at h
  obtain ⟨t, ht, h⟩ := Except.bind_eq_ok_iff.mp h
  obtain ⟨i, -, h⟩ := Except.bind_eq_ok_iff.mp h
  rw [htable t ht]
  cases i with
  | scheduler | executor =>
    obtain ⟨_, -, h⟩ := Except.bind_eq_ok_iff.mp h
    obtain ⟨_, -, h⟩ := Except.bind_eq_ok_iff.mp h
    obtain ⟨_, -, h⟩ := Except.bind_eq_ok_iff.mp h
    cases h
    rfl

/-- What an application comes to for which no driver is made. -/
theorem submit_of_error {f : Failure} (h : a.driver = .error f) :
    (a.submit true).1 = if f.isMalformed then
      match a.regret with
      | .ok _ => .nullPair
      | .error g => .failed g
    else .failed f := by
  unfold submit
  rw [h]
  dsimp only
  rw [Bool.true_and]
  split
  · cases a.regret <;> rfl
  · rfl

theorem opens : a.Opens := by
  refine ⟨fun d remote h => ⟨?_, driver_new h, table_of_driver h⟩, fun f h => ?_, ?_⟩
  · unfold submit
    rw [h]
  · rw [a.submit_of_error h]
    cases hm : f.isMalformed with
    | true =>
      cases hr : a.regret with
      | ok n => exact Or.inl rfl
      | error g =>
        obtain ⟨rfl, -⟩ := a.regret_fails g hr
        exact Or.inr (Or.inr ⟨rfl, rfl⟩)
    | false =>
      have hreleased := (a.driver_fails f h).resolve_left (by simp [hm])
      exact Or.inr (Or.inl ⟨rfl, hreleased⟩)
  · rintro sc rfl c x hread hask hx
    unfold Scenario.callOnNullPair
    dsimp only
    split
    · exact absurd rfl (hread _)
    · exact absurd rfl (hask _ _)
    · rw [hx]
      rfl

/-- For a scheduler that is given a number of more than 4300 digits as its master, there is neither
a driver nor the null pair. -/
theorem unshown_fails {framework : Argument} {n : Int}
    (hi : a.identity = .scheduler framework (.number n))
    (hn : Argument.maxDigits < (Nat.toDigits 10 n.natAbs).length) :
    ∃ f, (a.submit true).1 = .failed f := by
  have hshown : (Argument.number n).shown = .error .longNumber := if_pos hn
  have hregret : a.regret = .error .longNumber := by
    unfold regret
    rw [hi]
    dsimp only
    rw [hshown]
    rfl
  cases h : a.driver with
  | ok x =>
    -- a number is no address
    unfold driver at h
    rw [hi] at h
    obtain ⟨_, -, h⟩ := Except.bind_eq_ok_iff.mp h
    obtain ⟨_, hcomplete, h⟩ := Except.bind_eq_ok_iff.mp h
    cases hcomplete
    obtain ⟨_, -, h⟩ := Except.bind_eq_ok_iff.mp h
    obtain ⟨_, hparse, -⟩ := Except.bind_eq_ok_iff.mp h
    cases hparse
  | error f =>
    rw [a.submit_of_error h, hregret]
    split
    · exact ⟨_, rfl⟩
    · exact ⟨_, rfl⟩

end Application

end ClusterLink
