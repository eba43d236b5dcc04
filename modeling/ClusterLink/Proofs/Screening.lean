/-
# Commands to a driver that is not active

A driver that is not active dismisses every command that it judges: it
answers with INVALID_STATE, or with misuse once it is destroyed
(`Driver.Dismisses`). Only, a command gets to be judged after its arguments
were copied. If one of them cannot be, then that is the failure of the
command, on a driver in any state.

So what was passed does matter for whether a command is dismissed:
it is, if and only if its arguments can be copied (`System.Screens.dismissed`).
For a command that is given directly this means that they hold bytes
(`Order.Held`), while a packed sequence may also be malformed.

Key definitions: `Driver.Dismisses`, `Order.Held`, `Failure.isOfArgument`,
`System.Screens`.
Key theorems: `Order.ready_fails`, `Order.ready_direct_iff`,
`System.run_screens`.
-/
import ClusterLink.Proofs.Cargo
import ClusterLink.Proofs.Flat
import ClusterLink.Proofs.Ruling

namespace ClusterLink

/-! ### How arguments fail -/

/-- Whether it is the failure of an argument that cannot be copied. -/
def Failure.isOfArgument : Failure → Bool
  | released _ | viewReleased | notBytes _ | notIterable _ => true
  | _ => false

/-- The failure is one of an argument. -/
abbrev Failure.OfArgument (f : Failure) : Prop := f.isOfArgument = true

open Failure (OfArgument)

namespace Argument

theorem readView_fails (c : Option Bytes) : FailsBy OfArgument (readView c) := by
  cases c with
  | none => exact .error rfl
  | some b => exact .ok b

theorem copyIn_fails (a : Argument) : FailsBy OfArgument a.copyIn := by
  cases a with
  | envelope e =>
    show FailsBy OfArgument e.read
    unfold Envelope.read
    split
    · exact FailsBy.error rfl
    · exact .ok _
  | octets b | buffer b => exact .ok b
  | view c => exact readView_fails c
  | _ => exact .error rfl

theorem elements_fails (a : Argument) : FailsBy OfArgument a.elements := by
  cases a with
  | view c => exact (readView_fails c).map _
  | list _ | octets _ | buffer _ | text _ => exact .ok _
  | _ => exact .error rfl

theorem copyInAll_fails (a : Argument) : FailsBy OfArgument a.copyInAll :=
  (elements_fails a).bind fun xs => .mapM copyIn_fails xs

theorem copyInOptional_fails (a : Option Argument) : FailsBy OfArgument (copyInOptional a) := by
  unfold copyInOptional
  split
  · exact .ok []
  · exact .ok []
  · exact copyIn_fails _

end Argument

namespace Order

variable {o : Order Argument}

/-- A packed sequence that is malformed is not a failure yet. -/
theorem unpackAll_fails (as : List Argument) : FailsBy OfArgument (unpackAll as) := by
  induction as with
  | nil => exact .ok _
  | cons a as ih =>
    unfold unpackAll unpacked
    cases ha : a.copyIn with
    | error f =>
      dsimp only [Except.bind]
      split
      · exact .ok none
      · exact .error (a.copyIn_fails f ha)
    | ok b =>
      dsimp only [Except.bind]
      cases hb : Records.unpack b with
      | error f =>
        dsimp only
        rw [if_pos (Records.unpackFrom_error hb)]
        exact .ok none
      | ok bs => exact ih.map _

theorem readyDirect_fails (o : Order Argument) : FailsBy OfArgument o.readyDirect := by
  cases o with
  | launchTasks os ts f =>
    exact os.copyInAll_fails.bind fun _ => ts.copyInAll_fails.bind fun _ =>
      (Argument.copyInOptional_fails f).bind fun _ => .ok _
  | declineOffer o f =>
    exact o.copyIn_fails.bind fun _ => (Argument.copyInOptional_fails f).bind fun _ => .ok _
  | reviveOffers => exact .ok _
  | requestResources rs => exact rs.copyInAll_fails.bind fun _ => .ok _
  | messageExecutor e s d =>
    exact e.copyIn_fails.bind fun _ => s.copyIn_fails.bind fun _ =>
      d.copyIn_fails.bind fun _ => .ok _
  | killTask a | updateStatus a | messageFramework a => exact a.copyIn_fails.bind fun _ => .ok _

theorem readyFlat_fails (o : Order Argument) : FailsBy OfArgument o.readyFlat := by
  cases o with
  | launchTasks os ts f =>
    refine (unpackAll_fails [os, ts]).bind fun r => ?_
    split
    · exact (Argument.copyInOptional_fails f).bind fun _ => .ok _
    · exact .ok _
  | requestResources rs =>
    refine (unpackAll_fails [rs]).bind fun r => ?_
    split <;> exact .ok _
  | reviveOffers => exact .ok _
  | _ => exact (readyDirect_fails _).map _

/-- A command that cannot be made ready fails by an argument. -/
theorem ready_fails (o : Order Argument) (surface : Surface) :
    FailsBy OfArgument (o.ready surface) := by
  cases surface with
  | direct => exact (readyDirect_fails o).map _
  | flat => exact readyFlat_fails o

/-- All arguments hold bytes, those that are sequences in each element. -/
def Held : Order Argument → Prop
  | launchTasks os ts f => (∃ bs, os.HoldsAll .direct bs) ∧ (∃ bs, ts.HoldsAll .direct bs) ∧
      ∃ b, Argument.HoldsOptional f b
  | declineOffer o f => (∃ b, o.Holds b) ∧ ∃ b, Argument.HoldsOptional f b
  | reviveOffers => True
  | requestResources rs => ∃ bs, rs.HoldsAll .direct bs
  | messageExecutor e s d => (∃ b, e.Holds b) ∧ (∃ b, s.Holds b) ∧ ∃ b, d.Holds b
  | killTask a | updateStatus a | messageFramework a => ∃ b, a.Holds b

theorem readyDirect_iff : (∃ c, o.readyDirect = .ok c) ↔ o.Held := by
  cases o <;>
    simp only [readyDirect, Held, Except.bind_eq_ok_iff, Argument.copyInAll_eq_ok_iff,
      Argument.copyIn_eq_ok_iff, Argument.copyInOptional_eq_ok_iff]
  case launchTasks os ts f =>
    constructor
    · rintro ⟨_, bs, ho, bs', ht, b, hf, -⟩
      exact ⟨⟨bs, ho⟩, ⟨bs', ht⟩, b, hf⟩
    · rintro ⟨⟨bs, ho⟩, ⟨bs', ht⟩, b, hf⟩
      exact ⟨_, bs, ho, bs', ht, b, hf, rfl⟩
  case declineOffer o f =>
    constructor
    · rintro ⟨_, b, ho, b', hf, -⟩
      exact ⟨⟨b, ho⟩, b', hf⟩
    · rintro ⟨⟨b, ho⟩, b', hf⟩
      exact ⟨_, b, ho, b', hf, rfl⟩
  case messageExecutor e s d =>
    constructor
    · rintro ⟨_, b, he, b', hs, b'', hd, -⟩
      exact ⟨⟨b, he⟩, ⟨b', hs⟩, b'', hd⟩
    · rintro ⟨⟨b, he⟩, ⟨b', hs⟩, b'', hd⟩
      exact ⟨_, b, he, b', hs, b'', hd, rfl⟩
  case reviveOffers => exact iff_of_true ⟨_, rfl⟩ trivial
  -- the others take one argument
  all_goals
    constructor
    · rintro ⟨_, b, hb, -⟩
      exact ⟨b, hb⟩
    · rintro ⟨b, hb⟩
      exact ⟨_, b, hb, rfl⟩

/-- A command that is given directly is made ready if its arguments hold bytes. -/
theorem ready_direct_iff : (∃ k, o.ready .direct = .ok k) ↔ o.Held := by
  rw [← readyDirect_iff]
  show (∃ k, o.readyDirect.map Readied.command = .ok k) ↔ _
  cases o.readyDirect with
  | error f => exact iff_of_false not_exists_ok not_exists_ok
  | ok c => exact iff_of_true ⟨.command c, rfl⟩ ⟨c, rfl⟩

end Order

/-! ### What is done with a command that is ready -/

/-- What is done under the lock for a command that is ready. -/
def Readied.region : Readied → Region
  | command c => .give c
  | malformed op => .turnDown op

/-- What a driver answers to a command that it does not take: it is misuse once the driver is
destroyed, and in the wrong state otherwise. -/
def Driver.Dismisses (d : Driver) (res : Except Failure Answer) : Prop :=
  if d.state = .destroyed then ∃ op, res = .error (d.gone op)
  else res = .ok (.status .invalidState)

/-- The failure of an argument does not come from a driver. -/
theorem Driver.not_dismisses {d : Driver} {f : Failure} (h : f.OfArgument) :
    ¬ d.Dismisses (.error f) := by
  unfold Dismisses
  split
  · rintro ⟨op, he⟩
    obtain rfl := Except.error.inj he
    cases h
  · intro he
    cases he

namespace Readied

variable {k : Readied} {e : Endpoint} {inside : Bool}

theorem not_granted (h : e.driver.state.isActive = false) :
    k.region.ruling inside e.driver.state ≠ .granted := by
  cases k with
  | command c =>
    intro hr
    have ha := (Region.active_granted_iff (Or.inr (Or.inr ⟨c, rfl⟩))).mp hr
    rw [h] at ha
    cases ha
  | malformed op => cases hs : e.driver.state <;> exact Ruling.noConfusion

/-- A driver that is not active dismisses a command that is ready. -/
theorem outcome_dismisses (k : Readied) (inside : Bool) (h : e.driver.state.isActive = false) :
    ∃ res, k.region.outcome inside e = .finished res ∧ e.driver.Dismisses res := by
  unfold Region.outcome Driver.Dismisses
  cases hs : e.driver.state with
  | started | running =>
    rw [hs] at h
    cases h
  | destroyed =>
    refine ⟨.error (e.driver.gone k.region.op), ?_, ?_⟩
    · cases k <;> rfl
    · rw [if_pos rfl]
      exact ⟨_, rfl⟩
  | _ =>
    refine ⟨.ok (.status .invalidState), ?_, ?_⟩
    · cases k <;> rfl
    · rw [if_neg Lifecycle.noConfusion]

end Readied

namespace System

variable {s : System} {c : Call} {o : Order Argument} {k : Readied} {n : Nat} {m : Move}
  {f : Failure} {frame : Frame}

/-- How commands come to a driver: their arguments are copied first, and their turn is judged by
the state of the driver alone. -/
structure Screens (s : System) : Prop where
  /-- Arguments that cannot be copied fail their command at once, whatever the state is, and
  nothing else happens. -/
  fails : ∀ {c o f}, c.prepared s.surface s.driver.role s.find = .ok (.order o) →
    o.ready s.surface = .error f → f.OfArgument ∧
      s.step (.call c) = s.answered c (.error f) ∧ s.callInside c = (.error f, s)
  /-- With other arguments the caller waits for the lock, as long as it is not his turn. -/
  waits : ∀ {c o k}, c.prepared s.surface s.driver.role s.find = .ok (.order o) →
    o.ready s.surface = .ok k →
      s.step (.call c) = { s with callers := s.callers ++ [⟨c, .region k.region⟩] }
  stays : ∀ {n m} {k : Readied}, s.errandOf n = some (.region k.region) →
    m ≠ .go (.caller n) → (s.step m).errandOf n = some (.region k.region)
  /-- If the driver is not active then, he is dismissed, and the driver spared. -/
  dismisses : ∀ {n} {k : Readied}, s.errandOf n = some (.region k.region) → s.isLocked = false →
    s.driver.state.isActive = false → ∃ e res, s.endpoint.Spared e ∧ s.driver.Dismisses res ∧
      s.step (.go (.caller n)) = s.replied n e res
  /-- So is a callback, which does not have to wait. -/
  dismissesInside : ∀ {frame c o k}, s.phase = .calling frame →
    c.prepared s.surface s.driver.role s.find = .ok (.order o) → o.ready s.surface = .ok k →
      s.driver.state.isActive = false → ∃ e res, s.endpoint.Spared e ∧ s.driver.Dismisses res ∧
        s.callInside c = (res, { s with endpoint := e })
  /-- A driver that is not active dismisses those commands of which the arguments can be copied. -/
  dismissed : ∀ {c o}, c.prepared s.surface s.driver.role s.find = .ok (.order o) →
    s.driver.state.isActive = false → s.isLocked = false →
      ∃ res, ((s.step (.call c)).step (.go (.caller s.callers.length))).errandOf
          s.callers.length = some (.finished res) ∧
        (s.driver.Dismisses res ↔ ∃ k, o.ready s.surface = .ok k)
  dismissedInside : ∀ {frame c o}, s.phase = .calling frame →
    c.prepared s.surface s.driver.role s.find = .ok (.order o) →
      s.driver.state.isActive = false →
        (s.driver.Dismisses (s.callInside c).1 ↔ ∃ k, o.ready s.surface = .ok k)
  /-- Arguments can be copied if they hold bytes. -/
  held : s.surface = .direct →
    ∀ {o : Order Argument}, (∃ k, o.ready s.surface = .ok k) ↔ o.Held

theorem errand_failed (hp : c.prepared s.surface s.driver.role s.find = .ok (.order o))
    (hr : o.ready s.surface = .error f) :
    c.errand s.surface s.driver s.find = .finished (.error f) := by
  simp only [CallOf.errand, hp, CallOf.work, hr]

theorem errand_ready (hp : c.prepared s.surface s.driver.role s.find = .ok (.order o))
    (hr : o.ready s.surface = .ok k) :
    c.errand s.surface s.driver s.find = .region k.region := by
  cases k <;> simp only [CallOf.errand, hp, CallOf.work, hr] <;> rfl

/-- A command is no question to an object that was kept. -/
theorem ne_ask_of_order (hp : c.prepared s.surface s.driver.role s.find = .ok (.order o)) :
    ∀ i q, c ≠ .ask i q := by
  rintro i q rfl
  cases hp

theorem command_fails (hp : c.prepared s.surface s.driver.role s.find = .ok (.order o))
    (hr : o.ready s.surface = .error f) :
    s.step (.call c) = s.answered c (.error f) ∧ s.callInside c = (.error f, s) := by
  have he := errand_failed hp hr
  refine ⟨addCaller_finished (ne_ask_of_order hp) he, ?_⟩
  rw [callInside_eq (ne_ask_of_order hp), he]
  rfl

/-- A command that is ready is dismissed by a driver that is not active when its turn comes. -/
theorem turn_dismisses (hs : s.Sound) (h : s.errandOf n = some (.region k.region))
    (hl : s.isLocked = false) (ha : s.driver.state.isActive = false) :
    ∃ e res, s.endpoint.Spared e ∧ s.driver.Dismisses res ∧
      s.step (.go (.caller n)) = s.replied n e res := by
  have hf : k.region.fruitless false s.endpoint = true := by
    simp [Region.fruitless, Readied.not_granted ha]
  obtain ⟨e, res, hsp, hres, hstep⟩ := step_spares hs h hl hf
  obtain ⟨res', hres', hd⟩ := k.outcome_dismisses false ha
  rw [hres] at hres'
  obtain rfl := Errand.finished.inj hres'
  exact ⟨e, res, hsp, hd, hstep⟩

theorem callInside_dismisses (hs : s.Sound) (hf : s.phase = .calling frame)
    (hp : c.prepared s.surface s.driver.role s.find = .ok (.order o))
    (hr : o.ready s.surface = .ok k) (ha : s.driver.state.isActive = false) :
    ∃ e res, s.endpoint.Spared e ∧ s.driver.Dismisses res ∧
      s.callInside c = (res, { s with endpoint := e }) := by
  have hfl : k.region.fruitless true s.endpoint = true := by
    simp [Region.fruitless, Readied.not_granted ha]
  obtain ⟨res, hres, hd⟩ := k.outcome_dismisses true ha
  refine ⟨_, res, Endpoint.region_spared hfl, hd, ?_⟩
  rw [callInside_region hs hf (errand_ready hp hr), hres]
  rfl

theorem errandOf_concat (s : System) (x : Caller) :
    ({ s with callers := s.callers ++ [x] } : System).errandOf s.callers.length =
      some x.errand := by
  simp [errandOf]

theorem errandOf_replied {e : Endpoint} {res : Except Failure Answer} {errand : Errand}
    (h : s.errandOf n = some errand) : (s.replied n e res).errandOf n = some (.finished res) := by
  obtain ⟨x, hx, -⟩ := errandOf_eq_some h
  rw [errandOf, replied, List.getElem?_modify_eq, hx]
  rfl

/-- Without anybody in between, a command is dismissed by a driver that is not active if its
arguments can be copied. -/
theorem command_dismissed_iff (hs : s.Sound)
    (hp : c.prepared s.surface s.driver.role s.find = .ok (.order o))
    (ha : s.driver.state.isActive = false) (hl : s.isLocked = false) :
    ∃ res, ((s.step (.call c)).step (.go (.caller s.callers.length))).errandOf
        s.callers.length = some (.finished res) ∧
      (s.driver.Dismisses res ↔ ∃ k, o.ready s.surface = .ok k) := by
  cases hr : o.ready s.surface with
  | error f =>
    have hcome := (command_fails hp hr).1
    have herr : (s.step (.call c)).errandOf s.callers.length = some (.finished (.error f)) := by
      rw [hcome]
      simp [answered, errandOf]
    have hno : ¬ s.driver.Dismisses (.error f) :=
      Driver.not_dismisses (o.ready_fails s.surface f hr)
    refine ⟨.error f, ?_, iff_of_false hno not_exists_ok⟩
    rw [step_replied herr]
    exact herr
  | ok k =>
    have hcome : s.step (.call c) = { s with callers := s.callers ++ [⟨c, .region k.region⟩] } :=
      addCaller_region (errand_ready hp hr)
    have hsound := step_sound hs (.call c)
    have hwait := s.errandOf_concat ⟨c, .region k.region⟩
    rw [hcome] at hsound
    obtain ⟨e, res, -, hd, hstep⟩ := turn_dismisses hsound hwait hl ha
    refine ⟨res, ?_, iff_of_true hd ⟨k, rfl⟩⟩
    rw [hcome, hstep]
    exact errandOf_replied hwait

theorem callInside_dismissed_iff (hs : s.Sound) (hf : s.phase = .calling frame)
    (hp : c.prepared s.surface s.driver.role s.find = .ok (.order o))
    (ha : s.driver.state.isActive = false) :
    s.driver.Dismisses (s.callInside c).1 ↔ ∃ k, o.ready s.surface = .ok k := by
  cases hr : o.ready s.surface with
  | error f =>
    have hno : ¬ s.driver.Dismisses (.error f) :=
      Driver.not_dismisses (o.ready_fails s.surface f hr)
    rw [(command_fails hp hr).2]
    exact iff_of_false hno not_exists_ok
  | ok k =>
    obtain ⟨e, res, -, hd, hcall⟩ := callInside_dismisses hs hf hp hr ha
    rw [hcall]
    exact iff_of_true hd ⟨k, rfl⟩

theorem Sound.screens (hs : s.Sound) : s.Screens where
  fails {c o f} hp hr := ⟨o.ready_fails s.surface f hr, command_fails hp hr⟩
  waits hp hr := addCaller_region (errand_ready hp hr)
  stays h hm := step_waits hs h hm
  dismisses h hl ha := turn_dismisses hs h hl ha
  dismissesInside hf hp hr ha := callInside_dismisses hs hf hp hr ha
  dismissed hp ha hl := command_dismissed_iff hs hp ha hl
  dismissedInside hf hp ha := callInside_dismissed_iff hs hf hp ha
  held hs := by
    rw [hs]
    exact Order.ready_direct_iff

/-- In every state of every run, commands are judged by the state of the driver, but only after
their arguments were copied. -/
theorem run_screens {s : System} (h : s.Begins) (moves : List Move) : (s.run moves).Screens :=
  (run_sound h.sound moves).screens

/-- A driver is started and aborted. -/
def abortingMoves : List Move := [.call .start, .go (.caller 0), .call .abort, .go (.caller 1)]

theorem aborted_screens : (sample [] [] []).Begins ∧
    ((sample [] [] []).run abortingMoves).driver.state = .aborted ∧
    ((sample [] [] []).run abortingMoves).Screens :=
  ⟨sample_begins _ _ _, rfl, run_screens (sample_begins _ _ _) abortingMoves⟩

/-- A task is to be killed that is named by a number. -/
def misnaming : Call := .order (.killTask (.plain (.number 5)))

/-- A driver that was not started does not dismiss that. -/
theorem misnaming_fails : (sample [] [] []).driver.state = .created ∧
    misnaming.prepared (sample [] [] []).surface (sample [] [] []).driver.role
      (sample [] [] []).find = .ok (.order (.killTask (.number 5))) ∧
    (((sample [] [] []).step (.call misnaming)).step (.go (.caller 0))).errandOf 0 =
      some (.finished (.error (.notBytes "int"))) ∧
    ¬ (sample [] [] []).driver.Dismisses (.error (.notBytes "int")) := by
  refine ⟨rfl, rfl, rfl, ?_⟩
  exact Driver.not_dismisses rfl

end System

end ClusterLink
