/-
# What a move tells

Apart from work, a driver connects and closes its transport, receives, takes
messages up, begins callbacks and issues status updates: its history tells
tidings of that. A move of a system
is a passage of its driver (`Endpoint.Passage`): pieces of work, the tidings
that it tells, an acknowledgement that is settled as soon as it was taken up,
the join, and the end of the dispatch loop.

Which tidings a move tells can be read off the system before the move
(`System.tells`, `System.step_passage`). A message that the dispatch thread
takes up is told with the callback that begins for it, and a failure of the
driver itself with the error callback. A status update is issued by the call
of a callback or of a caller whose turn it is, if the driver is active.

Key definitions: `Event.isTiding`, `History.tidings`, `Endpoint.Passage`,
`System.report?`, `System.tells`.
Key theorem: `System.step_passage`.
-/
import ClusterLink.Proofs.Course
import ClusterLink.Proofs.Vocabulary
import ClusterLink.Proofs.Work

namespace ClusterLink

/-! ### Tidings -/

namespace Event

/-- Whether the event tells that the transport was connected, used to receive or closed, or that
something was taken up, called back or issued. -/
def isTiding : Event → Bool
  | connecting | connected | received _ | closed | taken _ | began ..
  | accepted .command (.statusUpdate ..) => true
  | _ => false

/-- Whether the event is a part of how a callback or a caller's call goes on, or how the dispatch
loop ends. -/
def isTale : Event → Bool
  | ended _ | broke .. | acted .. | held _ | threadNamed _ | returned .. | threadRaised _
  | escaped _ => true
  | _ => false

/-- The identifier of the status update that an agent acknowledges. -/
def acknowledged? : Event → Option Bytes
  | taken (.statusUpdateAcknowledgement _ uuid) => some uuid
  | _ => none

theorem isWork.not_tiding {v : Event} (h : v.isWork = true) : v.isTiding = false := by
  cases v with
  | accepted why m =>
    cases why with
    | command => cases m <;> first | rfl | cases h
    | _ => rfl
  | _ => first | rfl | cases h

theorem isTale.not_tiding {v : Event} (h : v.isTale = true) : v.isTiding = false := by
  cases v <;> first | rfl | cases h

end Event

namespace History

/-- The tidings of a history. -/
def tidings (h : List Event) : List Event := (h.filter Event.isTiding).reverse

theorem tidings_cons_of {v : Event} (hv : v.isTiding = true) (h : List Event) :
    tidings (v :: h) = tidings h ++ [v] := by
  simp [tidings, hv]

theorem tidings_append_of_not {new : List Event} (hn : ∀ v ∈ new, v.isTiding = false)
    (h : List Event) : tidings (new ++ h) = tidings h := by
  have hf : new.filter Event.isTiding = [] :=
    List.filter_eq_nil_iff.mpr fun v hv => by simp [hn v hv]
  simp [tidings, hf]

/-- What is read off the tidings alone. -/
theorem filterMap_tidings {α : Type} {f : Event → Option α}
    (hf : ∀ v, v.isTiding = false → f v = none) (h : List Event) :
    (h.filterMap f).reverse = (tidings h).filterMap f := by
  have hif : (fun v : Event => if v.isTiding = true then f v else none) = f := by
    funext v
    split
    · rfl
    · rename_i hv
      exact (hf v (by simpa using hv)).symm
  rw [tidings, List.filterMap_reverse, List.filterMap_filter, hif]

end History

/-! ### Passages -/

namespace Endpoint

/-- What becomes of a driver in one move, which tells some tidings. -/
inductive Passage (e : Endpoint) : List Event → Endpoint → Prop
  | rest : Passage e [] e
  | work {told : List Event} {x y : Endpoint} (h : Passage e told x) (hw : Work x y) :
    Passage e told y
  | tale {told : List Event} {x : Endpoint} {v : Event} (h : Passage e told x)
    (hv : v.isTale = true) : Passage e told (x.record v)
  /-- A tiding; an update is told when it is issued, and an executor's acknowledgement when it is
  settled. -/
  | tell {told : List Event} {x : Endpoint} {v : Event} (h : Passage e told x)
    (hv : v.isTiding = true) (hi : v.issued? = none)
    (ha : x.driver.role = .executor → v.acknowledged? = none) :
    Passage e (told ++ [v]) (x.record v)
  | settle {told : List Event} {x : Endpoint} (h : Passage e told x) (frameworkId uuid : Bytes)
    (hr : x.driver.role = .executor) (hs : x.driver.state = .running) :
    Passage e (told ++ [.taken (.statusUpdateAcknowledgement frameworkId uuid)])
      ((x.record (.taken (.statusUpdateAcknowledgement frameworkId uuid))).settle uuid)
  | issue {told : List Event} {x : Endpoint} (h : Passage e told x) (status : Bytes)
    (ha : x.driver.state.isActive = true) :
    Passage e (told ++ [.accepted .command
        (.statusUpdate status (x.surroundings.ids (x.surroundings.drawn + 1)))])
      (x.issue (.updateStatus status))
  | enter {told : List Event} {x : Endpoint} (h : Passage e told x)
    (hs : x.driver.state ≠ .running) : Passage e told x.enter.2
  /-- The end of the dispatch loop is put down. -/
  | finish {told : List Event} {x : Endpoint} (h : Passage e told x) (done : Bool)
    (final : Option Status) :
    Passage e told { x with driver.done := done, driver.finalStatus := final }

namespace Passage

variable {e x y : Endpoint} {told told' : List Event}

theorem trans (h : Passage e told x) (h' : Passage x told' y) : Passage e (told ++ told') y := by
  induction h' with
  | rest => rw [List.append_nil]; exact h
  | work _ hw ih => exact .work ih hw
  | tale _ hv ih => exact .tale ih hv
  | tell _ hv hi ha ih => rw [← List.append_assoc]; exact .tell ih hv hi ha
  | settle _ f u hr hs ih => rw [← List.append_assoc]; exact .settle ih f u hr hs
  | issue _ status ha ih => rw [← List.append_assoc]; exact .issue ih status ha
  | enter _ hs ih => exact .enter ih hs
  | finish _ done final ih => exact .finish ih done final

/-- Two passages of which the second tells nothing. -/
theorem before (h : Passage e told x) (h' : Passage x [] y) : Passage e told y := by
  have := h.trans h'
  rwa [List.append_nil] at this

/-- The driver stays the one that it is. -/
theorem same (h : Passage e told x) : x.driver.role = e.driver.role ∧
    x.driver.table = e.driver.table ∧ x.driver.payload = e.driver.payload := by
  have hgo : ∀ {x y : Endpoint}, Continues x y → x.driver.role = e.driver.role ∧
      x.driver.table = e.driver.table ∧ x.driver.payload = e.driver.payload →
      y.driver.role = e.driver.role ∧ y.driver.table = e.driver.table ∧
        y.driver.payload = e.driver.payload := fun hc ⟨hr, ht, hp⟩ =>
    ⟨hc.role.trans hr, hc.table.trans ht, hc.payload.trans hp⟩
  induction h with
  | rest => exact ⟨rfl, rfl, rfl⟩
  | work _ hw ih => exact hgo hw.continues ih
  | tale _ _ ih => exact ih
  | tell _ _ _ _ ih => exact ih
  | settle _ _ u _ _ ih => exact hgo (settle_continues _ u) ih
  | @issue _ x _ status _ ih =>
    obtain ⟨b, p, hd⟩ := x.issue_driver status
    rw [hd]
    exact ih
  | enter _ _ ih => exact hgo (enter_continues _) ih
  | finish _ _ _ ih => exact ih

/-- The tidings of the history grow by those that the passage tells. -/
theorem tidings (h : Passage e told x) :
    History.tidings x.history = History.tidings e.history ++ told := by
  have hgo : ∀ {x y : Endpoint}, Continues x y →
      History.tidings y.history = History.tidings x.history := by
    rintro x y ⟨-, -, -, new, hh, hn⟩
    rw [hh]
    exact History.tidings_append_of_not (fun v hv => Event.isWork.not_tiding (hn v hv)) _
  induction h with
  | rest => exact (List.append_nil _).symm
  | work _ hw ih => exact (hgo hw.continues).trans ih
  | @tale told x v _ hv ih =>
    have hn : ∀ w ∈ [v], w.isTiding = false := by simpa using Event.isTale.not_tiding hv
    exact (History.tidings_append_of_not hn _).trans ih
  | tell _ hv _ _ ih =>
    have h1 := History.tidings_cons_of hv
    exact (h1 _).trans (by rw [ih, List.append_assoc])
  | settle _ f u _ _ ih =>
    refine (hgo (settle_continues _ u)).trans ?_
    exact (History.tidings_cons_of rfl _).trans (by rw [ih, List.append_assoc])
  | @issue _ x _ status _ ih =>
    obtain ⟨new, hh, hn⟩ := x.issue_history status
    rw [hh, History.tidings_append_of_not fun v hv => Event.isWork.not_tiding (hn v hv)]
    exact (History.tidings_cons_of rfl _).trans (by rw [ih, List.append_assoc])
  | enter _ _ ih => exact (hgo (enter_continues _)).trans ih
  | finish _ _ _ ih => exact ih

end Passage

theorem Works.passage {e e' : Endpoint} (h : Works e e') : Passage e [] e' := by
  induction h with
  | refl => exact .rest
  | tail _ hw ih => exact .work ih hw

theorem tale_passage (e : Endpoint) {v : Event} (hv : v.isTale = true) :
    Passage e [] (e.record v) :=
  .tale .rest hv

theorem note_passage (e : Endpoint) (n : Note) : Passage e [] (e.note n) := (note_works e n).passage

/-! ### Connecting and closing -/

/-- What is told of the second half of connecting: that it succeeded, if it did. -/
def links (e : Endpoint) : List Event :=
  match e.connectEnd.1 with
  | .ok () => [.connected]
  | .error _ => []

theorem connectStart_passage (e : Endpoint) : Passage e [.connecting] e.connectStart.2 := by
  have h1 : Passage e [.connecting] (e.record .connecting) := .tell .rest rfl rfl fun _ => rfl
  exact h1.before (useTransport_works _ _).passage

theorem connectEnd_passage (e : Endpoint) : Passage e e.links e.connectEnd.2 := by
  have h1 := (useTransport_works e Transport.connectEnd).passage
  unfold links connectEnd
  dsimp only
  cases (e.useTransport Transport.connectEnd).1 with
  | error f => exact h1
  | ok _ =>
    have h2 : Passage e [.connected] ((e.useTransport Transport.connectEnd).2.record .connected) :=
      .tell h1 rfl rfl fun _ => rfl
    cases ((e.useTransport Transport.connectEnd).2.record .connected).surroundings.transport with
    | scripted t => exact h2
    | sockets t => exact h2.before (note_passage _ _)

theorem closeTransport_passage (e : Endpoint) : Passage e [.closed] e.closeTransport := by
  have h1 : Passage e [.closed] ((e.useTransport Transport.close).2.record .closed) :=
    .tell (useTransport_works e Transport.close).passage rfl rfl fun _ => rfl
  unfold closeTransport
  dsimp only
  split
  · exact h1
  · exact h1.before (note_passage _ _)

theorem leave_passage (e : Endpoint) : Passage e [.closed] e.leave := by
  have hr : e.breakOff.driver.state ≠ .running := by
    intro hs
    have hi := e.breakOff_inactive
    rw [hs] at hi
    cases hi
  have h1 : Passage e [] { e.breakOff with driver.connected := false, driver.backlog := [] } :=
    .work (breakOff_works e).passage (.forget false hr)
  have h2 := h1.finish e.breakOff.driver.done (some e.breakOff.driver.state.status)
  exact h2.trans (closeTransport_passage _)

theorem signal_passage (e : Endpoint) : Passage e [] e.signal :=
  (Passage.rest.finish true e.driver.finalStatus).before (note_passage _ _)

end Endpoint

/-! ### Issuing status updates -/

/-- The status update that a region reports, if its command is accepted. -/
def Region.report? : Region → Option Bytes
  | give (.updateStatus data) => some data
  | _ => none

/-- The status update that an errand reports. -/
def Errand.report? : Errand → Option Bytes
  | region r => r.report?
  | _ => none

theorem Region.report?_eq_some {r : Region} {data : Bytes} :
    r.report? = some data ↔ r = give (.updateStatus data) := by
  constructor
  · intro h
    cases r with
    | give c =>
      cases c with
      | updateStatus data' =>
        obtain rfl := Option.some.inj h
        rfl
      | _ => cases h
    | _ => cases h
  · rintro rfl
    rfl

theorem Errand.report?_eq_some {errand : Errand} {data : Bytes} :
    errand.report? = some data ↔ errand = region (.give (.updateStatus data)) := by
  cases errand with
  | region r => simp [report?, Region.report?_eq_some]
  | _ => simp [report?]

namespace Endpoint

/-- What is told of a status update that is reported: an active driver issues it. -/
def issues (e : Endpoint) : Option Bytes → List Event
  | some status =>
    if e.driver.state.isActive then
      [.accepted .command (.statusUpdate status (e.surroundings.ids (e.surroundings.drawn + 1)))]
    else []
  | none => []

theorem region_passage (e : Endpoint) (inside : Bool) (r : Region) :
    Passage e (e.issues r.report?) (e.region inside r).2 := by
  by_cases hr : ∃ status, r = .give (.updateStatus status)
  · obtain ⟨status, rfl⟩ := hr
    show Passage e (if e.driver.state.isActive then _ else []) (e.order (.updateStatus status)).2
    unfold order
    by_cases ha : e.driver.state.isActive = true
    · have hd : e.driver.state ≠ .destroyed := fun hd => by rw [hd] at ha; cases ha
      rw [if_pos ha, if_neg hd, if_neg (by simp [ha])]
      exact .issue .rest status ha
    · rw [if_neg ha]
      split
      · exact .rest
      · rw [if_pos (by simpa using ha)]
        exact note_passage _ _
  · have hr : ∀ status, r ≠ .give (.updateStatus status) := fun status hs => hr ⟨status, hs⟩
    have hn : r.report? = none :=
      Option.eq_none_iff_forall_ne_some.mpr fun status hs =>
        hr status (Region.report?_eq_some.mp hs)
    rw [hn]
    exact (region_works e inside hr).passage

/-- What a callback's call does. -/
theorem conduct_passage {e : Endpoint} (errand : Errand) (h : e.driver.state ≠ .created) :
    Passage e (e.issues errand.report?) (e.conduct errand).2 := by
  cases errand with
  | region r =>
    have h1 := region_passage e true r
    unfold conduct
    dsimp only
    split
    · rename_i hreg
      exact absurd (region_region hreg) h
    · rename_i hreg
      rw [hreg] at h1
      exact h1
  | _ => exact .rest

end Endpoint

/-! ### Operations of the dispatch thread -/

/-- The use that the dispatch thread makes of the transport in a phase. -/
inductive Phase.Contacts : Phase → Event → Prop
  | connecting : Contacts begun .connecting
  | connected : Contacts linking .connected
  | received (r : Except Failure (List Message)) : Contacts receiving (.received r)
  | closed (cause : Option Failure) : Contacts (closing cause) .closed

namespace System

/-- From one system to another, the driver passes in some way that tells some tidings. -/
def Passes (s : System) (told : List Event) (s' : System) : Prop :=
  Endpoint.Passage s.endpoint told s'.endpoint

theorem Passes.after {s t s' : System} {told : List Event} (h : Passes t told s')
    (h1 : Endpoint.Passage s.endpoint [] t.endpoint) : Passes s told s' :=
  h1.trans h

theorem Passes.following {s t s' : System} {told : List Event} (h : Passes t [] s')
    (h1 : Endpoint.Passage s.endpoint told t.endpoint) : Passes s told s' :=
  h1.before h

theorem resume_passes (s : System) (after : After) : s.Passes [] (s.resume after) := by
  cases after with
  | message m rest => exact (s.endpoint.conclude_works m).passage
  | _ => exact .rest

theorem escape_passes (s : System) (f : Failure) : s.Passes [] (s.escape f) := by
  have h1 := s.endpoint.tale_passage (v := .escaped f) rfl
  unfold escape
  dsimp only
  split
  · exact h1.before (Endpoint.note_passage _ _)
  · exact h1.before (Endpoint.note_passage _ _)

/-- A callback begins if its slot is bound. -/
theorem invoke_passes (s : System) (slot : Slot) (args : List Parameter) (after : After) :
    s.Passes
      (if s.driver.table.binds slot then [.began slot s.driver.state s.driver.payload args] else [])
      (s.invoke slot args after) := by
  unfold invoke
  split
  · exact .tell .rest rfl rfl fun _ => rfl
  · exact s.resume_passes after

/-- A driver that fails while it is active raises the alarm. -/
theorem fail_passes (s : System) (message : WideText) (after : After) :
    s.Passes (if s.driver.state.isActive then s.driver.alarms message else [])
      (s.fail message after) := by
  have h1 : Endpoint.Passage s.endpoint [] (s.giveUp message).endpoint :=
    .work (Endpoint.note_passage _ _) (.become Lifecycle.noConfusion)
  unfold Driver.alarms
  rcases s.fail_cases message after with ⟨ha, b, hb, he⟩ | ⟨ha, hb, he⟩ | ⟨ha, he⟩ <;> rw [he, ha]
  · rw [hb]
    exact ((s.giveUp message).invoke_passes .error [.envelope b] after).after h1
  · rw [hb]
    exact (escape_passes _ _).after h1
  · exact (resume_passes _ after).after (Endpoint.note_passage _ (.failedLate message))

theorem endCallback_passes (s : System) (frame : Frame) (failure : Option Failure) :
    s.Passes [] (s.endCallback frame failure) := by
  cases failure with
  | none =>
    exact (resume_passes _ frame.after).after (s.endpoint.tale_passage (v := .ended frame.slot) rfl)
  | some f =>
    have h1 := s.endpoint.tale_passage (v := .broke frame.slot f) rfl
    by_cases hf : f.isMisuse = true
    · have h2 : Endpoint.Passage s.endpoint []
          ((s.endpoint.record (.broke frame.slot f)).become .aborted) :=
        .work h1 (.become Lifecycle.noConfusion)
      simp only [endCallback, hf, if_true]
      split
      · exact h2
      · exact (escape_passes _ f).after h2
    · have h2 := h1.trans (Endpoint.note_passage _ (.callbackFailed frame.slot))
      have h3 := h2.trans (Endpoint.breakOff_works _).passage
      have hf : f.isMisuse = false := by simpa using hf
      simp only [endCallback, hf, Bool.false_eq_true, if_false]
      exact (resume_passes _ frame.after).after h3

/-- The status update that a callback reports with what it does next. -/
def actReport? (s : System) (frame : Frame) : Option Bytes :=
  match frame.actions with
  | .call c _ :: _ => (c.errand s.surface s.driver s.find).report?
  | _ => none

theorem callInside_passes {s : System} (c : Call) (h : s.driver.state ≠ .created) :
    s.Passes (s.endpoint.issues (c.errand s.surface s.driver s.find).report?)
      (s.callInside c).2 := by
  unfold Passes
  rcases s.callInside_cases c with ⟨⟨i, q, rfl⟩, hc⟩ | hc
  · rw [hc]
    exact .rest
  · rw [hc]
    exact Endpoint.conduct_passage _ h

theorem act_passes {s : System} (frame : Frame) (h : s.driver.state ≠ .created) :
    s.Passes (s.endpoint.issues (s.actReport? frame)) (s.act frame) := by
  obtain ⟨slot, lent, actions, held, after⟩ := frame
  cases actions with
  | nil => exact s.endCallback_passes _ none
  | cons a actions =>
    cases a with
    | call c passOn =>
      have h1 := (callInside_passes c h).before
        (Endpoint.tale_passage _ (v := .acted c.op (s.callInside c).1) rfl)
      simp only [act, actReport?]
      split
      · exact (endCallback_passes _ _ _).following h1
      · exact h1
    | raise f => exact s.endCallback_passes _ _
    | hold => exact s.endpoint.tale_passage (v := .held slot) rfl
    | keep => exact .rest
    | keepViews =>
      simp only [act, actReport?]
      split
      · rename_i s' hk
        unfold Passes
        dsimp only
        rw [(keepViews_eq hk).1]
        exact .rest
      · exact s.endCallback_passes _ _
    | nameThread => exact s.endpoint.tale_passage (v := .threadNamed s.driver.threadName) rfl

/-! ### Taking a message up -/

/-- The system when a message was taken up, and is to be reacted to. -/
def facing (s : System) (m : Message) : System :=
  { s with endpoint := (s.endpoint.record (.taken m)).prepare m }

/-- The driver stays what it is, and in its state. -/
theorem facing_driver {s : System} (m : Message) (ha : s.driver.state.isActive = true) :
    ((s.facing m).driver.role = s.driver.role ∧ (s.facing m).driver.table = s.driver.table ∧
      (s.facing m).driver.payload = s.driver.payload) ∧
      (s.facing m).driver.state = s.driver.state := by
  have hw : Endpoint.Continues (s.endpoint.record (.taken m)) (s.facing m).endpoint :=
    Endpoint.prepare_continues _ m
  exact ⟨⟨hw.role, hw.table, hw.payload⟩,
    (Endpoint.prepare_deeds (e := s.endpoint.record (.taken m)) m ha).2⟩

/-- A message that is no event changes nothing before it is reacted to. -/
theorem facing_of_none {s : System} {m : Message} (h : s.driver.role.event? m = none) :
    s.facing m = s.record (.taken m) := by
  have hp : (s.endpoint.record (.taken m)).prepare m = s.endpoint.record (.taken m) := by
    unfold Endpoint.prepare
    split
    · rename_i hr
      have hr : s.driver.role = .scheduler := hr
      rw [hr] at h
      cases h
    · rename_i hr
      have hr : s.driver.role = .executor := hr
      rw [hr] at h
      cases h
    · rfl
  unfold facing
  rw [hp]
  rfl

/-- What is done about a message that is taken up is what the driver's role says. -/
theorem take_eq {s : System} (m : Message) (rest : List Message)
    (ha : s.driver.state.isActive = true) :
    s.take m rest = match s.driver.reaction m with
      | .invoke slot args => (s.facing m).invoke slot args (.message m rest)
      | .settle uuid =>
        { s.facing m with endpoint := (s.facing m).endpoint.settle uuid, phase := phaseFor rest }
      | .fail message => (s.facing m).fail message (.message m rest)
      | .ignore => { (s.facing m).note (.unexpected m) with phase := phaseFor rest } := by
  have hre : s.driver.reaction m = (s.facing m).driver.reaction m := by
    unfold Driver.reaction
    rw [(facing_driver m ha).1.1]
  rw [hre]
  rfl

/-- An acknowledgement that reaches an executor is settled. -/
theorem take_acknowledgement {s : System} (f uuid : Bytes) (rest : List Message)
    (hr : s.driver.role = .executor) (ha : s.driver.state.isActive = true) :
    s.take (.statusUpdateAcknowledgement f uuid) rest =
      { s with
        endpoint := (s.endpoint.record (.taken (.statusUpdateAcknowledgement f uuid))).settle uuid
        phase := phaseFor rest } := by
  have hn : s.driver.role.event? (.statusUpdateAcknowledgement f uuid) = none := by rw [hr]; rfl
  have hre : s.driver.reaction (.statusUpdateAcknowledgement f uuid) = .settle uuid := by
    unfold Driver.reaction
    rw [hr]
    rfl
  rw [take_eq _ rest ha, hre, facing_of_none hn]
  rfl

/-- A message that the role has no use for is noted, and that is all. -/
theorem take_ignored {s : System} {m : Message} (rest : List Message)
    (hn : s.driver.role.event? m = none) (hre : s.driver.reaction m = .ignore)
    (ha : s.driver.state.isActive = true) :
    s.take m rest = { (s.record (.taken m)).note (.unexpected m) with phase := phaseFor rest } := by
  rw [take_eq _ rest ha, hre, facing_of_none hn]

theorem step_handling {s : System} {m : Message} {rest : List Message}
    (hp : s.phase = .handling (m :: rest)) : s.step (.go .dispatch) = s.handle (m :: rest) := by
  simp only [step, need, dispatchNeed, hp, provides, isLocked, advance, dispatch]
  rfl

/-- The callbacks that the table says begin for a message begin when it is taken up. -/
theorem take_passes {s : System} (m : Message) (rest : List Message)
    (hs : s.driver.state = .running) :
    s.Passes (.taken m :: s.driver.calls m) (s.take m rest) := by
  have ha : s.driver.state.isActive = true := by rw [hs]; rfl
  obtain ⟨⟨-, ht, hp⟩, hst⟩ := facing_driver m ha
  have hface : (s.driver.role = .executor → (Event.taken m).acknowledged? = none) →
      Endpoint.Passage s.endpoint [.taken m] (s.facing m).endpoint := fun hack => by
    have h1 : Endpoint.Passage s.endpoint [.taken m] (s.endpoint.record (.taken m)) :=
      .tell .rest rfl rfl hack
    exact h1.before (Endpoint.prepare_works m hs).passage
  cases hev : s.driver.role.event? m with
  | none =>
    have hc : s.driver.calls m = [] := by simp only [Driver.calls, hev]
    rw [hc]
    rcases Driver.reaction_of_none hev with ⟨hr, f, uuid, rfl, -⟩ | ⟨hn, hre⟩
    · rw [take_acknowledgement f uuid rest hr ha]
      exact .settle .rest f uuid hr hs
    · have hack : s.driver.role = .executor → (Event.taken m).acknowledged? = none := fun hr => by
        cases m with
        | statusUpdateAcknowledgement f uuid => exact absurd rfl (hn hr f uuid)
        | _ => rfl
      rw [take_ignored rest hev hre ha]
      have h1 : Endpoint.Passage s.endpoint [.taken m] (s.endpoint.record (.taken m)) :=
        .tell .rest rfl rfl hack
      exact h1.before (Endpoint.note_passage _ (.unexpected m))
  | some slot =>
    have hack : s.driver.role = .executor → (Event.taken m).acknowledged? = none := fun hr => by
      cases m with
      | statusUpdateAcknowledgement f uuid => rw [hr] at hev; cases hev
      | _ => rfl
    have h1 := hface hack
    rw [take_eq _ rest ha]
    rcases Driver.reaction_of_event hev with ⟨hslot, hre⟩ | ⟨rfl, text, rfl, hre⟩
    · have h2 := (s.facing m).invoke_passes slot (m.arguments (s.driver.role.signature slot))
        (.message m rest)
      have hc : s.driver.calls m = if (s.facing m).driver.table.binds slot then
          [.began slot (s.facing m).driver.state (s.facing m).driver.payload
            (m.arguments (s.driver.role.signature slot))] else [] := by
        simp only [Driver.calls, hev, if_neg hslot, ht, hp, hst, hs,
          Driver.isTold_of_event hev hslot, Bool.and_true]
      rw [hre, hc]
      exact h1.trans h2
    · have h2 := (s.facing (.error text)).fail_passes text (.message (.error text) rest)
      have hal : (s.facing (.error text)).driver.alarms text = s.driver.alarms text := by
        unfold Driver.alarms
        rw [ht, hp]
      rw [hst, ha, if_pos rfl, hal] at h2
      rw [hre, Driver.calls_error]
      exact h1.trans h2

/-! ### Moves -/

theorem receive_passes (s : System) (a : Arrival) :
    s.Passes [.received (s.endpoint.surroundings.transport.receive
      s.driver.settings.receiveTimeout a).1] (s.receive a) := by
  have h1 := (Endpoint.useTransport_works s.endpoint
    (Transport.receive s.driver.settings.receiveTimeout a)).passage
  have h2 : Endpoint.Passage s.endpoint [.received (s.endpoint.surroundings.transport.receive
      s.driver.settings.receiveTimeout a).1] _ :=
    .tell h1 rfl rfl fun _ => rfl
  unfold receive
  dsimp only
  split
  · exact h2
  · exact (escape_passes _ _).following h2

theorem proceed_passes {s : System} {r : Except Failure Unit × Endpoint} {told : List Event}
    (phase : Phase) (h : Endpoint.Passage s.endpoint told r.2) :
    s.Passes told (s.proceed r phase) := by
  unfold proceed
  dsimp only
  split
  · exact h
  · exact (escape_passes _ _).following h

/-- The status update that is reported with a move: by a callback, or by a caller whose turn it
is. -/
def report? (s : System) : Move → Option Bytes
  | .go .dispatch =>
    match s.phase with
    | .calling frame => if frame.held then none else s.actReport? frame
    | _ => none
  | .go (.caller n) => if s.isLocked then none else (s.errandOf n).bind Errand.report?
  | _ => none

/-- What the dispatch thread tells with its next move, apart from status updates. -/
def threadTells (s : System) : List Event :=
  match s.phase with
  | .begun => if s.driver.attached then [.connecting] else []
  | .linking => if s.gateOpen then s.endpoint.links else []
  | .handling (m :: _) => if s.driver.state.isActive then .taken m :: s.driver.calls m else []
  | .reporting f | .escaped f => if s.driver.state.isActive then s.driver.alarms f.shown else []
  | .receiving =>
    match s.refusal, s.inbox with
    | some f, _ => [.received (.error f)]
    | none, [] => []
    | none, a :: _ =>
      [.received (s.endpoint.surroundings.transport.receive s.driver.settings.receiveTimeout a).1]
  | .closing _ => [.closed]
  | _ => []

/-- What a move tells apart from status updates: only the dispatch thread does. -/
def deliveries (s : System) : Move → List Event
  | .go .dispatch => s.threadTells
  | _ => []

/-- What a move tells. -/
def tells (s : System) (m : Move) : List Event :=
  s.deliveries m ++ s.endpoint.issues (s.report? m)

theorem deliveries_of_ne (s : System) {m : Move} (hm : m ≠ .go .dispatch) :
    s.deliveries m = [] := by
  unfold deliveries
  split
  · exact absurd rfl hm
  · rfl

/-- A move of an active driver may tell of a message and its callback, or of a failure and the
error callback; whatever else it tells is the use that the dispatch thread makes of the
transport. -/
theorem deliveries_cases (s : System) (m : Move) : s.deliveries m = [] ∨
    (∃ x rest, m = .go .dispatch ∧ s.phase = .handling (x :: rest) ∧
      s.driver.state.isActive = true ∧ s.deliveries m = .taken x :: s.driver.calls x) ∨
    (∃ f, m = .go .dispatch ∧ (s.phase = .reporting f ∨ s.phase = .escaped f) ∧
      s.driver.state.isActive = true ∧ s.deliveries m = s.driver.alarms f.shown) ∨
    ∃ v, m = .go .dispatch ∧ s.phase.Contacts v ∧ s.deliveries m = [v] := by
  by_cases hm : m = .go .dispatch
  · subst hm
    show s.threadTells = [] ∨ (∃ x rest, _ ∧ _ ∧ _ ∧ s.threadTells = _) ∨
      (∃ f, _ ∧ _ ∧ _ ∧ s.threadTells = _) ∨ ∃ v, _ ∧ _ ∧ s.threadTells = _
    cases hp : s.phase with
    | handling ms =>
      cases ms with
      | nil => exact Or.inl (by simp only [threadTells, hp])
      | cons x rest =>
        simp only [threadTells, hp]
        split
        · rename_i ha
          exact Or.inr (Or.inl ⟨x, rest, trivial, rfl, ha, rfl⟩)
        · exact Or.inl rfl
    | reporting f =>
      simp only [threadTells, hp]
      split
      · rename_i ha
        exact Or.inr (Or.inr (Or.inl ⟨f, trivial, Or.inl rfl, ha, rfl⟩))
      · exact Or.inl rfl
    | escaped f =>
      simp only [threadTells, hp]
      split
      · rename_i ha
        exact Or.inr (Or.inr (Or.inl ⟨f, trivial, Or.inr rfl, ha, rfl⟩))
      · exact Or.inl rfl
    | receiving =>
      simp only [threadTells, hp]
      split
      · exact Or.inr (Or.inr (Or.inr ⟨_, trivial, .received _, rfl⟩))
      · exact Or.inl rfl
      · exact Or.inr (Or.inr (Or.inr ⟨_, trivial, .received _, rfl⟩))
    | begun =>
      simp only [threadTells, hp]
      split
      · exact Or.inr (Or.inr (Or.inr ⟨_, trivial, .connecting, rfl⟩))
      · exact Or.inl rfl
    | linking =>
      simp only [threadTells, hp, Endpoint.links]
      split
      · split
        · exact Or.inr (Or.inr (Or.inr ⟨_, trivial, .connected, rfl⟩))
        · exact Or.inl rfl
      · exact Or.inl rfl
    | closing cause =>
      simp only [threadTells, hp]
      exact Or.inr (Or.inr (Or.inr ⟨_, trivial, .closed cause, rfl⟩))
    | _ => exact Or.inl (by simp only [threadTells, hp])
  · exact Or.inl (s.deliveries_of_ne hm)

/-- Nothing is delivered while a callback goes on. -/
theorem deliveries_calling {s : System} {frame : Frame} (hp : s.phase = .calling frame) (m : Move) :
    s.deliveries m = [] := by
  unfold deliveries
  split
  · simp only [threadTells, hp]
  · rfl

/-- Only callbacks report status updates on the dispatch thread. -/
theorem tells_dispatch {s : System} (hp : ∀ frame, s.phase ≠ .calling frame) :
    s.tells (.go .dispatch) = s.threadTells := by
  have hr : s.report? (.go .dispatch) = none := by
    cases hph : s.phase with
    | calling frame => exact absurd hph (hp frame)
    | _ => simp only [report?, hph]
  simp only [tells, deliveries, hr, Endpoint.issues, List.append_nil]

/-- The next move of the dispatch thread, unless a callback runs. -/
theorem dispatch_passes {s : System} (h : s.Sound) (hc : ∀ frame, s.phase ≠ .calling frame)
    (hn : s.provides s.dispatchNeed = true) : s.Passes s.threadTells s.dispatch := by
  have ha := h.admits
  unfold threadTells dispatch
  cases hp : s.phase with
  | idle | ended => exact .rest
  | begun =>
    dsimp only
    split
    · exact proceed_passes .linking s.endpoint.connectStart_passage
    · exact s.endpoint.tale_passage (v := .threadRaised _) rfl
  | linking =>
    have hg : s.gateOpen = true := by simpa only [dispatchNeed, hp, provides] using hn
    rw [if_pos hg]
    exact proceed_passes .entering s.endpoint.connectEnd_passage
  | entering =>
    rw [hp] at ha
    exact proceed_passes .checking (.enter .rest ha.2)
  | checking => exact .rest
  | deciding =>
    dsimp only
    split <;> exact .rest
  | reporting f => exact s.fail_passes _ _
  | escaped f => exact s.fail_passes _ _
  | receiving =>
    dsimp only
    cases s.refusal with
    | some f =>
      have h1 : Endpoint.Passage s.endpoint [.received (.error f)]
          (s.endpoint.record (.received (.error f))) :=
        .tell .rest rfl rfl fun _ => rfl
      exact (escape_passes _ f).following h1
    | none =>
      cases s.inbox with
      | nil => exact .rest
      | cons a inbox => exact receive_passes { s with phase := .receiving, inbox } a
  | handling ms =>
    rw [hp] at ha
    cases ms with
    | nil => exact .rest
    | cons m rest =>
      dsimp only [handle]
      split
      · rename_i hact
        exact take_passes m rest (running_of_active hact ha.2)
      · exact Endpoint.note_passage _ _
  | ticking =>
    dsimp only
    rw [hp] at ha
    split
    · rename_i hact
      have hrun : s.driver.state = .running := running_of_active hact ha.2
      exact proceed_passes .checking (Endpoint.tick_works hrun).passage
    · exact .rest
  | calling frame => exact absurd hp (hc frame)
  | closing cause => exact s.endpoint.leave_passage
  | signalling cause =>
    have h1 := s.endpoint.signal_passage
    cases cause with
    | none => exact h1
    | some f => exact h1.before (Endpoint.tale_passage _ (v := .threadRaised f) rfl)

theorem assign_passes (s : System) (n : Nat) (errand : Errand) :
    s.Passes [] (s.assign n errand) := by
  unfold assign
  dsimp only
  split
  · exact s.endpoint.tale_passage (v := .returned n _) rfl
  · exact .rest

/-- The next move of the dispatch thread while a callback runs. -/
theorem calling_passes {s : System} (h : s.Sound) {frame : Frame} (hp : s.phase = .calling frame) :
    s.Passes (s.tells (.go .dispatch)) s.dispatch := by
  have hc : s.driver.state ≠ .created := h.admits.ne_created (by rw [hp]; exact Phase.noConfusion)
  have ht : s.tells (.go .dispatch) =
      s.endpoint.issues (if frame.held then none else s.actReport? frame) := by
    simp only [tells, deliveries, threadTells, report?, hp, List.nil_append]
  rw [ht]
  simp only [dispatch, hp]
  split
  · exact .rest
  · exact act_passes frame hc

theorem caller_passes {s : System} (n : Nat) (hp : s.provides (s.need (.caller n)) = true) :
    s.Passes (s.tells (.go (.caller n))) (s.caller n) := by
  have ht : s.tells (.go (.caller n)) = s.endpoint.issues (s.report? (.go (.caller n))) := rfl
  rw [ht]
  cases he : s.errandOf n with
  | none =>
    have hr : s.report? (.go (.caller n)) = none := by simp [report?, he]
    simp only [hr, caller, he]
    exact .rest
  | some errand =>
    cases errand with
    | region r =>
      have hl : s.isLocked = false := by simpa [need, callerNeed, he, provides] using hp
      have hr : s.report? (.go (.caller n)) = r.report? := by simp [report?, he, hl, Errand.report?]
      simp only [hr, caller, he]
      unfold Passes
      rw [launch_endpoint]
      have h1 := s.endpoint.region_passage false r
      exact h1.before (assign_passes { s with endpoint := (s.endpoint.region false r).2 } n _)
    | finished r =>
      have hr : s.report? (.go (.caller n)) = none := by simp [report?, he, Errand.report?]
      simp only [hr, caller, he]
      exact .rest
    | _ =>
      have hr : s.report? (.go (.caller n)) = none := by simp [report?, he, Errand.report?]
      simp only [hr, caller, he]
      exact s.assign_passes n _

/-- What comes from the outside tells nothing, and apart from the time it only concerns the
callers. -/
theorem outside_passes (s : System) {m : Move} (hm : ∀ t, m ≠ .go t)
    (ht : ∀ nanos, m ≠ .elapse nanos) : s.Passes [] (s.step m) := by
  cases m with
  | go t => exact absurd rfl (hm t)
  | call c =>
    have hgo : ∀ (t : System) (n : Nat) (errand : Errand), t.endpoint = s.endpoint →
        s.Passes [] (t.assign n errand) := by
      intro t n errand ht
      refine (t.assign_passes n errand).after ?_
      rw [ht]
      exact .rest
    unfold step addCaller
    dsimp only
    split
    · exact hgo _ _ _ (s.ask_eq _ _).1
    · exact hgo _ _ _ rfl
  | arrive a => exact .rest
  | openGate => exact .rest
  | wake =>
    unfold step wake
    dsimp only
    split <;> exact .rest
  | elapse nanos => exact absurd rfl (ht nanos)

/-- A thread that has to wait tells nothing. -/
theorem tells_of_waiting {s : System} {t : Thread} (h : s.provides (s.need t) = false) :
    s.tells (.go t) = [] := by
  cases t with
  | caller n =>
    have hr : s.report? (.go (.caller n)) = none := by
      cases he : s.errandOf n with
      | none => simp [report?, he]
      | some errand =>
        cases errand with
        | region r =>
          have hl : s.isLocked = true := by simpa [need, callerNeed, he, provides] using h
          simp [report?, hl]
        | _ => simp [report?, he, Errand.report?]
    simp only [tells, deliveries, hr, Endpoint.issues, List.append_nil]
  | dispatch =>
    cases hp : s.phase with
    | calling frame =>
      have hheld : frame.held = true := by
        by_contra hheld
        simp [need, dispatchNeed, hp, hheld, provides] at h
      simp only [tells, deliveries, threadTells, report?, hp, hheld, if_true, Endpoint.issues,
        List.append_nil]
    | begun => simp [need, dispatchNeed, hp, provides] at h
    | handling _ | reporting _ | escaped _ | closing _ =>
      simp [need, dispatchNeed, hp, provides, isLocked] at h
    | linking =>
      have hg : s.gateOpen = false := by simpa [need, dispatchNeed, hp, provides] using h
      rw [tells_dispatch (by rw [hp]; exact fun _ => Phase.noConfusion)]
      simp [threadTells, hp, hg]
    | receiving =>
      rw [tells_dispatch (by rw [hp]; exact fun _ => Phase.noConfusion)]
      cases hr : s.refusal with
      | some f => simp [need, dispatchNeed, hp, hr, provides] at h
      | none =>
        have hi : s.inbox = [] := by simpa [need, dispatchNeed, hp, hr, provides] using h
        simp only [threadTells, hp, hr, hi]
    | _ =>
      rw [tells_dispatch (by rw [hp]; exact fun _ => Phase.noConfusion)]
      simp only [threadTells, hp]

/-- Moves of the outside tell nothing. -/
theorem tells_outside (s : System) {m : Move} (hm : ∀ t, m ≠ .go t) : s.tells m = [] := by
  cases m with
  | go t => exact absurd rfl (hm t)
  | _ => rfl

/-- With a move, the driver passes in a way that tells what the move has to tell. Time that passes
is no matter of the driver. -/
theorem step_passage {s : System} (h : s.Sound) {m : Move} (ht : ∀ nanos, m ≠ .elapse nanos) :
    s.Passes (s.tells m) (s.step m) := by
  rcases s.step_cases m with ⟨t, rfl, hp, he⟩ | ⟨rfl, he⟩ | ⟨n, rfl, hp, he⟩ | hm
  · rw [he, tells_of_waiting hp]
    exact .rest
  · by_cases hn : s.provides (s.need .dispatch) = true
    · rw [he]
      by_cases hc : ∃ frame, s.phase = .calling frame
      · obtain ⟨frame, hp⟩ := hc
        exact calling_passes h hp
      · have hc : ∀ frame, s.phase ≠ .calling frame := fun frame hp => hc ⟨frame, hp⟩
        rw [tells_dispatch hc]
        exact dispatch_passes h hc hn
    · have hs : s.step (.go .dispatch) = s := by simp [step, hn]
      rw [hs, tells_of_waiting (by simpa using hn)]
      exact .rest
  · rw [he]
    exact caller_passes n hp
  · rw [s.tells_outside hm]
    exact s.outside_passes hm ht

variable {s : System}

/-- The driver stays the one that it is. -/
theorem step_same (h : s.Sound) (m : Move) : (s.step m).driver.role = s.driver.role ∧
    (s.step m).driver.table = s.driver.table ∧ (s.step m).driver.payload = s.driver.payload := by
  by_cases ht : ∃ nanos, m = .elapse nanos
  · obtain ⟨nanos, rfl⟩ := ht
    exact ⟨rfl, rfl, rfl⟩
  · exact (step_passage h fun nanos hm => ht ⟨nanos, hm⟩).same

/-- The tidings of the history grow by what the move has to tell. -/
theorem step_tidings (h : s.Sound) (m : Move) : History.tidings (s.step m).endpoint.history =
    History.tidings s.endpoint.history ++ s.tells m := by
  by_cases ht : ∃ nanos, m = .elapse nanos
  · obtain ⟨nanos, rfl⟩ := ht
    exact (List.append_nil _).symm
  · exact Endpoint.Passage.tidings (step_passage h fun nanos hm => ht ⟨nanos, hm⟩)

end System

end ClusterLink
