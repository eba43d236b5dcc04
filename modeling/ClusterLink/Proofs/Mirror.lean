/-
# The two surfaces

A system that is called directly, and the one in which everybody calls over
the flat surface (`System.flat`): its callers, and its callbacks with all
that they have yet to do. With every move of the one, the other one makes the
counterpart of that move, and stays its counterpart (`Mirrors.step`). So in
every run they have the same driver, the same history and the same answers.

Each operation of a system keeps `Mirrors`, which also carries along that the
calls which callbacks have yet to make have counterparts.

A command with a malformed sequence comes to nothing: whoever makes it, and
in whatever state the driver is by then, nothing but a note is left of it
(`Endpoint.TurnsDown`).

Key definitions: `System.flat`, `System.Mirrors`, `Endpoint.TurnsDown`,
`System.Refined`.
Key theorems: `Mirrors.step`, `System.run_refined`.
-/
import ClusterLink.Proofs.Flat
import ClusterLink.Proofs.Delivery

namespace ClusterLink

/-! ### Systems -/

namespace Action

/-- The action on the flat surface. -/
def flat : Action → Action
  | call c passOn => call c.flat passOn
  | a => a

def Packable (r : Role) : Action → Prop
  | call c _ => c.Packable r
  | _ => True

end Action

namespace Phase

/-- What a callback that runs still does. -/
def actions : Phase → List Action
  | calling frame => frame.actions
  | _ => []

/-- The phase on the flat surface. -/
def flat : Phase → Phase
  | calling frame => calling { frame with actions := frame.actions.map Action.flat }
  | p => p

end Phase

/-- A caller on the flat surface. -/
def Caller.flat (x : Caller) : Caller := { x with call := x.call.flat }

/-- The move on the flat surface. -/
def Move.flat : Move → Move
  | call c => call c.flat
  | m => m

namespace System

/-- The system on the flat surface. -/
def flat (s : System) : System :=
  { s with
    surface := .flat
    phase := s.phase.flat
    callers := s.callers.map Caller.flat
    scripts := s.scripts.map fun x => (x.1, x.2.map Action.flat) }

/-- A system that is called directly, and its counterpart on the flat surface. All calls that its
callbacks have yet to make are there as well. -/
structure Mirrors (r : Role) (s t : System) : Prop where
  direct : s.surface = .direct
  phase : ∀ a ∈ s.phase.actions, a.Packable r
  scripts : ∀ x ∈ s.scripts, ∀ a ∈ x.2, a.Packable r
  eq : t = s.flat

/-- Scripts on the flat surface. -/
def flatScripts (scripts : List (Slot × List Action)) : List (Slot × List Action) :=
  scripts.map fun x => (x.1, x.2.map Action.flat)

theorem mem_of_mem_script {scripts : List (Slot × List Action)} {slot : Slot} {a : Action}
    (h : a ∈ ((scripts.find? fun x => x.1 = slot).map (·.2)).getD []) :
    ∃ x ∈ scripts, a ∈ x.2 := by
  cases hf : scripts.find? fun x => x.1 = slot with
  | none => rw [hf] at h; cases h
  | some x =>
    rw [hf] at h
    exact ⟨x, List.mem_of_find?_eq_some hf, h⟩

theorem script_flat (scripts : List (Slot × List Action)) (slot : Slot) :
    (((flatScripts scripts).find? fun x => x.1 = slot).map (·.2)).getD [] =
      (((scripts.find? fun x => x.1 = slot).map (·.2)).getD []).map Action.flat := by
  rw [flatScripts, List.find?_map]
  show ((Option.map _ (scripts.find? fun x => x.1 = slot)).map _).getD [] = _
  cases scripts.find? fun x => x.1 = slot <;> rfl

theorem eraseP_flat (scripts : List (Slot × List Action)) (slot : Slot) :
    (flatScripts scripts).eraseP (fun x => x.1 = slot) =
      flatScripts (scripts.eraseP fun x => x.1 = slot) := by
  rw [flatScripts, List.eraseP_map]
  rfl

/-- What the thread does when it receives. -/
theorem dispatch_receiving {s : System} (hp : s.phase = .receiving) :
    s.dispatch = match s.refusal, s.inbox with
      | some f, _ => (s.record (.received (.error f))).escape f
      | none, [] => s
      | none, a :: inbox => { s with inbox }.receive a := by
  unfold System.dispatch
  split
  all_goals first | rfl | (rename_i hph; cases hp.symm.trans hph)

namespace Mirrors

variable {r : Role} {s t : System}

theorem endpoint (h : Mirrors r s t) : t.endpoint = s.endpoint := by rw [h.eq]; rfl

theorem driver (h : Mirrors r s t) : t.driver = s.driver := by rw [h.eq]; rfl

/-- The driver is in the same place on both sides. -/
theorem onEndpoint (h : Mirrors r s t) (f : Endpoint → Endpoint) :
    Mirrors r { s with endpoint := f s.endpoint } { t with endpoint := f t.endpoint } := by
  obtain ⟨hd, hp, hs, rfl⟩ := h
  exact ⟨hd, hp, hs, rfl⟩

theorem onStore (h : Mirrors r s t) (f : Store → Store) :
    Mirrors r { s with store := f s.store } { t with store := f t.store } := by
  obtain ⟨hd, hp, hs, rfl⟩ := h
  exact ⟨hd, hp, hs, rfl⟩

theorem record (h : Mirrors r s t) (v : Event) : Mirrors r (s.record v) (t.record v) :=
  h.onEndpoint fun e => e.record v

/-- The thread goes on where no callback runs. -/
theorem withPhase (h : Mirrors r s t) {p : Phase} (hp : p.flat = p) (ha : p.actions = []) :
    Mirrors r { s with phase := p } { t with phase := p } := by
  obtain ⟨hd, -, hs, rfl⟩ := h
  refine ⟨hd, by rw [ha]; exact fun _ hm => absurd hm List.not_mem_nil, hs, ?_⟩
  simp only [flat, hp]

/-- A callback goes on. -/
theorem withFrame (h : Mirrors r s t) (frame : Frame)
    (ha : ∀ a ∈ frame.actions, a.Packable r) :
    Mirrors r { s with phase := .calling frame }
      { t with phase := .calling { frame with actions := frame.actions.map Action.flat } } := by
  obtain ⟨hd, -, hs, rfl⟩ := h
  exact ⟨hd, ha, hs, rfl⟩

theorem withMessages (h : Mirrors r s t) (ms : List Message) :
    Mirrors r { s with phase := phaseFor ms } { t with phase := phaseFor ms } := by
  cases ms <;> exact h.withPhase rfl rfl

/-! ### Operations of the dispatch thread -/

theorem resume (h : Mirrors r s t) (after : After) :
    Mirrors r (s.resume after) (t.resume after) := by
  cases after with
  | message m rest => exact (h.onEndpoint fun e => e.conclude m).withMessages rest
  | _ => exact h.withPhase rfl rfl

theorem escape (h : Mirrors r s t) (f : Failure) : Mirrors r (s.escape f) (t.escape f) := by
  unfold System.escape
  dsimp only
  split
  · exact ((h.record _).record _).withPhase rfl rfl
  · exact ((h.record _).record _).withPhase rfl rfl

theorem invoke (h : Mirrors r s t) (slot : Slot) (args : List Parameter) (after : After) :
    Mirrors r (s.invoke slot args after) (t.invoke slot args after) := by
  unfold System.invoke
  simp only [h.driver]
  split
  · obtain ⟨hd, hp, hs, rfl⟩ := h
    refine ⟨hd, fun a ha => ?_, fun x hx => hs x (List.mem_of_mem_eraseP hx), ?_⟩
    · obtain ⟨x, hx, hax⟩ := mem_of_mem_script ha
      exact hs x hx a hax
    · have hscript := script_flat s.scripts slot
      have herase := eraseP_flat s.scripts slot
      simp only [flatScripts] at hscript herase
      simp only [flat, System.record, Phase.flat, hscript, herase]
  · exact h.resume after

theorem fail (h : Mirrors r s t) (message : WideText) (after : After) :
    Mirrors r (s.fail message after) (t.fail message after) := by
  have hgive : Mirrors r (s.giveUp message) (t.giveUp message) :=
    h.onEndpoint fun e => (e.note (.failed message)).become .aborted
  unfold System.fail
  simp only [h.driver]
  split
  · cases message.utf8? with
    | some b => exact hgive.invoke _ _ _
    | none => exact hgive.escape _
  · exact (h.record _).resume after

theorem endCallback (h : Mirrors r s t) (frame : Frame) (failure : Option Failure) :
    Mirrors r (s.endCallback frame failure)
      (t.endCallback { frame with actions := frame.actions.map Action.flat } failure) := by
  cases failure with
  | none => exact ((h.record _).onStore fun store => store.releaseAll _).resume _
  | some f =>
    have h1 := (h.record (.broke frame.slot f)).onStore fun store => store.releaseAll frame.lent
    by_cases hf : f.isMisuse = true
    · have h2 := h1.onEndpoint fun e => e.become .aborted
      simp only [System.endCallback, hf, if_true]
      split
      · exact h2.withPhase rfl rfl
      · exact h2.escape f
    · have hf : f.isMisuse = false := by simpa using hf
      have h2 := (h1.record (.noted (.callbackFailed frame.slot))).onEndpoint Endpoint.breakOff
      simp only [System.endCallback, hf, Bool.false_eq_true, if_false]
      exact h2.resume frame.after

theorem keptAt (h : Mirrors r s t) : t.keptAt = s.keptAt ∧ t.store = s.store := by
  rw [h.eq]
  exact ⟨rfl, rfl⟩

/-- An object that was kept is asked. -/
theorem ask (h : Mirrors r s t) (i : Int) (q : Query) :
    (t.ask i q).1 = (s.ask i q).1 ∧ Mirrors r (s.ask i q).2 (t.ask i q).2 := by
  unfold System.ask
  rw [h.keptAt.1, h.keptAt.2]
  cases s.keptAt i with
  | error f => exact ⟨rfl, h⟩
  | ok o =>
    exact ⟨rfl, h.onStore fun _ => (s.store.ask o q).2⟩

/-- What a call is left with. -/
theorem errand (h : Mirrors r s t) (hr : s.driver.role = r) {c : Call} (hc : c.Packable r) :
    c.flat.errand t.surface t.driver t.find = c.errand s.surface s.driver s.find := by
  rw [h.eq, h.direct]
  exact CallOf.errand_flat (hr ▸ hc)

/-- A call from within a callback. -/
theorem callInside (h : Mirrors r s t) (hr : s.driver.role = r) {c : Call} (hc : c.Packable r) :
    (t.callInside c.flat).1 = (s.callInside c).1 ∧
      Mirrors r (s.callInside c).2 (t.callInside c.flat).2 := by
  by_cases hask : ∃ i q, c = .ask i q
  · obtain ⟨i, q, rfl⟩ := hask
    exact h.ask i q
  rw [callInside_eq fun i q hc' => hask ⟨i, q, hc'⟩, callInside_eq (CallOf.flat_ne_ask hask),
    h.errand hr hc]
  exact ⟨by rw [h.endpoint], h.onEndpoint fun e => (e.conduct _).2⟩

theorem keepViews (h : Mirrors r s t) (ids : List Nat) :
    (∃ f, s.keepViews ids = .error f ∧ t.keepViews ids = .error f) ∨
      ∃ s' t', s.keepViews ids = .ok s' ∧ t.keepViews ids = .ok t' ∧ Mirrors r s' t' := by
  induction ids generalizing s t with
  | nil => exact Or.inr ⟨s, t, rfl, rfl, h⟩
  | cons id ids ih =>
    have hkept : t.kept = s.kept := by rw [h.eq]; rfl
    simp only [System.keepViews, h.keptAt.2, hkept]
    cases s.store.view id with
    | error f => exact Or.inl ⟨f, rfl, rfl⟩
    | ok x =>
      have h1 : Mirrors r { s with store := x.2, kept := s.kept ++ [.view x.1] }
          { t with store := x.2, kept := s.kept ++ [.view x.1] } := by
        obtain ⟨hd, hp, hs, rfl⟩ := h
        exact ⟨hd, hp, hs, rfl⟩
      exact ih h1

/-- A callback does one thing. -/
theorem act (h : Mirrors r s t) (hr : s.driver.role = r) {frame : Frame}
    (hp : s.phase = .calling frame) :
    Mirrors r (s.act frame) (t.act { frame with actions := frame.actions.map Action.flat }) := by
  have hpack : ∀ a ∈ frame.actions, a.Packable r := by
    have := h.phase
    rwa [hp] at this
  obtain ⟨slot, lent, actions, held, after⟩ := frame
  cases actions with
  | nil => exact h.endCallback ⟨slot, lent, [], held, after⟩ none
  | cons a actions =>
    let frame : Frame := ⟨slot, lent, actions, held, after⟩
    have hrest : ∀ b ∈ frame.actions, b.Packable r := fun b hb =>
      hpack b (List.mem_cons_of_mem _ hb)
    cases a with
    | call c passOn =>
      obtain ⟨hanswer, h1⟩ := h.callInside hr (hpack _ List.mem_cons_self)
      have h2 := h1.record (.acted c.op (s.callInside c).1)
      simp only [System.act, List.map_cons, Action.flat, CallOf.flat_op, hanswer]
      split
      · exact h2.endCallback frame _
      · exact h2.withFrame frame hrest
    | raise f => exact h.endCallback frame (some f)
    | hold => exact (h.record (.held slot)).withFrame { frame with held := true } hrest
    | keep =>
      have h1 : Mirrors r { s with kept := s.kept ++ lent.map .envelope }
          { t with kept := t.kept ++ lent.map .envelope } := by
        obtain ⟨hd, hp, hs, rfl⟩ := h
        exact ⟨hd, hp, hs, rfl⟩
      exact h1.withFrame frame hrest
    | keepViews =>
      rcases h.keepViews lent with ⟨f, hs, ht⟩ | ⟨s', t', hs, ht, h1⟩
      · simp only [System.act, List.map_cons, Action.flat, hs, ht]
        exact h.endCallback frame (some f)
      · simp only [System.act, List.map_cons, Action.flat, hs, ht]
        exact h1.withFrame frame hrest
    | nameThread =>
      simp only [System.act, List.map_cons, Action.flat, h.driver]
      exact (h.record _).withFrame frame hrest

theorem take (h : Mirrors r s t) (m : Message) (rest : List Message) :
    Mirrors r (s.take m rest) (t.take m rest) := by
  have h1 := (h.record (.taken m)).onEndpoint fun e => e.prepare m
  have hre : ((t.record (.taken m)).endpoint.prepare m).driver.reaction m =
      ((s.record (.taken m)).endpoint.prepare m).driver.reaction m := by
    rw [(h.record _).endpoint]
  unfold System.take
  simp only [hre]
  cases ((s.record (.taken m)).endpoint.prepare m).driver.reaction m with
  | invoke slot args => exact h1.invoke slot args _
  | settle uuid => exact (h1.onEndpoint fun e => e.settle uuid).withMessages rest
  | fail message => exact h1.fail message _
  | ignore => exact (h1.record (.noted (.unexpected m))).withMessages rest

theorem handle (h : Mirrors r s t) (ms : List Message) :
    Mirrors r (s.handle ms) (t.handle ms) := by
  cases ms with
  | nil => exact h.withPhase rfl rfl
  | cons m rest =>
    simp only [System.handle, h.driver]
    split
    · exact h.take m rest
    · exact (h.record _).withMessages rest

theorem receive (h : Mirrors r s t) (a : Arrival) : Mirrors r (s.receive a) (t.receive a) := by
  have hx : t.endpoint.useTransport (Transport.receive t.driver.settings.receiveTimeout a) =
      s.endpoint.useTransport (Transport.receive s.driver.settings.receiveTimeout a) := by
    rw [h.driver, h.endpoint]
  unfold System.receive
  dsimp only
  rw [hx]
  obtain ⟨received, e⟩ :=
    s.endpoint.useTransport (Transport.receive s.driver.settings.receiveTimeout a)
  have h1 := h.onEndpoint fun _ => e.record (.received received)
  cases received with
  | ok ms => exact h1.withMessages ms
  | error f => exact h1.escape f

theorem proceed (h : Mirrors r s t) (f : Endpoint → Except Failure Unit × Endpoint) {p : Phase}
    (hp : p.flat = p) (ha : p.actions = []) :
    Mirrors r (s.proceed (f s.endpoint) p) (t.proceed (f t.endpoint) p) := by
  have h1 := h.onEndpoint fun e => (f e).2
  unfold System.proceed
  dsimp only
  rw [h.endpoint] at h1 ⊢
  cases (f s.endpoint).1 with
  | ok _ => exact h1.withPhase hp ha
  | error g => exact h1.escape g

/-- The thread receives. -/
theorem receiving (h : Mirrors r s t) (hp : s.phase = .receiving) :
    Mirrors r s.dispatch t.dispatch := by
  have hpt : t.phase = .receiving := by
    rw [h.eq]
    simp only [flat, hp, Phase.flat]
  have hrefusal : t.refusal = s.refusal := by rw [h.eq]; rfl
  have hinbox : t.inbox = s.inbox := by rw [h.eq]; rfl
  rw [dispatch_receiving hp, dispatch_receiving hpt, hrefusal, hinbox]
  split
  · exact (h.record _).escape _
  · exact h
  · rename_i a inbox _ _
    have h1 : Mirrors r { s with inbox } { t with inbox } := by
      obtain ⟨hd, hp, hs, rfl⟩ := h
      exact ⟨hd, hp, hs, rfl⟩
    exact h1.receive a

theorem dispatch (h : Mirrors r s t) (hr : s.driver.role = r) :
    Mirrors r s.dispatch t.dispatch := by
  have hphase : t.phase = s.phase.flat := by rw [h.eq]; rfl
  by_cases hrec : s.phase = .receiving
  · exact h.receiving hrec
  unfold System.dispatch
  rw [hphase]
  cases hp : s.phase with
  | idle | ended => exact h
  | begun =>
    simp only [Phase.flat, h.driver]
    split
    · exact h.proceed Endpoint.connectStart rfl rfl
    · exact (h.record _).withPhase (p := .ended) rfl rfl
  | linking => exact h.proceed Endpoint.connectEnd rfl rfl
  | entering => exact h.proceed Endpoint.enter rfl rfl
  | checking =>
    simp only [Phase.flat, h.driver]
    split
    · exact h.withPhase (p := .deciding) rfl rfl
    · exact h.withPhase (p := .closing none) rfl rfl
  | deciding =>
    simp only [Phase.flat, h.driver]
    split
    · rename_i f _
      exact h.withPhase (p := .reporting f) rfl rfl
    · exact h.withPhase (p := .receiving) rfl rfl
  | reporting f => exact h.fail _ _
  | receiving => exact absurd hp hrec
  | handling ms => exact h.handle ms
  | ticking =>
    simp only [Phase.flat, h.driver]
    split
    · exact h.proceed Endpoint.tick rfl rfl
    · exact h.withPhase (p := .checking) rfl rfl
  | escaped f => exact h.fail _ _
  | calling frame =>
    simp only [Phase.flat]
    split
    · exact h
    · exact h.act hr hp
  | closing cause => exact (h.onEndpoint Endpoint.leave).withPhase rfl rfl
  | signalling cause =>
    have h1 := (h.onEndpoint Endpoint.signal).withPhase (p := .ended) rfl rfl
    cases cause with
    | none => exact h1
    | some f => exact h1.record _

/-! ### Callers and the outside -/

theorem errandOf (h : Mirrors r s t) (n : Nat) : t.errandOf n = s.errandOf n := by
  rw [h.eq]
  simp only [System.errandOf, flat, List.getElem?_map, Option.map_map]
  rfl

theorem assign (h : Mirrors r s t) (n : Nat) (errand : Errand) :
    Mirrors r (s.assign n errand) (t.assign n errand) := by
  have h1 : Mirrors r { s with callers := s.callers.modify n fun c => { c with errand } }
      { t with callers := t.callers.modify n fun c => { c with errand } } := by
    obtain ⟨hd, hp, hs, rfl⟩ := h
    refine ⟨hd, hp, hs, ?_⟩
    have hmap : (s.callers.map Caller.flat).modify n (fun c => { c with errand }) =
        (s.callers.modify n fun c => { c with errand }).map Caller.flat := by
      refine List.ext_getElem? fun k => ?_
      simp only [List.getElem?_modify, List.getElem?_map]
      cases s.callers[k]? with
      | none => rfl
      | some x => by_cases hk : n = k <;> simp [hk, Caller.flat]
    simp only [flat, hmap]
  unfold System.assign
  dsimp only
  split
  · exact h1.record _
  · exact h1

theorem launch (h : Mirrors r s t) : Mirrors r s.launch t.launch := by
  have hphase : t.phase = s.phase.flat := by rw [h.eq]; rfl
  unfold System.launch
  rw [hphase]
  cases hp : s.phase with
  | idle =>
    simp only [Phase.flat, h.driver]
    split
    · exact h.withPhase (p := .begun) rfl rfl
    · exact h
  | _ => exact h

theorem caller (h : Mirrors r s t) (n : Nat) : Mirrors r (s.caller n) (t.caller n) := by
  unfold System.caller
  rw [h.errandOf]
  cases s.errandOf n with
  | none => exact h
  | some errand =>
    cases errand with
    | finished x => exact h
    | region x =>
      simp only [h.endpoint]
      exact ((h.onEndpoint fun _ => (s.endpoint.region false x).2).assign n _).launch
    | _ =>
      simp only [h.endpoint]
      exact h.assign n _

/-- A new caller comes. -/
theorem addCaller (h : Mirrors r s t) (hr : s.driver.role = r) {c : Call} (hc : c.Packable r) :
    Mirrors r (s.addCaller c) (t.addCaller c.flat) := by
  have hadd : ∀ {s t : System}, Mirrors r s t → ∀ errand : Errand,
      Mirrors r { s with callers := s.callers ++ [⟨c, errand⟩] }
        { t with callers := t.callers ++ [⟨c.flat, errand⟩] } := by
    rintro s t ⟨hd, hp, hs, rfl⟩ errand
    refine ⟨hd, hp, hs, ?_⟩
    simp only [flat, List.map_append]
    rfl
  have hlen : t.callers.length = s.callers.length := by
    rw [h.eq]
    simp only [flat, List.length_map]
  by_cases hask : ∃ i q, c = .ask i q
  · obtain ⟨i, q, rfl⟩ := hask
    obtain ⟨hanswer, h1⟩ := h.ask i q
    have h2 := (hadd h1 (.finished (s.ask i q).1)).assign s.callers.length (.finished (s.ask i q).1)
    simp only [System.addCaller, CallOf.flat, hlen, hanswer]
    exact h2
  · rw [addCaller_eq fun i q hc' => hask ⟨i, q, hc'⟩, addCaller_eq (CallOf.flat_ne_ask hask),
      h.errand hr hc, hlen]
    exact (hadd h _).assign _ _

theorem need (h : Mirrors r s t) (thread : Thread) : t.need thread = s.need thread := by
  cases thread with
  | dispatch =>
    rw [h.eq]
    simp only [System.need, dispatchNeed, flat]
    cases s.phase <;> rfl
  | caller n => simp only [System.need, callerNeed, h.errandOf]

theorem provides (h : Mirrors r s t) (n : Need) : t.provides n = s.provides n := by
  rw [h.eq]
  cases n with
  | lock =>
    simp only [System.provides, isLocked, flat]
    cases s.phase <;> rfl
  | _ => rfl

theorem wake (h : Mirrors r s t) : Mirrors r s.wake t.wake := by
  have hphase : t.phase = s.phase.flat := by rw [h.eq]; rfl
  unfold System.wake
  rw [hphase]
  cases hp : s.phase with
  | calling frame =>
    refine h.withFrame { frame with held := false } ?_
    have := h.phase
    rwa [hp] at this
  | _ => exact h

/-- Every move has its counterpart. -/
theorem step (h : Mirrors r s t) (hr : s.driver.role = r) (m : Move)
    (hm : ∀ c, m = .call c → c.Packable r) : Mirrors r (s.step m) (t.step m.flat) := by
  cases m with
  | go thread =>
    simp only [System.step, Move.flat, h.need, h.provides]
    split
    · cases thread with
      | dispatch => exact h.dispatch hr
      | caller n => exact h.caller n
    · exact h
  | call c => exact h.addCaller hr (hm c rfl)
  | arrive a =>
    obtain ⟨hd, hp, hs, rfl⟩ := h
    exact ⟨hd, hp, hs, rfl⟩
  | openGate =>
    obtain ⟨hd, hp, hs, rfl⟩ := h
    exact ⟨hd, hp, hs, rfl⟩
  | wake => exact h.wake
  | elapse nanos =>
    exact h.onEndpoint fun e => { e with surroundings.clock := e.surroundings.clock + nanos }

theorem run (h : Mirrors r s t) (hs : s.Sound) (hr : s.driver.role = r) (moves : List Move)
    (hm : ∀ c, .call c ∈ moves → c.Packable r) :
    Mirrors r (s.run moves) (t.run (moves.map Move.flat)) := by
  induction moves generalizing s t with
  | nil => exact h
  | cons m moves ih =>
    have h1 := h.step hr m fun c hc => hm c (hc ▸ List.mem_cons_self)
    have hr' : (s.step m).driver.role = r := (step_same hs m).1.trans hr
    exact ih h1 (step_sound hs m) hr' fun c hc => hm c (List.mem_cons_of_mem _ hc)

end Mirrors

theorem Begins.mirrors {s : System} {r : Role} (h : s.Begins) (hd : s.surface = .direct)
    (hs : ∀ x ∈ s.scripts, ∀ a ∈ x.2, a.Packable r) : Mirrors r s s.flat := by
  refine ⟨hd, ?_, hs, rfl⟩
  rw [h.phase]
  exact fun _ ha => absurd ha List.not_mem_nil

end System

/-! ### Malformed commands -/

namespace Endpoint

/-- What a malformed command comes to: misuse if the driver is destroyed, and otherwise the code
of a call in the wrong state. The driver stays as it is, and nothing is accepted or sent. -/
structure TurnsDown (e : Endpoint) (r : Except Failure Answer) (e' : Endpoint) : Prop where
  rejected : e.driver.state ≠ .destroyed → r = .ok (.status .invalidState)
  misused : e.driver.state = .destroyed → ∃ f, r = .error f ∧ f.isMisuse = true
  driver : e'.driver = e.driver
  surroundings : e'.surroundings = e.surroundings
  accepted : History.accepted e'.history = History.accepted e.history
  passed : History.passed e'.history = History.passed e.history

theorem region_turnDown (e : Endpoint) (inside : Bool) (op : String) :
    ∃ r, (e.region inside (.turnDown op)).1 = .finished r ∧
      TurnsDown e r (e.region inside (.turnDown op)).2 := by
  by_cases hd : e.driver.state = .destroyed
  · refine ⟨.error (e.driver.gone "status"), ?_, ?_⟩
    · simp only [region, Driver.alive, hd, if_true]
    · simp only [region, Driver.alive, hd, if_true]
      exact ⟨fun hn => absurd hd hn, fun _ => ⟨_, rfl, rfl⟩, rfl, rfl, rfl, rfl⟩
  · refine ⟨.ok (.status .invalidState), ?_, ?_⟩
    · simp only [region, Driver.alive, if_neg hd]
    · simp only [region, Driver.alive, if_neg hd]
      refine ⟨fun _ => rfl, fun h => absurd h hd, rfl, rfl, ?_, ?_⟩
      · simp [note, record, Event.accepted?]
      · simp [note, record, Event.passed?]

end Endpoint

namespace System

/-- A caller whose command was malformed is told so when it is his turn. -/
theorem caller_turnDown {t : System} {n : Nat} {op : String}
    (he : t.errandOf n = some (.region (.turnDown op))) (hl : t.isLocked = false) :
    ∃ r, (t.step (.go (.caller n))).errandOf n = some (.finished r) ∧
      t.endpoint.TurnsDown r (t.step (.go (.caller n))).endpoint := by
  obtain ⟨r, hr, hdown⟩ := t.endpoint.region_turnDown false op
  have hstep : t.step (.go (.caller n)) =
      (({ t with endpoint := (t.endpoint.region false (.turnDown op)).2 } : System).assign n
        (.finished r)).launch := by
    simp only [step, need, callerNeed, he, provides, hl, Bool.not_false, if_true, advance, caller,
      ← hr]
  obtain ⟨x, hx, -⟩ := errandOf_eq_some he
  rw [hstep]
  refine ⟨r, ?_, ?_⟩
  · simp only [errandOf, launch_callers, assign_callers, List.getElem?_modify, hx]
    simp
  · rw [launch_endpoint]
    refine ⟨hdown.rejected, hdown.misused, hdown.driver, hdown.surroundings, ?_, ?_⟩
    · rw [← hdown.accepted]
      simp [assign, record, Endpoint.record, Event.accepted?]
    · rw [← hdown.passed]
      simp [assign, record, Endpoint.record, Event.passed?]

/-- A callback whose command is malformed is told so. -/
theorem callInside_turnDown {t : System} {o : Order Kept} (hs : t.surface = .flat)
    (hr : t.driver.role = .scheduler) (ho : o.Garbled t.find) :
    t.endpoint.TurnsDown (t.callInside (.order o)).1 (t.callInside (.order o)).2.endpoint := by
  obtain ⟨r, hregion, hdown⟩ := t.endpoint.region_turnDown true o.op
  have hconduct : t.endpoint.conduct (.region (.turnDown o.op)) =
      (r, (t.endpoint.region true (.turnDown o.op)).2) := by
    unfold Endpoint.conduct
    dsimp only
    split
    · rename_i hx
      rw [hx] at hregion
      cases hregion
    · rename_i hx
      rw [hx] at hregion ⊢
      obtain rfl := hregion
      rfl
  rw [callInside_eq (CallOf.order_ne_ask o), hs, CallOf.errand_garbled hr ho, hconduct]
  exact hdown

/-- The flat surface refines the driver. -/
structure Refined (s : System) (moves : List Move) : Prop where
  /-- The driver goes through the same states, and sends and calls back the same. -/
  endpoint : (s.flat.run (moves.map Move.flat)).endpoint = (s.run moves).endpoint
  /-- Every caller is told the same. -/
  answers : ∀ n, (s.flat.run (moves.map Move.flat)).errandOf n = (s.run moves).errandOf n
  /-- A malformed command of a caller is left with being turned down. -/
  called : ∀ (t : System) (o : Order Kept), t.surface = .flat → t.driver.role = .scheduler →
    o.Garbled t.find → (t.step (.call (.order o))).endpoint = t.endpoint ∧
      (t.step (.call (.order o))).errandOf t.callers.length = some (.region (.turnDown o.op))
  /-- That stays so until it is his turn, -/
  waits : ∀ (t : System) (m : Move) (n : Nat) (errand : Errand), t.Sound →
    t.errandOf n = some errand → m ≠ .go (.caller n) → (t.step m).errandOf n = some errand
  /-- when it is turned down, whatever state the driver is in by then. -/
  turnedDown : ∀ (t : System) (n : Nat) (op : String),
    t.errandOf n = some (.region (.turnDown op)) → t.isLocked = false →
      ∃ r, (t.step (.go (.caller n))).errandOf n = some (.finished r) ∧
        t.endpoint.TurnsDown r (t.step (.go (.caller n))).endpoint
  /-- So is one of a callback. -/
  inside : ∀ (t : System) (o : Order Kept), t.surface = .flat → t.driver.role = .scheduler →
    o.Garbled t.find →
      t.endpoint.TurnsDown (t.callInside (.order o)).1 (t.callInside (.order o)).2.endpoint

/-- The flat surface refines the driver, in every run. -/
theorem run_refined {s : System} (h : s.Begins) (hd : s.surface = .direct)
    (hs : ∀ x ∈ s.scripts, ∀ a ∈ x.2, a.Packable s.driver.role) (moves : List Move)
    (hm : ∀ c, .call c ∈ moves → c.Packable s.driver.role) : s.Refined moves := by
  have hrun := (h.mirrors hd hs).run h.sound rfl moves hm
  refine ⟨hrun.endpoint, hrun.errandOf, fun t o hsurface hr ho => ?_,
    fun _ _ _ _ ht he hm => step_waits ht he hm, fun _ _ _ he hl => caller_turnDown he hl,
    fun _ _ hsurface hr ho => callInside_turnDown hsurface hr ho⟩
  have he := CallOf.errand_garbled hr ho
  have hcall : t.step (.call (.order o)) = ({ t with callers := t.callers ++
      [⟨.order o, .region (.turnDown o.op)⟩] } : System).assign t.callers.length
        (.region (.turnDown o.op)) := by
    show t.addCaller (.order o) = _
    rw [addCaller_eq (CallOf.order_ne_ask o), hsurface, he]
  rw [hcall]
  refine ⟨rfl, ?_⟩
  simp only [errandOf, assign_callers, List.getElem?_modify]
  simp

/-- A scheduler that launches a task in its first callback, as a list on the one surface and packed
on the other one. -/
def launching : System :=
  sample [.registered]
    [(.registered, [.call (.order (.launchTasks (.list [.plain (.octets [1])])
      (.list [.plain (.octets [2])]) none)) false])] []

/-- It is started and registered, and then asks for resources and stops. -/
def launchingMoves : List Move :=
  [.call .start, .go (.caller 0)] ++ List.replicate 5 (.go .dispatch) ++
    [.arrive (.messages [.frameworkRegistered [3] [4]]), .go .dispatch, .go .dispatch,
      .go .dispatch, .go .dispatch, .call (.order (.requestResources (.list []))),
      .go (.caller 1), .call (.stop none), .go (.caller 2)]

/-- One byte is cut short of a length. -/
theorem garbled_sample (find : Int → Except Failure Argument) :
    (Order.requestResources (.plain (.envelope (.fresh [1] .owned)))).Garbled find := by
  refine .requestResources ⟨.owned, rfl⟩ fun ⟨rs, h⟩ => ?_
  rw [Records.unpack, Records.unpackFrom] at h
  cases h

theorem launching_refined : launching.Begins ∧
    History.accepted (launching.run launchingMoves).endpoint.history =
      [.launchTasks [3] [[1]] [[2]] [], .requestResources [3] [], .unregisterFramework [3]] ∧
    (Order.requestResources (.plain (.envelope (.fresh [1] .owned)))).Garbled launching.find ∧
    launching.Refined launchingMoves := by
  refine ⟨sample_begins _ _ _, rfl, garbled_sample _, run_refined (sample_begins _ _ _) rfl ?_ _ ?_⟩
  · intro x hx a ha
    obtain rfl := List.mem_singleton.mp hx
    obtain rfl := List.mem_singleton.mp ha
    exact ⟨rfl, ⟨[[1]], by decide, rfl⟩, ⟨[[2]], by decide, rfl⟩⟩
  · intro c hc
    simp only [launchingMoves, List.mem_append, List.mem_cons, List.mem_replicate, List.not_mem_nil,
      Move.call.injEq, reduceCtorEq, and_false, false_or, or_false] at hc
    rcases hc with rfl | rfl | rfl
    · trivial
    · exact ⟨rfl, [], by decide, rfl⟩
    · trivial

end System

end ClusterLink
