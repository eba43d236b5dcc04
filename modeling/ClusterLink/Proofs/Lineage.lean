/-
# What becomes of views

An envelope hands out views of all its bytes, a view is sliced into views of
parts of it, and these again. Each view at a desk has a lineage: the envelope
that it comes from in the end, and the cuts on the way (`Lineage`). Over every
row of steps, a view shows the part of the envelope's bytes that its lineage
tells, and nothing can be written through it.

Only the views that the envelope handed out itself end with it, at once and
for good. The envelope does not know of their slices, which go on to show
their part after the release (`Desk.slice_outlives`).

Key definitions: `Lineage`, `Lineage.shows`, `Desk.derives`, `Desk.lineages`,
`Desk.Looks`, `Desk.Insight`.
Key theorems: `Store.Descends.release`, `Desk.Traced.step`,
`Desk.run_insight`, `Desk.slice_outlives`.
-/
import ClusterLink.Proofs.Lifetime

namespace ClusterLink

/-- Where a view comes from. -/
structure Lineage where
  /-- The number of the envelope. -/
  envelope : Nat
  /-- The bounds of the slices on the way, the first one first. -/
  cuts : List (Option Int × Option Int)
  deriving DecidableEq, Repr

/-- Whether an object is one of so many envelopes and views. -/
def Object.IsAmong (envelopes views : Nat) : Object → Prop
  | .envelope id => id < envelopes
  | .view v => v < views
  | .buffer _ => True

namespace Lineage

/-- The part of the envelope's bytes. -/
def part (l : Lineage) (data : Bytes) : Bytes := l.cuts.foldl (fun b c => Index.part b c.1 c.2) data

/-- Whether the envelope handed out the view itself. -/
def isDirect (l : Lineage) : Bool := l.cuts.isEmpty

/-- The lineage of a slice. -/
def cut (l : Lineage) (first last : Option Int) : Lineage :=
  { l with cuts := l.cuts ++ [(first, last)] }

@[simp] theorem part_cut (l : Lineage) (first last : Option Int) (data : Bytes) :
    (l.cut first last).part data = Index.part (l.part data) first last := by
  simp [part, cut]

@[simp] theorem isDirect_cut (l : Lineage) (first last : Option Int) :
    (l.cut first last).isDirect = false := by
  simp [isDirect, cut]

/-- What a view of this lineage shows of an envelope that was made of the bytes, given whether it
is released by now. -/
def shows (l : Lineage) (released : Bool) (data : Bytes) : Option Bytes :=
  if l.isDirect && released then none else some (l.part data)

/-- The view of this lineage. -/
def view (l : Lineage) (released : Bool) (data : Bytes) : View :=
  ⟨if l.isDirect then some l.envelope else none, l.shows released data⟩

end Lineage

/-! ### The store -/

namespace Store

variable {s : Store} {ms : List Envelope} {ls : List Lineage}

/-- The envelopes of the store were made as `ms`, and its views have the lineages `ls`. -/
structure Descends (s : Store) (ms : List Envelope) (ls : List Lineage) : Prop where
  count : s.envelopes.length = ms.length
  fresh : ∀ e ∈ ms, e.released = false
  kept : ∀ (id : Nat) (e : Envelope), ms[id]? = some e →
    s.envelope id = e ∨ s.envelope id = e.release
  length : s.views.length = ls.length
  views : ∀ (v : Nat) (l : Lineage), ls[v]? = some l → ∃ e, ms[l.envelope]? = some e ∧
    s.views[v]? = some (l.view (s.envelope l.envelope).released e.data)

theorem empty_descends : empty.Descends [] [] where
  count := rfl
  fresh := by simp
  kept := by simp
  length := rfl
  views := by simp

/-- While an envelope is not released, it is as it was made. -/
theorem Descends.live (h : s.Descends ms ls) {id : Nat} (hl : (s.envelope id).released = false) :
    ms[id]? = some (s.envelope id) := by
  have hlt : id < s.envelopes.length := by
    by_contra hge
    exact absurd (hl.symm.trans (released_of_absent (Nat.not_lt.mp hge))) Bool.false_ne_true
  obtain ⟨e, he⟩ : ∃ e, ms[id]? = some e := ⟨_, List.getElem?_eq_getElem (h.count ▸ hlt)⟩
  rcases h.kept id e he with hk | hk
  · rw [hk, he]
  · rw [hk] at hl
    cases hl

theorem Descends.seen (h : s.Descends ms ls) {v : Nat} {l : Lineage} {e : Envelope}
    (hl : ls[v]? = some l) (he : ms[l.envelope]? = some e) :
    s.seen v = l.shows (s.envelope l.envelope).released e.data := by
  obtain ⟨e', he', hv⟩ := h.views v l hl
  obtain rfl := Option.some.inj (he.symm.trans he')
  rw [Store.seen, List.getD_eq_getElem?_getD, hv]
  rfl

/-- More envelopes leave those that there are, and the views, alone. -/
theorem Descends.lending (h : s.Descends ms ls) (new : List Envelope)
    (hnew : ∀ e ∈ new, e.released = false) :
    ({ s with envelopes := s.envelopes ++ new } : Store).Descends (ms ++ new) ls := by
  have hold : ∀ id, id < ms.length →
      ({ s with envelopes := s.envelopes ++ new } : Store).envelope id = s.envelope id := by
    intro id hid
    rw [← h.count] at hid
    simp only [envelope, List.getD_eq_getElem?_getD, List.getElem?_append_left hid]
  refine ⟨by simp [h.count], List.forall_mem_append.mpr ⟨h.fresh, hnew⟩, fun id e he => ?_,
    h.length, fun v l hl => ?_⟩
  · rcases Nat.lt_or_ge id ms.length with hlt | hge
    · rw [List.getElem?_append_left hlt] at he
      rw [hold id hlt]
      exact h.kept id e he
    · rw [List.getElem?_append_right hge] at he
      refine Or.inl ?_
      rw [envelope, List.getD_eq_getElem?_getD, List.getElem?_append_right (h.count ▸ hge),
        h.count, he]
      rfl
  · obtain ⟨e, he, hv⟩ := h.views v l hl
    have hlt := (List.getElem?_eq_some_iff.mp he).1
    rw [hold _ hlt]
    exact ⟨e, by rw [List.getElem?_append_left hlt]; exact he, hv⟩

/-- Releasing an envelope ends the views that it handed out, and no other ones. -/
theorem Descends.release (h : s.Descends ms ls) (id : Nat) : (s.release id).Descends ms ls := by
  refine ⟨by simpa using h.count, h.fresh, fun k e he => ?_,
    by simpa [Store.release] using h.length, fun v l hl => ?_⟩
  · rw [envelope_release]
    split
    · rcases h.kept k e he with hk | hk <;> rw [hk] <;> exact Or.inr rfl
    · exact h.kept k e he
  · obtain ⟨e, he, hv⟩ := h.views v l hl
    refine ⟨e, he, ?_⟩
    have hview : (s.release id).views[v]? = some (if (l.view (s.envelope l.envelope).released
        e.data).owner = some id then
          { l.view (s.envelope l.envelope).released e.data with content := none }
        else l.view (s.envelope l.envelope).released e.data) := by
      simp only [Store.release, List.getElem?_map, hv, Option.map_some]
    rw [hview, envelope_release]
    by_cases hid : id = l.envelope
    · subst hid
      cases hd : l.isDirect <;> simp [Lineage.view, Lineage.shows, hd, Envelope.release]
    · have hne : l.envelope ≠ id := Ne.symm hid
      cases hd : l.isDirect <;> simp [Lineage.view, hd, hid, hne]

theorem Descends.releaseAll (h : s.Descends ms ls) (ids : List Nat) :
    (s.releaseAll ids).Descends ms ls := by
  induction ids with
  | nil => exact h
  | cons id ids ih => exact ih.release id

/-- A view is added of what is there already. -/
theorem Descends.push (h : s.Descends ms ls) {l : Lineage} {e : Envelope}
    (he : ms[l.envelope]? = some e) :
    ({ s with
      views := s.views ++ [l.view (s.envelope l.envelope).released e.data] } : Store).Descends
      ms (ls ++ [l]) := by
  refine ⟨h.count, h.fresh, h.kept, by simp [h.length], fun v l' hl => ?_⟩
  rcases Nat.lt_or_ge v ls.length with hlt | hge
  · rw [List.getElem?_append_left hlt] at hl
    obtain ⟨e', he', hv⟩ := h.views v l' hl
    refine ⟨e', he', ?_⟩
    rw [List.getElem?_append_left (h.length ▸ hlt)]
    exact hv
  · rw [List.getElem?_append_right hge, List.getElem?_singleton] at hl
    split at hl
    · next hv =>
      obtain rfl := Option.some.inj hl
      refine ⟨e, he, ?_⟩
      rw [List.getElem?_append_right (h.length ▸ hge), h.length, hv]
      rfl
    · cases hl

end Store

/-! ### Every row of steps -/

namespace Desk

variable {d : Desk} {ms : List Envelope} {ls : List Lineage}

/-- The lineage of the view that a step asks for, if it asks for one. -/
def origin (d : Desk) (ls : List Lineage) : Step → List Lineage
  | .view envelope _ =>
    match d.object envelope with
    | .ok (.envelope id) => [⟨id, []⟩]
    | _ => []
  | .slice view first last _ =>
    match d.object view with
    | .ok (.view v) => ls[v]?.toList.map fun l => l.cut first last
    | _ => []
  | _ => []

/-- The lineage of the view that a step makes, if it does. -/
def derives (d : Desk) (ls : List Lineage) (s : Step) : List Lineage :=
  match (d.step s).1 with
  | .ok _ => d.origin ls s
  | .error _ => []

/-- The lineages of all views after a row of steps, if they are `ls` before it. -/
def lineages (d : Desk) (ls : List Lineage) : List Step → List Lineage
  | [] => ls
  | s :: ss => (d.step s).2.lineages (ls ++ d.derives ls s) ss

/-- A desk at which the envelopes `ms` were made, and views of the lineages `ls`. -/
structure Traced (d : Desk) (ms : List Envelope) (ls : List Lineage) : Prop where
  store : d.store.Descends ms ls
  named : ∀ name o, d.object name = .ok o → o.IsAmong ms.length ls.length

theorem empty_traced : empty.Traced [] [] where
  store := Store.empty_descends
  named name o h := by simp [object, empty] at h

theorem Traced.bind (h : d.Traced ms ls) (name : String) {o : Object}
    (ho : o.IsAmong ms.length ls.length) : (d.bind name o).Traced ms ls := by
  refine ⟨h.store, fun other o' ho' => ?_⟩
  rw [object_bind] at ho'
  split at ho'
  · obtain rfl := Except.ok.inj ho'
    exact ho
  · exact h.named other o' ho'

theorem Traced.binds (h : d.Traced ms ls) {ps : List (String × Nat)}
    (hps : ∀ p ∈ ps, p.2 < ms.length) :
    (ps.foldl (fun d p => d.bind p.1 (.envelope p.2)) d).Traced ms ls := by
  induction ps generalizing d with
  | nil => exact h
  | cons p ps ih =>
    exact ih (h.bind p.1 (hps p List.mem_cons_self)) fun q hq => hps q (List.mem_cons_of_mem _ hq)

/-- The names go on to stand for what they stood for when there is more. -/
theorem Traced.grow (h : d.Traced ms ls) {store : Store} (scopes : List (List Nat))
    (new : List Envelope) (lines : List Lineage)
    (hs : store.Descends (ms ++ new) (ls ++ lines)) :
    ({ d with store := store, scopes := scopes } : Desk).Traced (ms ++ new) (ls ++ lines) := by
  refine ⟨hs, fun name o ho => ?_⟩
  have hnamed := h.named name o ho
  rw [List.length_append, List.length_append]
  cases o with
  | envelope id => exact Nat.lt_add_right _ hnamed
  | view v => exact Nat.lt_add_right _ hnamed
  | buffer b => trivial

/-- A step that makes no view may make or release envelopes. -/
theorem Traced.lends (h : d.Traced ms ls) {store : Store} (scopes : List (List Nat))
    (new : List Envelope) (hs : store.Descends (ms ++ new) ls) :
    ({ d with store := store, scopes := scopes } : Desk).Traced (ms ++ new) ls := by
  have hgrow := h.grow scopes new [] (by rwa [List.append_nil])
  rwa [List.append_nil] at hgrow

/-- A step that makes no envelope may make views or release envelopes. -/
theorem Traced.shows (h : d.Traced ms ls) {store : Store} (scopes : List (List Nat))
    (lines : List Lineage) (hs : store.Descends ms (ls ++ lines)) :
    ({ d with store := store, scopes := scopes } : Desk).Traced ms (ls ++ lines) := by
  have hgrow := h.grow scopes [] lines (by rwa [List.append_nil])
  rwa [List.append_nil] at hgrow

/-- A step that makes nothing may release envelopes. -/
theorem Traced.keep (h : d.Traced ms ls) {store : Store} (scopes : List (List Nat))
    (hs : store.Descends ms ls) :
    ({ d with store := store, scopes := scopes } : Desk).Traced ms ls := by
  have hlent := h.lends scopes [] (by rwa [List.append_nil])
  rwa [List.append_nil] at hlent

theorem Traced.make (h : d.Traced ms ls) (name : String) (value : Named) (ownership : Ownership) :
    (d.step (.make name value ownership)).2.Traced (ms ++ d.births (.make name value ownership))
      ls := by
  rw [after_make]
  cases ha : d.argument value >>= Argument.toBytes with
  | error f => simpa [births, ha] using h
  | ok b =>
    have hb : d.births (.make name value ownership) = [.fresh b ownership] := by
      simp only [births, ha]
    rw [hb]
    have hs := h.store.lending [.fresh b ownership] (by simp [Envelope.fresh])
    refine (h.lends d.scopes _ hs).bind name ?_
    simp [Object.IsAmong, h.store.count]

theorem Traced.lend (h : d.Traced ms ls) (names : List String) (values : List Named) :
    (d.step (.lend names values)).2.Traced (ms ++ d.births (.lend names values)) ls := by
  rw [after_lend]
  cases ha : values.mapM d.argument with
  | error f => simpa [births, ha] using h
  | ok as =>
    have hb : d.births (.lend names values) =
        (Argument.converted as).map (Envelope.fresh · .borrowed) := by simp [births, ha]
    have hs := h.store.lending ((Argument.converted as).map (Envelope.fresh · .borrowed))
      (List.forall_mem_map.mpr fun _ _ => rfl)
    rw [hb]
    rcases d.store.lendEach_cases [] as with ⟨hm, -⟩ | ⟨f, hm, -⟩
    · simp only [hm]
      have hlent := h.lends (d.store.numbers (Argument.converted as) :: d.scopes) _ hs
      refine hlent.binds fun p hp => ?_
      have hz := (Store.mem_numbers.mp (List.of_mem_zip hp).2).2
      simpa [h.store.count] using hz
    · simp only [hm]
      exact h.lends d.scopes _ (hs.releaseAll (d.store.numbers (Argument.converted as)))

theorem Traced.leave (h : d.Traced ms ls) (failure : Option Failure) :
    (d.step (.leave failure)).2.Traced ms ls := by
  rw [after_leave]
  cases d.scopes with
  | nil => exact h
  | cons ids rest => exact h.keep rest (h.store.releaseAll ids)

theorem Traced.ask (h : d.Traced ms ls) (name : String) (q : Query) :
    (d.step (.ask name q)).2.Traced ms ls := by
  cases ho : d.object name with
  | error f => simpa [Desk.step, ho] using h
  | ok o =>
    have hstep : (d.step (.ask name q)).2 = { d with store := (d.store.ask o q).2 } := by
      simp [Desk.step, ho]
    rw [hstep]
    refine h.keep d.scopes ?_
    by_cases hq : q = .reclaim ∧ ∃ id, o = .envelope id
    · obtain ⟨rfl, id, rfl⟩ := hq
      rw [show (d.store.ask (.envelope id) .reclaim).2 = (d.store.reclaim id).2 from rfl,
        Store.reclaim_store]
      split
      · exact h.store.release id
      · exact h.store
    · rw [Store.ask_store hq]
      exact h.store

theorem Traced.buffer (h : d.Traced ms ls) (name : String) (value : Named) :
    (d.step (.buffer name value)).2.Traced ms ls := by
  unfold step
  rw [change_snd]
  cases d.argument value with
  | error f => exact h
  | ok a =>
    simp only [Bind.bind, Except.bind]
    cases a.toBuffer with
    | error f => exact h
    | ok b => exact h.bind name trivial

/-- Nothing is written through a view. -/
theorem step_poke {name : String} {v : Nat} (ho : d.object name = .ok (.view v))
    (index byte : Int) : d.step (.poke name index byte) =
      (.error (if (d.store.seen v).isSome then .viewReadOnly else .viewReleased), d) := by
  simp only [Desk.step, change, poke, ho]
  simp only [Bind.bind, Except.bind, Argument.readView]
  cases d.store.seen v <;> rfl

theorem Traced.poke (h : d.Traced ms ls) (name : String) (index byte : Int) :
    (d.step (.poke name index byte)).2.Traced ms ls := by
  cases ho : d.object name with
  | error f => simpa [Desk.step, change_snd, Desk.poke, ho, Bind.bind, Except.bind] using h
  | ok o =>
    cases o with
    | envelope id => simpa [Desk.step, change_snd, Desk.poke, ho, Bind.bind, Except.bind] using h
    | view v =>
      rw [step_poke ho]
      exact h
    | buffer b =>
      simp only [Desk.step, change_snd, Desk.poke, ho, Bind.bind, Except.bind]
      cases pokeAt b index byte with
      | error f => exact h
      | ok b => exact Traced.bind h name trivial

/-! ### New views -/

/-- Only an envelope hands out views. -/
theorem step_view_cases (d : Desk) (name view : String) :
    (∃ f, d.step (.view name view) = (.error f, d)) ∨
    ∃ id, d.object name = .ok (.envelope id) := by
  cases ho : d.object name with
  | error f =>
    refine Or.inl ⟨f, ?_⟩
    simp only [Desk.step, change, envelope, ho]
    rfl
  | ok o =>
    cases o with
    | envelope id => exact Or.inr ⟨id, rfl⟩
    | view v =>
      refine Or.inl ⟨(Object.view v).lacks "view", ?_⟩
      simp only [Desk.step, change, envelope, ho]
      rfl
    | buffer b =>
      refine Or.inl ⟨(Object.buffer b).lacks "view", ?_⟩
      simp only [Desk.step, change, envelope, ho]
      rfl

/-- A slice of a view is one of what the view shows by then. -/
theorem step_slice {view name : String} {first last : Option Int} {v : Nat}
    (ho : d.object view = .ok (.view v)) :
    d.step (.slice view first last name) = match Argument.readView (d.store.seen v) with
      | .ok data => (.ok .nothing,
          ({ d with store.views := d.store.views ++
            [⟨none, some (Index.part data first last)⟩] } : Desk).bind name
            (.view d.store.views.length))
      | .error f => (.error f, d) := by
  simp only [Desk.step, change, slice, ho, Store.slice]
  simp only [Bind.bind, Except.bind]
  cases Argument.readView (d.store.seen v) <;> rfl

theorem derives_of_error {s : Step} {f : Failure} (h : (d.step s).1 = .error f) :
    d.derives ls s = [] := by
  rw [derives, h]

theorem derives_of_ok {s : Step} {a : Answer} (h : (d.step s).1 = .ok a) :
    d.derives ls s = d.origin ls s := by
  rw [derives, h]

/-- A step that fails makes no view. -/
theorem Traced.fails (h : d.Traced ms ls) {s : Step} {f : Failure} (hs : d.step s = (.error f, d)) :
    (d.step s).2.Traced ms (ls ++ d.derives ls s) := by
  rw [derives_of_error (by rw [hs]), hs, List.append_nil]
  exact h

theorem Traced.view (h : d.Traced ms ls) (name view : String) :
    (d.step (.view name view)).2.Traced ms (ls ++ d.derives ls (.view name view)) := by
  rcases d.step_view_cases name view with ⟨f, hf⟩ | ⟨id, ho⟩
  · exact h.fails hf
  · have hstep : d.step (.view name view) = _ := step_view ho
    cases hr : (d.store.envelope id).released with
    | true =>
      simp only [Envelope.read, hr, if_pos] at hstep
      exact h.fails hstep
    | false =>
      simp only [Envelope.read, hr, if_neg Bool.false_ne_true] at hstep
      rw [derives_of_ok (by rw [hstep]), hstep]
      simp only [origin, ho]
      have hpush := h.store.push (l := ⟨id, []⟩) (h.store.live hr)
      simp only [Lineage.view, Lineage.shows, hr, Bool.and_false] at hpush
      refine Traced.bind (h.shows d.scopes [⟨id, []⟩] hpush) view ?_
      simp [Object.IsAmong, h.store.length]

theorem Traced.slice (h : d.Traced ms ls) (view name : String) (first last : Option Int) :
    (d.step (.slice view first last name)).2.Traced ms
      (ls ++ d.derives ls (.slice view first last name)) := by
  cases ho : d.object view with
  | error f =>
    refine h.fails (f := f) ?_
    simp only [Desk.step, change, Desk.slice, ho]
    rfl
  | ok o =>
    cases o with
    | envelope id =>
      refine h.fails (f := .notIndexable "Envelope") ?_
      simp only [Desk.step, change, Desk.slice, ho]
      rfl
    | buffer b =>
      have hstep : d.step (.slice view first last name) =
          (.ok .nothing, d.bind name (.buffer (Index.part b first last))) := by
        simp only [Desk.step, change, Desk.slice, ho]
        rfl
      rw [derives_of_ok (by rw [hstep]), hstep]
      simp only [origin, ho, List.append_nil]
      exact Traced.bind h name trivial
    | view v =>
      obtain ⟨l, hl⟩ : ∃ l, ls[v]? = some l := ⟨_, List.getElem?_eq_getElem (h.named view _ ho)⟩
      obtain ⟨e, he, -⟩ := h.store.views v l hl
      have hstep : d.step (.slice view first last name) = _ := step_slice ho
      rw [h.store.seen hl he] at hstep
      cases hshows : l.shows (d.store.envelope l.envelope).released e.data with
      | none =>
        rw [hshows] at hstep
        exact h.fails hstep
      | some data =>
        rw [hshows] at hstep
        simp only [Argument.readView] at hstep
        rw [derives_of_ok (by rw [hstep]), hstep]
        simp only [origin, ho, hl, Option.toList_some, List.map_cons, List.map_nil]
        obtain rfl : l.part e.data = data := by
          unfold Lineage.shows at hshows
          split at hshows
          · cases hshows
          · exact Option.some.inj hshows
        have hpush := h.store.push (l := l.cut first last) he
        simp only [Lineage.view, Lineage.shows, Lineage.isDirect_cut, Lineage.part_cut,
          Bool.false_and] at hpush
        refine Traced.bind (h.shows d.scopes [l.cut first last] hpush) name ?_
        simp [Object.IsAmong, h.store.length]

theorem Traced.step (h : d.Traced ms ls) (s : Step) :
    (d.step s).2.Traced (ms ++ d.births s) (ls ++ d.derives ls s) := by
  have hnone : ∀ s, d.origin ls s = [] → d.derives ls s = [] := fun s hs => by
    unfold derives
    cases (d.step s).1 with
    | error f => rfl
    | ok a => exact hs
  cases s with
  | make name value ownership =>
    rw [hnone _ rfl, List.append_nil]
    exact h.make name value ownership
  | lend names values =>
    rw [hnone _ rfl, List.append_nil]
    exact h.lend names values
  | view name view =>
    rw [show d.births (.view name view) = [] from rfl, List.append_nil]
    exact h.view name view
  | slice view first last name =>
    rw [show d.births (.slice view first last name) = [] from rfl, List.append_nil]
    exact h.slice view name first last
  | buffer name value =>
    rw [hnone _ rfl, show d.births (.buffer name value) = [] from rfl, List.append_nil,
      List.append_nil]
    exact h.buffer name value
  | leave failure =>
    rw [hnone _ rfl, show d.births (.leave failure) = [] from rfl, List.append_nil,
      List.append_nil]
    exact h.leave failure
  | ask name q =>
    rw [hnone _ rfl, show d.births (.ask name q) = [] from rfl, List.append_nil, List.append_nil]
    exact h.ask name q
  | poke name index byte =>
    rw [hnone _ rfl, show d.births (.poke name index byte) = [] from rfl, List.append_nil,
      List.append_nil]
    exact h.poke name index byte
  | isMessage name =>
    rw [hnone _ rfl]
    cases name <;> simpa [Desk.step, answer, births] using h
  | _ =>
    rw [hnone _ rfl]
    simpa [Desk.step, answer, births] using h

theorem Traced.after (h : d.Traced ms ls) (ss : List Step) :
    (d.after ss).Traced (ms ++ d.made ss) (d.lineages ls ss) := by
  induction ss generalizing d ms ls with
  | nil => simpa [Desk.after, run, made, gather, lineages] using h
  | cons s ss ih =>
    have hafter := ih (h.step s)
    rw [List.append_assoc] at hafter
    exact hafter

/-- A view keeps its lineage. -/
theorem prefix_lineages (d : Desk) (ls : List Lineage) (ss : List Step) :
    ls <+: d.lineages ls ss := by
  induction ss generalizing d ls with
  | nil => exact List.prefix_refl ls
  | cons s ss ih => exact (List.prefix_append ls _).trans (ih _ _)

/-- An envelope that was released stays so. -/
theorem step_released {id : Nat} (hid : id < d.store.envelopes.length)
    (hr : (d.store.envelope id).released = true) (s : Step) :
    ((d.step s).2.store.envelope id).released = true := by
  have hlent : ∀ bs, ((d.store.lending bs).envelope id).released = true := fun bs => by
    rw [Store.lending_envelope, if_pos hid]
    exact hr
  have heff := d.step_effect s
  generalize (d.step s).2 = d' at heff
  cases heff with
  | keep _ _ he =>
    rw [Store.envelope, he]
    exact hr
  | make =>
    simp only [bind, Store.add, Store.envelope, List.getD_eq_getElem?_getD,
      List.getElem?_append_left hid]
    simpa only [Store.envelope, List.getD_eq_getElem?_getD] using hr
  | lend =>
    rw [(openScope_store _ _ _).1]
    exact hlent _
  | unwind =>
    rw [Store.envelope_releaseAll]
    split
    · rfl
    · exact hlent _
  | leave =>
    rw [Store.envelope_releaseAll]
    split
    · rfl
    · exact hr
  | reclaim =>
    rw [Store.envelope_release]
    split
    · rfl
    · exact hr

theorem Traced.released (h : d.Traced ms ls) {id : Nat} (hid : id < ms.length)
    (hr : (d.store.envelope id).released = true) (ss : List Step) :
    ((d.after ss).store.envelope id).released = true := by
  induction ss generalizing d ms ls with
  | nil => exact hr
  | cons s ss ih =>
    refine ih (h.step s) ?_ (step_released (h.store.count ▸ hid) hr s)
    rw [List.length_append]
    exact Nat.lt_add_right _ hid

/-! ### What reads a view -/

/-- How a question reports what a view shows, if it reads it. -/
def viewReport? : Query → Option (Bytes → Answer)
  | .length => some fun b => .number b.length
  | .bytes | .copy => some .octets
  | .truth => some fun b => .truth (decide (b.length ≠ 0))
  | .readOnly => some fun _ => .truth true
  | .hash => some fun _ => .nothing
  | _ => none

/-- The steps that read the view of a number and change nothing, and what they report of the bytes
that it shows. -/
inductive Looks (d : Desk) (v : Nat) : Step → (Bytes → Except Failure Answer) → Prop
  | ask {name : String} {q : Query} {report : Bytes → Answer} (hq : viewReport? q = some report)
    (ho : d.object name = .ok (.view v)) : Looks d v (.ask name q) fun b => .ok (report b)
  | peek {name : String} (index : Int) (ho : d.object name = .ok (.view v)) :
    Looks d v (.peek name index) fun b => peekAt b .viewIndex index
  | copyIn {name : String} (ho : d.object name = .ok (.view v)) :
    Looks d v (.copyIn (.held name)) fun b => .ok (.octets b)
  | unpack {name : String} (ho : d.object name = .ok (.view v)) :
    Looks d v (.unpack (.held name)) fun b => (Records.unpack b).map .batch

/-- A name stands for what the view shows. -/
theorem argument_view {name : String} {v : Nat} (ho : d.object name = .ok (.view v)) :
    d.argument (.held name) = .ok (.view (d.store.seen v)) := by
  simp [Desk.argument, Operand.argument, ho, Except.map, Store.argument]

theorem Looks.step {v : Nat} {s : Step} {report : Bytes → Except Failure Answer}
    (h : d.Looks v s report) : d.step s =
      (match d.store.seen v with
        | some b => report b
        | none => .error .viewReleased, d) := by
  cases h with
  | @ask name q report hq ho =>
    simp only [Desk.step, ho, Store.ask, Store.askView, Argument.readView]
    cases d.store.seen v <;> cases q <;> cases hq <;> rfl
  | peek index ho =>
    simp only [Desk.step, answer, Desk.peek, ho]
    simp only [Bind.bind, Except.bind, Argument.readView]
    cases d.store.seen v <;> rfl
  | copyIn ho =>
    simp only [Desk.step, answer, argument_view ho]
    simp only [Bind.bind, Except.bind, Argument.copyIn, Argument.readView]
    cases d.store.seen v <;> rfl
  | unpack ho =>
    simp only [Desk.step, answer, argument_view ho]
    simp only [Bind.bind, Except.bind, Argument.copyIn, Argument.readView]
    cases d.store.seen v with
    | none => rfl
    | some b => cases Records.unpack b <;> rfl

/-- What can be said of the views at a desk at which the envelopes `ms` were made, and views of the
lineages `ls`. -/
structure Insight (d : Desk) (ms : List Envelope) (ls : List Lineage) : Prop where
  /-- Every view comes from an envelope, in the end. -/
  traced : ∀ name v, d.object name = .ok (.view v) →
    ∃ l e, ls[v]? = some l ∧ ms[l.envelope]? = some e
  /-- An envelope hands out views until it is released. -/
  views : ∀ name view id e, d.object name = .ok (.envelope id) → ms[id]? = some e →
    if (d.store.envelope id).released
      then d.step (.view name view) = (.error (.released (d.store.envelope id).ownership), d)
      else (d.step (.view name view)).1 = .ok .nothing ∧
        (d.step (.view name view)).2.object view = .ok (.view ls.length) ∧
        d.derives ls (.view name view) = [⟨id, []⟩]
  /-- A view is sliced until it is released, which only those are that the envelope handed out
  itself. -/
  slices : ∀ view name first last v l e, d.object view = .ok (.view v) → ls[v]? = some l →
    ms[l.envelope]? = some e →
    if l.isDirect && (d.store.envelope l.envelope).released
      then d.step (.slice view first last name) = (.error .viewReleased, d)
      else (d.step (.slice view first last name)).1 = .ok .nothing ∧
        (d.step (.slice view first last name)).2.object name = .ok (.view ls.length) ∧
        d.derives ls (.slice view first last name) = [l.cut first last]
  /-- Reading a view gives exactly its part of the bytes that the envelope was made of, unless the
  envelope handed it out itself and is released, when every read fails. -/
  looks : ∀ v l e s report, d.Looks v s report → ls[v]? = some l → ms[l.envelope]? = some e →
    d.step s = (if l.isDirect && (d.store.envelope l.envelope).released
      then .error .viewReleased else report (l.part e.data), d)
  /-- Whatever else takes a view gets the same part, or a view without bytes, -/
  argument : ∀ name v l e, d.object name = .ok (.view v) → ls[v]? = some l →
    ms[l.envelope]? = some e → d.argument (.held name) =
      .ok (.view (l.shows (d.store.envelope l.envelope).released e.data))
  /-- of which nothing can be made. -/
  void : (Argument.view none).toBytes = .error .viewReleased ∧
    (Argument.view none).toBuffer = .error .viewReleased ∧
    (Argument.view none).elements = .error .viewReleased
  /-- Nothing is ever written through a view. -/
  pokes : ∀ name v index byte, d.object name = .ok (.view v) →
    d.step (.poke name index byte) = (.error .viewReadOnly, d) ∨
      d.step (.poke name index byte) = (.error .viewReleased, d)
  /-- All of that is for good: the lineages stay, and what is released stays so. -/
  lasting : ∀ ss, ls <+: d.lineages ls ss ∧
    ∀ id e, ms[id]? = some e → (d.store.envelope id).released = true →
      ((d.after ss).store.envelope id).released = true

theorem Traced.insight (h : d.Traced ms ls) : d.Insight ms ls where
  traced name v ho := by
    have hl := List.getElem?_eq_getElem (h.named name _ ho)
    obtain ⟨e, he, -⟩ := h.store.views v _ hl
    exact ⟨_, e, hl, he⟩
  views name view id e ho he := by
    have hstep : d.step (.view name view) = _ := step_view ho
    unfold Envelope.read at hstep
    cases hr : (d.store.envelope id).released with
    | true =>
      rw [hr, if_pos rfl] at hstep
      exact hstep
    | false =>
      rw [hr, if_neg Bool.false_ne_true] at hstep
      rw [if_neg Bool.false_ne_true, derives_of_ok (by rw [hstep]), hstep, ← h.store.length]
      refine ⟨rfl, ?_, by simp only [origin, ho]⟩
      rw [object_bind, if_pos rfl]
  slices view name first last v l e ho hl he := by
    have hstep : d.step (.slice view first last name) = _ := step_slice ho
    rw [h.store.seen hl he] at hstep
    unfold Lineage.shows at hstep
    split
    · next hdead =>
      rw [if_pos hdead] at hstep
      exact hstep
    · next hlive =>
      rw [if_neg hlive] at hstep
      simp only [Argument.readView] at hstep
      rw [derives_of_ok (by rw [hstep]), hstep, ← h.store.length]
      refine ⟨rfl, ?_, by simp [origin, ho, hl]⟩
      rw [object_bind, if_pos rfl]
  looks v l e s report hs hl he := by
    rw [hs.step, h.store.seen hl he, Lineage.shows]
    cases l.isDirect && (d.store.envelope l.envelope).released <;> rfl
  argument name v l e ho hl he := by rw [argument_view ho, h.store.seen hl he]
  void := ⟨rfl, rfl, rfl⟩
  pokes name v index byte ho := by
    rw [step_poke ho]
    cases d.store.seen v with
    | none => exact Or.inr rfl
    | some b => exact Or.inl rfl
  lasting ss := ⟨d.prefix_lineages ls ss, fun id e he hr =>
    h.released (List.getElem?_eq_some_iff.mp he).1 hr ss⟩

/-- At every moment of every row of steps. -/
theorem run_insight (steps : List Step) :
    (empty.after steps).Insight (empty.made steps) (empty.lineages [] steps) :=
  (empty_traced.after steps).insight

/-- A view of a lent envelope is sliced, the slice is sliced, and the scope is left. -/
def slicingSteps : List Step :=
  [.lend ["e"] [.plain (.octets [1, 2, 3])], .view "e" "v", .slice "v" (some 1) (some 3) "w",
    .slice "w" none (some (-1)) "x", .leave none]

/-- The view that the envelope handed out ends with it, and its slices do not. -/
theorem slice_outlives :
    empty.lineages [] slicingSteps =
      [⟨0, []⟩, ⟨0, [(some 1, some 3)]⟩, ⟨0, [(some 1, some 3), (none, some (-1))]⟩] ∧
    ((empty.after slicingSteps).store.envelope 0).released = true ∧
    ((empty.after slicingSteps).step (.ask "v" .copy)).1 = .error .viewReleased ∧
    ((empty.after slicingSteps).step (.ask "w" .copy)).1 = .ok (.octets [2, 3]) ∧
    ((empty.after slicingSteps).step (.ask "x" .copy)).1 = .ok (.octets [2]) :=
  ⟨by decide, by decide, rfl, rfl, rfl⟩

end Desk

end ClusterLink
