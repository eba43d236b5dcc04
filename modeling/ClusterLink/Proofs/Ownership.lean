/-
# Who may use which envelope

What becomes of the envelopes at a desk, over every row of steps. They are
numbered in the order in which they are made (`Desk.made`), and each is
either as it was made or released. An owned one is never released. A
borrowed one is live exactly while the scope is open that lent it, and a
transferred one until it is first asked to be reclaimed (`Desk.isLive`).
Scopes lend envelopes of their own, and a scope that cannot be opened, since
a payload cannot be converted, leaves none live.

Key definitions: `Desk.births`, `Desk.made`, `Desk.reclaimed`,
`Desk.isLive`, `Desk.Effect`, `Desk.Governed`.
Key theorems: `Store.lendEach_cases`, `Desk.step_effect`,
`Desk.Governed.step`, `Desk.Governed.after`.
-/
import ClusterLink.Envelope.Desk
import ClusterLink.Proofs.Store

namespace ClusterLink

/-- The bytes of the arguments in front of the first one that cannot be converted. -/
def Argument.converted : List Argument → List Bytes
  | [] => []
  | a :: as =>
    match a.toBytes with
    | .ok b => b :: converted as
    | .error _ => []

namespace Store

/-- The store with borrowed envelopes of these bytes. -/
def lending (s : Store) (bs : List Bytes) : Store :=
  { s with envelopes := s.envelopes ++ bs.map (Envelope.fresh · .borrowed) }

/-- The numbers that the envelopes of these bytes get. -/
def numbers (s : Store) (bs : List Bytes) : List Nat :=
  List.range' s.envelopes.length bs.length

/-- Either all arguments are converted and lent, or those in front of the first that cannot be
are released again. -/
theorem lendEach_cases (s : Store) (lent : List Nat) (as : List Argument) :
    (as.mapM Argument.toBytes = .ok (Argument.converted as) ∧
      s.lendEach lent as =
        (.ok (lent ++ s.numbers (Argument.converted as)), s.lending (Argument.converted as))) ∨
    ∃ f, as.mapM Argument.toBytes = .error f ∧
      s.lendEach lent as = (.error f,
        (s.lending (Argument.converted as)).releaseAll
          (lent ++ s.numbers (Argument.converted as))) := by
  induction as generalizing s lent with
  | nil =>
    refine Or.inl ⟨rfl, ?_⟩
    simp [lendEach, lending, numbers, Argument.converted]
  | cons a as ih =>
    rw [List.mapM_cons]
    cases ha : a.toBytes with
    | error f =>
      refine Or.inr ⟨f, rfl, ?_⟩
      simp [lendEach, ha, lending, numbers, Argument.converted]
    | ok b =>
      -- what follows is numbered from the envelope of this argument on
      have hl : ∀ bs, (s.add (.fresh b .borrowed)).2.lending bs = s.lending (b :: bs) := by
        simp [lending, add]
      have hn : ∀ bs, lent ++ [s.envelopes.length] ++ (s.add (.fresh b .borrowed)).2.numbers bs =
          lent ++ s.numbers (b :: bs) := by
        simp [numbers, add, List.range'_succ]
      have hc : Argument.converted (a :: as) = b :: Argument.converted as := by
        simp [Argument.converted, ha]
      have hs : s.lendEach lent (a :: as) =
          (s.add (.fresh b .borrowed)).2.lendEach (lent ++ [s.envelopes.length]) as := by
        simp [lendEach, ha, add]
      rw [hs, hc, ← hl, ← hn]
      rcases ih (s.add (.fresh b .borrowed)).2 (lent ++ [s.envelopes.length]) with
        ⟨hm, he⟩ | ⟨f, hm, he⟩
      · exact Or.inl ⟨by rw [hm]; rfl, he⟩
      · exact Or.inr ⟨f, by rw [hm]; rfl, he⟩

/-- The envelopes of these bytes come after those that there are. -/
theorem lending_envelope (s : Store) (bs : List Bytes) (id : Nat) :
    (s.lending bs).envelope id =
      if id < s.envelopes.length then s.envelope id
      else (bs.map (Envelope.fresh · .borrowed)).getD (id - s.envelopes.length)
        ⟨[], .owned, true⟩ := by
  unfold envelope lending
  split
  · rename_i h
    simp only [List.getD_eq_getElem?_getD, List.getElem?_append_left h]
  · rename_i h
    have h : s.envelopes.length ≤ id := by omega
    simp only [List.getD_eq_getElem?_getD, List.getElem?_append_right h]

theorem mem_numbers {s : Store} {bs : List Bytes} {id : Nat} :
    id ∈ s.numbers bs ↔ s.envelopes.length ≤ id ∧ id < s.envelopes.length + bs.length := by
  simp [numbers, List.mem_range'_1]

theorem nodup_numbers (s : Store) (bs : List Bytes) : (s.numbers bs).Nodup :=
  List.nodup_range'

/-- A number that no envelope has is that of a released one. -/
theorem released_of_absent {s : Store} {k : Nat} (h : s.envelopes.length ≤ k) :
    (s.envelope k).released = true := by
  unfold envelope
  rw [List.getD_eq_getElem?_getD, List.getElem?_eq_none h]
  rfl

/-- Envelopes that are lent and released again leave the others alone. -/
theorem unwind_envelope (s : Store) (bs : List Bytes) (k : Nat) :
    if k < s.envelopes.length
      then ((s.lending bs).releaseAll (s.numbers bs)).envelope k = s.envelope k
      else (((s.lending bs).releaseAll (s.numbers bs)).envelope k).released = true := by
  rw [envelope_releaseAll]
  by_cases hk : k < s.envelopes.length
  · have hn : k ∉ s.numbers bs := fun hn => absurd (mem_numbers.mp hn).1 (Nat.not_le.mpr hk)
    rw [if_pos hk, if_neg hn, lending_envelope, if_pos hk]
  · rw [if_neg hk]
    by_cases hn : k ∈ s.numbers bs
    · rw [if_pos hn]
      rfl
    · rw [if_neg hn]
      refine released_of_absent ?_
      have hout := mt mem_numbers.mpr hn
      simp only [lending, List.length_append, List.length_map]
      omega

@[simp] theorem release_length (s : Store) (id : Nat) :
    (s.release id).envelopes.length = s.envelopes.length := by
  simp [release]

@[simp] theorem releaseAll_length (s : Store) (ids : List Nat) :
    (s.releaseAll ids).envelopes.length = s.envelopes.length := by
  induction ids with
  | nil => rfl
  | cons id ids ih => exact (release_length _ id).trans ih

theorem slice_envelopes {s s' : Store} {id v : Nat} {first last : Option Int}
    (h : s.slice id first last = .ok (v, s')) : s'.envelopes = s.envelopes := by
  unfold slice at h
  cases hr : Argument.readView (s.seen id) with
  | error f => simp [hr, bind, Except.bind] at h
  | ok data =>
    simp only [hr, bind, Except.bind] at h
    rw [← (Prod.mk.inj (Except.ok.inj h)).2]

/-- Only reclaiming changes anything. -/
theorem ask_store {s : Store} {o : Object} {q : Query}
    (h : ¬ (q = .reclaim ∧ ∃ id, o = .envelope id)) : (s.ask o q).2 = s := by
  cases o with
  | envelope id =>
    cases q with
    | reclaim => exact absurd ⟨rfl, id, rfl⟩ h
    | _ => rfl
  | _ => rfl

end Store

namespace Desk

/-! ### Names -/

theorem object_bind (d : Desk) (name : String) (o : Object) (other : String) :
    (d.bind name o).object other = if name = other then .ok o else d.object other := by
  unfold object bind
  by_cases h : name = other
  · simp [h]
  · have hp : (fun x : String × Object => !decide (x.1 = name) && decide (x.1 = other)) =
        fun x => decide (x.1 = other) := by
      funext x
      by_cases hx : x.1 = other
      · simp [hx, Ne.symm h]
      · simp [hx]
    simp [h, List.find?_filter, hp]

/-- Names without an envelope are left out. -/
theorem fst_zip_sublist (names : List String) (ids : List Nat) :
    ((names.zip ids).map Prod.fst).Sublist names := by
  induction names generalizing ids with
  | nil => exact List.Sublist.refl _
  | cons name names ih =>
    cases ids with
    | nil => exact List.nil_sublist _
    | cons id ids => exact (ih ids).cons_cons name

/-- Names that are given to envelopes are theirs, if no name is given twice. -/
theorem object_binds {ps : List (String × Nat)} (hn : (ps.map Prod.fst).Nodup) (d : Desk)
    {name : String} {id : Nat} (h : (name, id) ∈ ps) :
    (ps.foldl (fun d p => d.bind p.1 (.envelope p.2)) d).object name = .ok (.envelope id) := by
  have hother : ∀ (qs : List (String × Nat)) (d : Desk), name ∉ qs.map Prod.fst →
      (qs.foldl (fun d p => d.bind p.1 (.envelope p.2)) d).object name = d.object name := by
    intro qs
    induction qs with
    | nil => exact fun _ _ => rfl
    | cons q qs ih =>
      intro d hq
      simp only [List.map_cons, List.mem_cons, not_or] at hq
      rw [List.foldl_cons, ih _ hq.2, object_bind, if_neg (Ne.symm hq.1)]
  induction ps generalizing d with
  | nil => cases h
  | cons p ps ih =>
    rw [List.map_cons, List.nodup_cons] at hn
    rcases List.mem_cons.mp h with rfl | h
    · rw [List.foldl_cons, hother ps _ hn.1, object_bind, if_pos rfl]
    · exact ih hn.2 _ h

/-- Envelopes with a name had one before, or are given one. -/
theorem object_of_binds {ps : List (String × Nat)} {d : Desk} {name : String} {id : Nat}
    (h : (ps.foldl (fun d p => d.bind p.1 (.envelope p.2)) d).object name = .ok (.envelope id)) :
    id ∈ ps.map Prod.snd ∨ d.object name = .ok (.envelope id) := by
  induction ps generalizing d with
  | nil => exact Or.inr h
  | cons p ps ih =>
    rcases ih h with hm | hb
    · exact Or.inl (List.mem_cons_of_mem _ hm)
    · rw [object_bind] at hb
      split at hb
      · obtain rfl := Object.envelope.inj (Except.ok.inj hb)
        exact Or.inl List.mem_cons_self
      · exact Or.inr hb

theorem openScope_store (d : Desk) (names : List String) (ids : List Nat) :
    (d.openScope names ids).store = d.store ∧ (d.openScope names ids).scopes = ids :: d.scopes := by
  have hgo : ∀ (ps : List (String × Nat)) (d : Desk),
      (ps.foldl (fun d p => d.bind p.1 (.envelope p.2)) d).store = d.store ∧
        (ps.foldl (fun d p => d.bind p.1 (.envelope p.2)) d).scopes = d.scopes := by
    intro ps
    induction ps with
    | nil => exact fun _ => ⟨rfl, rfl⟩
    | cons p ps ih => exact fun d => ih _
  exact hgo _ _

/-! ### What is made and what is reclaimed -/

/-- The envelopes that a step makes, as they are made. -/
def births (d : Desk) : Step → List Envelope
  | .make _ value ownership =>
    match d.argument value >>= Argument.toBytes with
    | .ok b => [.fresh b ownership]
    | .error _ => []
  | .lend _ values =>
    match values.mapM d.argument with
    | .ok as => (Argument.converted as).map (Envelope.fresh · .borrowed)
    | .error _ => []
  | _ => []

/-- The envelope that a step asks to reclaim. -/
def reclaims (d : Desk) : Step → List Nat
  | .ask name .reclaim =>
    match d.object name with
    | .ok (.envelope id) => [id]
    | _ => []
  | _ => []

/-- What is gathered from a row of steps, from each at the desk as it is then. -/
def gather {α : Type} (f : Desk → Step → List α) (d : Desk) : List Step → List α
  | [] => []
  | s :: ss => f d s ++ (d.step s).2.gather f ss

/-- All envelopes that a row of steps makes, in order and as they are made. -/
def made : Desk → List Step → List Envelope := gather births

/-- All envelopes that a row of steps asks to reclaim, by their numbers. -/
def reclaimed : Desk → List Step → List Nat := gather reclaims

/-- The desk after a row of steps. -/
def after (d : Desk) (ss : List Step) : Desk := (d.run ss).2

/-- Whether the step makes no borrowed envelope outside of a scope. -/
def Step.isProper : Step → Bool
  | .make _ _ .borrowed => false
  | _ => true

/-- Whether an envelope that was made under the number is still live, after those were asked to
be reclaimed. -/
def isLive (d : Desk) (reclaimed : List Nat) (id : Nat) : Ownership → Bool
  | .owned => true
  | .borrowed => decide (id ∈ d.scopes.flatten)
  | .transferred => decide (id ∉ reclaimed)

/-! ### What a step does -/

/-- What becomes of the envelopes, the scopes and the names with one step. -/
inductive Effect (d : Desk) : Step → Desk → Prop
  /-- The envelopes stay as they are, for a reclaim as well unless it succeeds. -/
  | keep {s : Step} {d' : Desk} (hb : d.births s = [])
    (hr : ∀ id ∈ d.reclaims s, (d.store.envelope id).ownership = .transferred →
      (d.store.envelope id).released = true)
    (he : d'.store.envelopes = d.store.envelopes) (hs : d'.scopes = d.scopes)
    (hn : ∀ name id, d'.object name = .ok (.envelope id) → ∃ n, d.object n = .ok (.envelope id)) :
    Effect d s d'
  | make {name : String} {value : Named} {ownership : Ownership} {b : Bytes}
    (hb : d.births (.make name value ownership) = [.fresh b ownership]) :
    Effect d (.make name value ownership)
      (({ d with store := (d.store.add (.fresh b ownership)).2 } : Desk).bind name
        (.envelope d.store.envelopes.length))
  /-- A scope is opened. -/
  | lend {names : List String} {values : List Named} {bs : List Bytes}
    (hb : d.births (.lend names values) = bs.map (Envelope.fresh · .borrowed)) :
    Effect d (.lend names values)
      (({ d with store := d.store.lending bs } : Desk).openScope names (d.store.numbers bs))
  /-- A scope cannot be opened. -/
  | unwind {names : List String} {values : List Named} {bs : List Bytes}
    (hb : d.births (.lend names values) = bs.map (Envelope.fresh · .borrowed)) :
    Effect d (.lend names values)
      { d with store := (d.store.lending bs).releaseAll (d.store.numbers bs) }
  | leave {failure : Option Failure} {ids : List Nat} {rest : List (List Nat)}
    (hs : d.scopes = ids :: rest) :
    Effect d (.leave failure) { d with store := d.store.releaseAll ids, scopes := rest }
  | reclaim {name : String} {id : Nat} (ho : d.object name = .ok (.envelope id))
    (ht : (d.store.envelope id).ownership = .transferred)
    (hl : (d.store.envelope id).released = false) :
    Effect d (.ask name .reclaim) { d with store := d.store.release id }

/-- A step that leaves the envelopes, the scopes and the names alone. -/
theorem Effect.rest {d d' : Desk} {s : Step} (hb : d.births s = []) (hr : d.reclaims s = [])
    (he : d'.store.envelopes = d.store.envelopes) (hs : d'.scopes = d.scopes)
    (ho : ∀ name, d'.object name = d.object name) : Effect d s d' :=
  .keep hb (by simp [hr]) he hs fun name id h => ⟨name, ho name ▸ h⟩

theorem Effect.stay {d : Desk} {s : Step} (hb : d.births s = []) (hr : d.reclaims s = []) :
    Effect d s d :=
  .rest hb hr rfl rfl fun _ => rfl

/-- A step that gives a name to something that is no envelope. -/
theorem Effect.name {d x : Desk} {s : Step} (hb : d.births s = []) (hr : d.reclaims s = [])
    (he : x.store.envelopes = d.store.envelopes) (hs : x.scopes = d.scopes)
    (ho : ∀ name, x.object name = d.object name) {name : String} {o : Object}
    (hn : ∀ id, o ≠ .envelope id) : Effect d s (x.bind name o) := by
  refine .keep hb (by simp [hr]) he hs fun other id h => ?_
  rw [object_bind] at h
  split at h
  · exact absurd (Except.ok.inj h) (hn id)
  · exact ⟨other, ho other ▸ h⟩

theorem change_snd (d : Desk) (r : Except Failure (Answer × Desk)) :
    (d.change r).2 = match r with
      | .ok x => x.2
      | .error _ => d := by
  unfold change
  cases r <;> rfl

theorem ask_effect (d : Desk) (name : String) (q : Query) :
    Effect d (.ask name q) (d.step (.ask name q)).2 := by
  have hrest : (∀ id ∈ d.reclaims (.ask name q),
      (d.store.envelope id).ownership = .transferred → (d.store.envelope id).released = true) →
      Effect d (.ask name q) d := fun hr => .keep rfl hr rfl rfl fun n id h => ⟨n, h⟩
  cases ho : d.object name with
  | error f =>
    have hstep : (d.step (.ask name q)).2 = d := by
      unfold step
      simp [ho]
    rw [hstep]
    refine hrest fun id hid => ?_
    cases q <;> simp [reclaims, ho] at hid
  | ok o =>
    have hstep : (d.step (.ask name q)).2 = { d with store := (d.store.ask o q).2 } := by
      unfold step
      simp [ho]
    rw [hstep]
    by_cases hq : q = .reclaim ∧ ∃ id, o = .envelope id
    · obtain ⟨rfl, id, rfl⟩ := hq
      have hask : (d.store.ask (.envelope id) .reclaim).2 = (d.store.reclaim id).2 := rfl
      rw [hask, Store.reclaim_store]
      by_cases ht : (d.store.envelope id).ownership = .transferred ∧
          (d.store.envelope id).released = false
      · rw [if_pos ht]
        exact .reclaim ho ht.1 ht.2
      · rw [if_neg ht]
        refine hrest fun k hk hkt => ?_
        obtain rfl : k = id := by simpa [reclaims, ho] using hk
        simpa [hkt] using ht
    · rw [Store.ask_store hq]
      refine hrest fun id hid => ?_
      cases q with
      | reclaim =>
        cases o with
        | envelope k => exact absurd ⟨rfl, k, rfl⟩ hq
        | _ => simp [reclaims, ho] at hid
      | _ => simp [reclaims] at hid

/-- The desk after a scope was opened, or not. -/
theorem after_lend (d : Desk) (names : List String) (values : List Named) :
    (d.step (.lend names values)).2 = match values.mapM d.argument with
      | .error _ => d
      | .ok as =>
        match as.mapM Argument.toBytes with
        | .ok bs => ({ d with store := d.store.lending bs } : Desk).openScope names
            (d.store.numbers bs)
        | .error _ =>
          { d with
            store := (d.store.lending (Argument.converted as)).releaseAll
              (d.store.numbers (Argument.converted as)) } := by
  unfold step
  cases ha : values.mapM d.argument with
  | error f => simp [ha]
  | ok as =>
    rcases d.store.lendEach_cases [] as with ⟨hm, he⟩ | ⟨f, hm, he⟩ <;> simp [ha, borrow, hm, he]

theorem lend_effect (d : Desk) (names : List String) (values : List Named) :
    Effect d (.lend names values) (d.step (.lend names values)).2 := by
  rw [after_lend]
  cases ha : values.mapM d.argument with
  | error f => exact .stay (by simp [births, ha]) rfl
  | ok as =>
    have hb : d.births (.lend names values) =
        (Argument.converted as).map (Envelope.fresh · .borrowed) := by simp [births, ha]
    rcases d.store.lendEach_cases [] as with ⟨hm, -⟩ | ⟨f, hm, -⟩
    · simp only [hm]
      exact .lend hb
    · simp only [hm]
      exact .unwind hb

/-- The desk after an envelope was made, or not. -/
theorem after_make (d : Desk) (name : String) (value : Named) (ownership : Ownership) :
    (d.step (.make name value ownership)).2 = match d.argument value >>= Argument.toBytes with
      | .error _ => d
      | .ok b => ({ d with store := (d.store.add (.fresh b ownership)).2 } : Desk).bind name
          (.envelope d.store.envelopes.length) := by
  unfold step
  simp only [change_snd, ← bind_assoc]
  cases d.argument value >>= Argument.toBytes <;> rfl

theorem make_effect (d : Desk) (name : String) (value : Named) (ownership : Ownership) :
    Effect d (.make name value ownership) (d.step (.make name value ownership)).2 := by
  rw [after_make]
  cases ha : d.argument value >>= Argument.toBytes with
  | error f => exact .stay (by simp only [births, ha]) rfl
  | ok b => exact .make (by simp only [births, ha])

theorem buffer_effect (d : Desk) (name : String) (value : Named) :
    Effect d (.buffer name value) (d.step (.buffer name value)).2 := by
  unfold step
  rw [change_snd]
  cases d.argument value with
  | error f => exact .stay rfl rfl
  | ok a =>
    cases hb : a.toBuffer with
    | error f =>
      simp only [Bind.bind, Except.bind, hb]
      exact .stay rfl rfl
    | ok b =>
      simp only [Bind.bind, Except.bind, hb]
      exact .name rfl rfl rfl rfl (fun _ => rfl) fun _ => by simp

/-- The desk after the innermost scope was left, if there is one. -/
theorem after_leave (d : Desk) (failure : Option Failure) :
    (d.step (.leave failure)).2 = match d.scopes with
      | [] => d
      | ids :: rest => { d with store := d.store.releaseAll ids, scopes := rest } := by
  unfold step
  cases d.scopes <;> rfl

theorem leave_effect (d : Desk) (failure : Option Failure) :
    Effect d (.leave failure) (d.step (.leave failure)).2 := by
  rw [after_leave]
  cases hs : d.scopes with
  | nil => exact .stay rfl rfl
  | cons ids rest => exact .leave hs

theorem view_effect (d : Desk) (envelope name : String) :
    Effect d (.view envelope name) (d.step (.view envelope name)).2 := by
  unfold step
  rw [change_snd]
  cases d.envelope envelope "view" with
  | error f => exact .stay rfl rfl
  | ok id =>
    cases hv : d.store.view id with
    | error f =>
      simp only [Bind.bind, Except.bind, hv]
      exact .stay rfl rfl
    | ok x =>
      simp only [Bind.bind, Except.bind, hv]
      exact .name (x := { d with store := x.2 }) rfl rfl (Store.view_envelopes hv) rfl
        (fun _ => rfl) fun _ => Object.noConfusion

theorem slice_effect (d : Desk) (view name : String) (first last : Option Int) :
    Effect d (.slice view first last name) (d.step (.slice view first last name)).2 := by
  unfold step
  rw [change_snd]
  unfold slice
  cases d.object view with
  | error f => exact .stay rfl rfl
  | ok o =>
    cases o with
    | envelope id => exact .stay rfl rfl
    | view id =>
      cases hv : d.store.slice id first last with
      | error f =>
        simp only [Bind.bind, Except.bind, hv]
        exact .stay rfl rfl
      | ok x =>
        simp only [Bind.bind, Except.bind, hv]
        exact .name (x := { d with store := x.2 }) rfl rfl (Store.slice_envelopes hv) rfl
          (fun _ => rfl) fun _ => Object.noConfusion
    | buffer b => exact .name rfl rfl rfl rfl (fun _ => rfl) fun _ => by simp

theorem poke_effect (d : Desk) (name : String) (index byte : Int) :
    Effect d (.poke name index byte) (d.step (.poke name index byte)).2 := by
  unfold step
  rw [change_snd]
  unfold poke
  cases d.object name with
  | error f => exact .stay rfl rfl
  | ok o =>
    cases o with
    | envelope id => exact .stay rfl rfl
    | view id =>
      simp only [Bind.bind, Except.bind]
      cases Argument.readView (d.store.seen id) <;> exact .stay rfl rfl
    | buffer b =>
      cases hp : pokeAt b index byte with
      | error f =>
        simp only [Bind.bind, Except.bind, hp]
        exact .stay rfl rfl
      | ok b =>
        simp only [Bind.bind, Except.bind, hp]
        exact .name rfl rfl rfl rfl (fun _ => rfl) fun _ => by simp

/-- What a step does is one of these. -/
theorem step_effect (d : Desk) (s : Step) : Effect d s (d.step s).2 := by
  cases s with
  | make name value ownership => exact d.make_effect name value ownership
  | buffer name value => exact d.buffer_effect name value
  | lend names values => exact d.lend_effect names values
  | leave failure => exact d.leave_effect failure
  | ask name q => exact d.ask_effect name q
  | view envelope name => exact d.view_effect envelope name
  | slice view first last name => exact d.slice_effect view name first last
  | poke name index byte => exact d.poke_effect name index byte
  | isMessage name => cases name <;> exact .stay rfl rfl
  | _ => exact .stay rfl rfl

/-! ### Who may use which envelope -/

variable {d d' : Desk} {ms : List Envelope} {rs : List Nat}

/-- The envelopes of a desk at which `ms` were made and `rs` were asked to be reclaimed. -/
structure Governed (d : Desk) (ms : List Envelope) (rs : List Nat) : Prop where
  count : d.store.envelopes.length = ms.length
  fresh : ∀ e ∈ ms, e.released = false
  /-- An envelope is as it was made while it is live, and released otherwise. -/
  kept : ∀ id e, ms[id]? = some e →
    d.store.envelope id = if d.isLive rs id e.ownership then e else e.release
  lent : ∀ id ∈ d.scopes.flatten, ∃ e, ms[id]? = some e ∧ e.ownership = .borrowed
  apart : d.scopes.flatten.Nodup
  named : ∀ name id, d.object name = .ok (.envelope id) → id < ms.length
  asked : ∀ id ∈ rs, id < ms.length

theorem empty_governed : empty.Governed [] [] where
  count := rfl
  fresh := by simp
  kept := by simp
  lent := by simp [empty]
  apart := by simp [empty]
  named name id h := by simp [object, empty] at h
  asked := by simp

theorem Governed.lent_lt (h : d.Governed ms rs) {id : Nat} (hid : id ∈ d.scopes.flatten) :
    id < ms.length := by
  obtain ⟨e, he, -⟩ := h.lent id hid
  exact (List.getElem?_eq_some_iff.mp he).1

theorem Governed.ownership (h : d.Governed ms rs) {id : Nat} {e : Envelope}
    (he : ms[id]? = some e) : (d.store.envelope id).ownership = e.ownership := by
  rw [h.kept id e he]
  split <;> rfl

theorem Governed.released_iff (h : d.Governed ms rs) {id : Nat} {e : Envelope}
    (he : ms[id]? = some e) :
    (d.store.envelope id).released = false ↔ d.isLive rs id e.ownership = true := by
  rw [h.kept id e he]
  split
  · rename_i hl
    exact ⟨fun _ => hl, fun _ => h.fresh e (List.mem_of_getElem? he)⟩
  · rename_i hl
    exact ⟨fun hr => absurd hr Bool.noConfusion, fun hl' => absurd hl' hl⟩

theorem getElem?_made {new : List Envelope} {id : Nat} {e : Envelope}
    (h : (ms ++ new)[id]? = some e) :
    id < ms.length ∧ ms[id]? = some e ∨ ms.length ≤ id ∧ new[id - ms.length]? = some e := by
  rcases Nat.lt_or_ge id ms.length with hl | hg
  · rw [List.getElem?_append_left hl] at h
    exact Or.inl ⟨hl, h⟩
  · rw [List.getElem?_append_right hg] at h
    exact Or.inr ⟨hg, h⟩

/-- What was made stays so when more is made. -/
theorem made_of_lent (h : d.Governed ms rs) (new : List Envelope) {id : Nat}
    (hid : id ∈ d.scopes.flatten) : ∃ e, (ms ++ new)[id]? = some e ∧ e.ownership = .borrowed := by
  obtain ⟨e, he, ho⟩ := h.lent id hid
  refine ⟨e, ?_, ho⟩
  rw [List.getElem?_append_left (h.lent_lt hid)]
  exact he

theorem Governed.named_append (h : d.Governed ms rs) (new : List Envelope) (name : String)
    (id : Nat) (ho : d.object name = .ok (.envelope id)) : id < (ms ++ new).length := by
  rw [List.length_append]
  exact Nat.lt_add_right _ (h.named name id ho)

theorem Governed.asked_append (h : d.Governed ms rs) (new : List Envelope) :
    ∀ id ∈ rs, id < (ms ++ new).length := fun id hid => by
  rw [List.length_append]
  exact Nat.lt_add_right _ (h.asked id hid)

theorem Governed.fresh_lending (h : d.Governed ms rs) (bs : List Bytes) :
    ∀ e ∈ ms ++ bs.map (Envelope.fresh · .borrowed), e.released = false :=
  List.forall_mem_append.mpr ⟨h.fresh, List.forall_mem_map.mpr fun _ _ => rfl⟩

theorem Governed.keep (h : d.Governed ms rs) {new : List Nat}
    (hr : ∀ id ∈ new, (d.store.envelope id).ownership = .transferred →
      (d.store.envelope id).released = true) (hnew : ∀ id ∈ new, id < ms.length)
    (he : d'.store.envelopes = d.store.envelopes) (hs : d'.scopes = d.scopes)
    (hn : ∀ name id, d'.object name = .ok (.envelope id) → ∃ n, d.object n = .ok (.envelope id)) :
    d'.Governed ms (rs ++ new) := by
  have henv : ∀ id, d'.store.envelope id = d.store.envelope id := fun id => by
    unfold Store.envelope
    rw [he]
  refine ⟨by rw [he]; exact h.count, h.fresh, fun id e hid => ?_, by rw [hs]; exact h.lent,
    by rw [hs]; exact h.apart, fun name id ho => ?_, fun id hid => ?_⟩
  · have hlive : d'.isLive (rs ++ new) id e.ownership = d.isLive rs id e.ownership := by
      cases ho : e.ownership with
      | owned => rfl
      | borrowed => simp only [isLive, hs]
      | transferred =>
        have hsub : id ∈ new → id ∈ rs := fun hm => by
          have hrel := hr id hm (by rw [h.ownership hid]; exact ho)
          by_contra hrs
          have hl := (h.released_iff hid).mpr (by simp [ho, isLive, hrs])
          exact absurd (hl.symm.trans hrel) Bool.noConfusion
        have hmem : id ∈ rs ++ new ↔ id ∈ rs :=
          List.mem_append.trans ⟨fun hm => hm.elim (fun hm => hm) hsub, Or.inl⟩
        simp only [isLive, hmem]
    rw [henv, hlive]
    exact h.kept id e hid
  · obtain ⟨n, hd⟩ := hn name id ho
    exact h.named n id hd
  · exact (List.mem_append.mp hid).elim (h.asked id) (hnew id)

theorem Governed.make (h : d.Governed ms rs) (name : String) (b : Bytes) {o : Ownership}
    (ho : o ≠ .borrowed) :
    (({ d with store := (d.store.add (.fresh b o)).2 } : Desk).bind name
      (.envelope d.store.envelopes.length)).Governed (ms ++ [.fresh b o]) rs := by
  refine ⟨?_, List.forall_mem_append.mpr ⟨h.fresh, by simp [Envelope.fresh]⟩, fun id e hid => ?_,
    fun id hid => made_of_lent h _ hid, h.apart, fun other id hid => ?_, h.asked_append _⟩
  · simp [bind, Store.add, h.count]
  · rcases getElem?_made hid with ⟨hlt, hm⟩ | ⟨hge, hm⟩
    · have henv : (d.store.add (.fresh b o)).2.envelope id = d.store.envelope id := by
        have hl : id < d.store.envelopes.length := by rw [h.count]; exact hlt
        simp only [Store.envelope, Store.add, List.getD_eq_getElem?_getD,
          List.getElem?_append_left hl]
      exact henv.trans (h.kept id e hm)
    · -- the new envelope, of which nothing was asked yet
      obtain ⟨hz, rfl⟩ : id - ms.length = 0 ∧ Envelope.fresh b o = e := by
        rw [List.getElem?_singleton] at hm
        split at hm
        · rename_i hz
          exact ⟨hz, Option.some.inj hm⟩
        · cases hm
      obtain rfl : id = ms.length := by omega
      have hlive : d.isLive rs ms.length o = true := by
        cases o with
        | owned => rfl
        | borrowed => exact absurd rfl ho
        | transferred =>
          have hn : ms.length ∉ rs := fun hm => absurd (h.asked _ hm) (Nat.lt_irrefl _)
          simp [isLive, hn]
      have henv : (d.store.add (.fresh b o)).2.envelope ms.length = .fresh b o := by
        simp [Store.envelope, Store.add, ← h.count]
      exact henv.trans (if_pos hlive).symm
  · rw [object_bind] at hid
    split at hid
    · obtain rfl := Object.envelope.inj (Except.ok.inj hid)
      rw [h.count, List.length_append]
      exact Nat.lt_succ_self _
    · exact h.named_append _ other id hid

/-- Envelopes that are lent come after those that there are. -/
theorem Governed.lending (h : d.Governed ms rs) (bs : List Bytes) {id : Nat} {e : Envelope}
    (hid : (ms ++ bs.map (Envelope.fresh · .borrowed))[id]? = some e) :
    (id ∉ d.store.numbers bs ∧ ms[id]? = some e ∧
      (d.store.lending bs).envelope id = d.store.envelope id) ∨
    id ∈ d.store.numbers bs ∧ id ∉ d.scopes.flatten ∧ e.ownership = .borrowed ∧
      (d.store.lending bs).envelope id = e := by
  rw [Store.mem_numbers, Store.lending_envelope, h.count]
  rcases getElem?_made hid with ⟨hlt, hm⟩ | ⟨hge, hm⟩
  · exact Or.inl ⟨fun hn => absurd hlt (by omega), hm, if_pos hlt⟩
  · have hlt : id - ms.length < bs.length := by
      have := (List.getElem?_eq_some_iff.mp hm).1
      simpa using this
    have hb : e.ownership = .borrowed := by
      rw [List.getElem?_map] at hm
      obtain ⟨b, -, rfl⟩ := Option.map_eq_some_iff.mp hm
      rfl
    refine Or.inr ⟨⟨hge, by omega⟩, fun hf => absurd (h.lent_lt hf) (by omega), hb, ?_⟩
    rw [if_neg (by omega), List.getD_eq_getElem?_getD, hm]
    rfl

theorem Governed.lend (h : d.Governed ms rs) (names : List String) (bs : List Bytes) :
    (({ d with store := d.store.lending bs } : Desk).openScope names
      (d.store.numbers bs)).Governed (ms ++ bs.map (Envelope.fresh · .borrowed)) rs := by
  obtain ⟨hstore, hscopes⟩ := openScope_store { d with store := d.store.lending bs } names
    (d.store.numbers bs)
  refine ⟨?_, h.fresh_lending bs, fun id e hid => ?_, fun id hid => ?_, ?_, fun name id hid => ?_,
    h.asked_append _⟩
  · rw [hstore]
    simp [Store.lending, h.count]
  · rw [hstore]
    rcases h.lending bs hid with ⟨hn, hm, henv⟩ | ⟨hn, -, hb, henv⟩
    · have hlive : (({ d with store := d.store.lending bs } : Desk).openScope names
          (d.store.numbers bs)).isLive rs id e.ownership = d.isLive rs id e.ownership := by
        cases e.ownership with
        | borrowed => simp [isLive, hscopes, hn]
        | _ => rfl
      rw [hlive]
      exact henv.trans (h.kept id e hm)
    · rw [if_pos (by simp [hb, isLive, hscopes, hn])]
      exact henv
  · rw [hscopes, List.flatten_cons, List.mem_append] at hid
    rcases hid with hid | hid
    · obtain ⟨hge, hlt⟩ := Store.mem_numbers.mp hid
      rw [h.count] at hge hlt
      rw [List.getElem?_append_right hge, List.getElem?_map]
      obtain ⟨b, hb⟩ : ∃ b, bs[id - ms.length]? = some b :=
        ⟨_, List.getElem?_eq_getElem (by omega)⟩
      exact ⟨.fresh b .borrowed, by rw [hb]; rfl, rfl⟩
    · exact made_of_lent h _ hid
  · rw [hscopes, List.flatten_cons, List.nodup_append]
    refine ⟨Store.nodup_numbers _ _, h.apart, fun id hid k hk heq => ?_⟩
    have hge := (Store.mem_numbers.mp hid).1
    have hlt := h.lent_lt hk
    rw [h.count] at hge
    omega
  · rcases object_of_binds hid with hm | hold
    · have hz : id ∈ d.store.numbers bs := by
        obtain ⟨⟨n, k⟩, hp, rfl⟩ := List.mem_map.mp hm
        exact (List.of_mem_zip hp).2
      have hlt := (Store.mem_numbers.mp hz).2
      rwa [List.length_append, List.length_map, ← h.count]
    · exact h.named_append _ name id hold

theorem Governed.unwind (h : d.Governed ms rs) (bs : List Bytes) :
    ({ d with store := (d.store.lending bs).releaseAll (d.store.numbers bs) } : Desk).Governed
      (ms ++ bs.map (Envelope.fresh · .borrowed)) rs := by
  refine ⟨?_, h.fresh_lending bs, fun id e hid => ?_, fun id hid => made_of_lent h _ hid, h.apart,
    h.named_append _, h.asked_append _⟩
  · simp [Store.lending, h.count]
  · rw [Store.envelope_releaseAll]
    rcases h.lending bs hid with ⟨hn, hm, henv⟩ | ⟨hn, hf, hb, henv⟩
    · rw [if_neg hn]
      exact henv.trans (h.kept id e hm)
    · rw [if_pos hn, henv, hb, if_neg (by simpa [isLive] using hf)]

theorem Governed.leave (h : d.Governed ms rs) {ids : List Nat} {rest : List (List Nat)}
    (hs : d.scopes = ids :: rest) :
    ({ d with store := d.store.releaseAll ids, scopes := rest } : Desk).Governed ms rs := by
  have hflat : d.scopes.flatten = ids ++ rest.flatten := by rw [hs, List.flatten_cons]
  have happ := h.apart
  rw [hflat, List.nodup_append] at happ
  refine ⟨by simpa using h.count, h.fresh, fun id e hid => ?_, fun id hid => ?_, happ.2.1, h.named,
    h.asked⟩
  · rw [Store.envelope_releaseAll, h.kept id e hid]
    by_cases hm : id ∈ ids
    · -- an envelope of this scope is of no other one
      have hd : id ∈ d.scopes.flatten := by rw [hflat]; exact List.mem_append_left _ hm
      have hr : id ∉ rest.flatten := fun hr => happ.2.2 id hm id hr rfl
      obtain ⟨e', he', hb⟩ := h.lent id hd
      obtain rfl : e = e' := Option.some.inj (hid.symm.trans he')
      rw [if_pos hm, hb, if_pos (by simpa [isLive] using hd), if_neg (by simpa [isLive] using hr)]
    · have hlive : ({ d with store := d.store.releaseAll ids, scopes := rest } : Desk).isLive rs id
          e.ownership = d.isLive rs id e.ownership := by
        cases e.ownership with
        | borrowed => simp only [isLive, hflat, List.mem_append, hm, false_or]
        | _ => rfl
      rw [if_neg hm, hlive]
  · exact h.lent id (by rw [hflat]; exact List.mem_append_right _ hid)

theorem Governed.reclaim (h : d.Governed ms rs) {id : Nat} (hid : id < ms.length)
    (ht : (d.store.envelope id).ownership = .transferred) :
    ({ d with store := d.store.release id } : Desk).Governed ms (rs ++ [id]) := by
  refine ⟨by simpa using h.count, h.fresh, fun k e hk => ?_, h.lent, h.apart, h.named,
    fun k hk => ?_⟩
  · rw [Store.envelope_release, h.kept k e hk]
    by_cases hki : id = k
    · subst hki
      have ho : e.ownership = .transferred := (h.ownership hk).symm.trans ht
      have hdead : ({ d with store := d.store.release id } : Desk).isLive (rs ++ [id]) id
          .transferred = false := by simp [isLive]
      rw [if_pos rfl, ho, hdead]
      split <;> rfl
    · have hlive : ({ d with store := d.store.release id } : Desk).isLive (rs ++ [id]) k
          e.ownership = d.isLive rs k e.ownership := by
        cases e.ownership with
        | transferred => simp [isLive, Ne.symm hki]
        | _ => rfl
      rw [if_neg hki, hlive]
  · rcases List.mem_append.mp hk with hk | hk
    · exact h.asked k hk
    · rw [List.mem_singleton.mp hk]
      exact hid

/-- Only envelopes with a name are asked to be reclaimed. -/
theorem Governed.reclaims_lt (h : d.Governed ms rs) {s : Step} :
    ∀ id ∈ d.reclaims s, id < ms.length := by
  intro id hid
  unfold reclaims at hid
  split at hid
  · rename_i name
    split at hid
    · rename_i k ho
      rw [List.mem_singleton.mp hid]
      exact h.named name k ho
    · cases hid
  · cases hid

theorem Governed.step (h : d.Governed ms rs) {s : Step} (hs : s.isProper = true) :
    (d.step s).2.Governed (ms ++ d.births s) (rs ++ d.reclaims s) := by
  have heff := d.step_effect s
  generalize (d.step s).2 = d' at heff
  cases heff with
  | keep hb hr he hsc hn =>
    rw [hb, List.append_nil]
    exact h.keep hr h.reclaims_lt he hsc hn
  | @make name value ownership b hb =>
    rw [hb, show d.reclaims (.make name value ownership) = [] from rfl, List.append_nil]
    refine h.make name b ?_
    rintro rfl
    cases hs
  | @lend names values bs hb =>
    rw [hb, show d.reclaims (.lend names values) = [] from rfl, List.append_nil]
    exact h.lend names bs
  | @unwind names values bs hb =>
    rw [hb, show d.reclaims (.lend names values) = [] from rfl, List.append_nil]
    exact h.unwind bs
  | @leave failure ids rest hsc =>
    rw [show d.births (.leave failure) = [] from rfl,
      show d.reclaims (.leave failure) = [] from rfl, List.append_nil, List.append_nil]
    exact h.leave hsc
  | @reclaim name id ho ht hl =>
    have hr : d.reclaims (.ask name .reclaim) = [id] := by simp only [reclaims, ho]
    rw [hr, show d.births (.ask name .reclaim) = [] from rfl, List.append_nil]
    exact h.reclaim (h.named name id ho) ht

/-- Every row of steps governs the envelopes. -/
theorem Governed.after (h : d.Governed ms rs) {ss : List Step}
    (hs : ∀ s ∈ ss, s.isProper = true) :
    (d.after ss).Governed (ms ++ d.made ss) (rs ++ d.reclaimed ss) := by
  induction ss generalizing d ms rs with
  | nil => simpa [Desk.after, run, made, reclaimed, gather] using h
  | cons s ss ih =>
    have h1 := h.step (hs s List.mem_cons_self)
    have h2 := ih h1 fun x hx => hs x (List.mem_cons_of_mem _ hx)
    rw [List.append_assoc, List.append_assoc] at h2
    exact h2

end Desk

end ClusterLink
