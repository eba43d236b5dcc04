/-
# What becomes of envelopes in the store

Releasing releases the envelopes that it is about and no other ones, and
lending adds envelopes and leaves those alone that there are. A question
leaves all envelopes as they are, but for a transferred one that is
reclaimed (`Store.Spares`).

Key definition: `Store.Spares`.
Key theorems: `Store.envelope_releaseAll`, `Store.lend_envelope`,
`Store.ask_spares`.
-/
import ClusterLink.Envelope.Store
import Mathlib.Data.List.Basic

namespace ClusterLink

namespace Store

theorem envelope_release (s : Store) (id k : Nat) :
    (s.release id).envelope k = if id = k then (s.envelope k).release else s.envelope k := by
  unfold envelope release
  rw [List.getD_eq_getElem?_getD, List.getD_eq_getElem?_getD, List.getElem?_modify]
  split
  · cases s.envelopes[k]? <;> rfl
  · rw [id_map']

/-- Releasing several envelopes releases those and no other one. -/
theorem envelope_releaseAll (s : Store) (ids : List Nat) (k : Nat) :
    (s.releaseAll ids).envelope k = if k ∈ ids then (s.envelope k).release else s.envelope k := by
  induction ids with
  | nil => rfl
  | cons id ids ih =>
    have h1 : (s.releaseAll (id :: ids)).envelope k = ((s.releaseAll ids).release id).envelope k :=
      rfl
    rw [h1, envelope_release, ih]
    by_cases hid : id = k
    · subst hid
      rw [if_pos rfl, if_pos List.mem_cons_self]
      split <;> rfl
    · rw [if_neg hid]
      simp only [List.mem_cons, Ne.symm hid, false_or]

/-- Lending adds an envelope for each payload. -/
theorem lend_eq (s : Store) (ps : List Bytes) :
    s.lend ps = (List.range' s.envelopes.length ps.length,
      { s with envelopes := s.envelopes ++ ps.map (Envelope.fresh · .borrowed) }) := by
  induction ps generalizing s with
  | nil => simp [lend]
  | cons p ps ih =>
    simp only [lend, add, ih]
    simp [List.range'_succ]

/-- The envelopes that are lent are live and borrowed, and hold the payloads. -/
theorem lend_envelope (s : Store) (ps : List Bytes) :
    (s.lend ps).1.map (s.lend ps).2.envelope = ps.map (Envelope.fresh · .borrowed) := by
  rw [lend_eq]
  apply List.ext_getElem (by simp)
  intro i hi hi'
  have hi : i < ps.length := by simpa using hi
  simp [envelope, hi]

/-- All others are as they were. -/
theorem lend_envelope_of_not_mem (s : Store) (ps : List Bytes) {k : Nat}
    (hk : k ∉ (s.lend ps).1) : (s.lend ps).2.envelope k = s.envelope k := by
  rw [lend_eq] at hk ⊢
  have hk : k < s.envelopes.length ∨ s.envelopes.length + ps.length ≤ k := by
    simp only [List.mem_range'_1] at hk
    omega
  unfold envelope
  rw [List.getD_eq_getElem?_getD, List.getD_eq_getElem?_getD]
  rcases hk with hk | hk
  · rw [List.getElem?_append_left hk]
  · rw [List.getElem?_eq_none (by simpa using hk), List.getElem?_eq_none (by omega)]

/-- The envelopes are as they were, but for transferred ones that were released. -/
def Spares (s s' : Store) : Prop :=
  ∀ k, s'.envelope k = s.envelope k ∨
    ((s.envelope k).ownership = .transferred ∧ s'.envelope k = (s.envelope k).release)

theorem Spares.refl (s : Store) : s.Spares s := fun _ => Or.inl rfl

/-- A transferred envelope that is live is released when it is reclaimed; nothing else changes. -/
theorem reclaim_store (s : Store) (id : Nat) : (s.reclaim id).2 =
    if (s.envelope id).ownership = .transferred ∧ (s.envelope id).released = false
      then s.release id else s := by
  unfold reclaim Envelope.reclaim Envelope.read
  by_cases ht : (s.envelope id).ownership = .transferred
  · cases hl : (s.envelope id).released <;> simp [ht]
  · simp [ht]

theorem reclaim_spares (s : Store) (id : Nat) : s.Spares (s.reclaim id).2 := by
  intro k
  rw [reclaim_store]
  split
  · rename_i ht
    rw [envelope_release]
    by_cases hid : id = k
    · subst hid
      exact Or.inr ⟨ht.1, if_pos rfl⟩
    · exact Or.inl (if_neg hid)
  · exact Or.inl rfl

/-- Whatever is asked, borrowed envelopes stay as they are. -/
theorem ask_spares (s : Store) (o : Object) (q : Query) : s.Spares (s.ask o q).2 := by
  cases o with
  | envelope id =>
    cases q with
    | reclaim => exact s.reclaim_spares id
    | _ => exact .refl s
  | view id => exact .refl s
  | buffer b => exact .refl s

theorem view_envelopes {s s' : Store} {id v : Nat} (h : s.view id = .ok (v, s')) :
    s'.envelopes = s.envelopes := by
  unfold view at h
  cases hr : (s.envelope id).read with
  | error f => simp [hr, bind, Except.bind] at h
  | ok data =>
    simp only [hr, bind, Except.bind] at h
    rw [← (Prod.mk.inj (Except.ok.inj h)).2]

theorem view_envelope {s s' : Store} {id v : Nat} (h : s.view id = .ok (v, s')) (k : Nat) :
    s'.envelope k = s.envelope k := by
  unfold envelope
  rw [view_envelopes h]

end Store

end ClusterLink
