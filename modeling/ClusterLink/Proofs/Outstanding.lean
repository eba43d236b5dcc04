/-
# Outstanding status updates

Which status updates a history tells of: those that were issued, in order,
and among these the outstanding ones, for whose identifiers no
acknowledgement was taken up since (`History.Stands`).

Only tidings count: an event of work neither issues an update nor
acknowledges one (`Event.Neutral`).

Key definitions: `History.issued`, `History.outstanding`, `History.Stands`.
Key theorems: `History.mem_outstanding`, `History.outstanding_sublist`,
`History.not_stands_of_acknowledged`.
-/
import ClusterLink.Proofs.Passage

namespace ClusterLink

namespace Event

/-- The event neither issues nor acknowledges a status update. -/
def Neutral (v : Event) : Prop := v.issued? = none ∧ v.acknowledged? = none

theorem neutral_of_not_tiding {v : Event} (h : v.isTiding = false) : v.Neutral := by
  cases v with
  | accepted why m =>
    refine ⟨?_, rfl⟩
    cases why with
    | command => cases m <;> first | rfl | cases h
    | _ => rfl
  | _ => first | exact ⟨rfl, rfl⟩ | cases h

end Event

theorem Phase.Contacts.issued? {p : Phase} {v : Event} (h : p.Contacts v) : v.issued? = none := by
  cases h <;> rfl

namespace History

/-- The status updates issued so far, in order, each with its identifier first. -/
def issued (h : List Event) : List (Bytes × Bytes) := (h.filterMap Event.issued?).reverse

/-- Those that were not acknowledged since. -/
def outstanding : List Event → List (Bytes × Bytes)
  | [] => []
  | v :: h => (outstanding h).filter (fun x => v.acknowledged? ≠ some x.1) ++ v.issued?.toList

/-- The update was issued, and no acknowledgement for its identifier was taken up since. -/
def Stands (x : Bytes × Bytes) (h : List Event) : Prop :=
  ∃ v t, v :: t <:+ h ∧ v.issued? = some x ∧
    ∀ w u, w :: u <:+ h → v :: t <:+ u → w.acknowledged? ≠ some x.1

variable {v : Event} {h t new : List Event} {x : Bytes × Bytes}

@[simp] theorem issued_cons : issued (v :: h) = issued h ++ v.issued?.toList := by
  cases hv : v.issued? <;> simp [issued, hv]

theorem issued_eq (h : List Event) : issued h = (tidings h).filterMap Event.issued? :=
  filterMap_tidings (fun _ hv => (Event.neutral_of_not_tiding hv).1) h

theorem outstanding_append_of_neutral (hn : ∀ v ∈ new, v.Neutral) :
    outstanding (new ++ h) = outstanding h := by
  induction new with
  | nil => rfl
  | cons v new ih =>
    obtain ⟨hi, ha⟩ := hn v List.mem_cons_self
    have hv : outstanding (v :: (new ++ h)) = outstanding (new ++ h) := by
      simp [outstanding, hi, ha]
    exact hv.trans (ih fun w hw => hn w (List.mem_cons_of_mem _ hw))

theorem issued_append_of_neutral (hn : ∀ v ∈ new, v.Neutral) :
    issued (new ++ h) = issued h := by
  have hf : new.filterMap Event.issued? = [] :=
    List.filterMap_eq_nil_iff.mpr fun v hv => (hn v hv).1
  simp [issued, hf]

/-- What is outstanding was issued, and stands in the order of issue. -/
theorem outstanding_sublist (h : List Event) : (outstanding h).Sublist (issued h) := by
  induction h with
  | nil => exact List.Sublist.refl _
  | cons v h ih =>
    rw [outstanding, issued_cons]
    exact (List.filter_sublist.trans ih).append (List.Sublist.refl _)

/-- What was issued at some time is where all that was issued later begins. -/
theorem issued_initial (ht : t <:+ h) : issued t <+: issued h := by
  obtain ⟨new, rfl⟩ := ht
  refine ⟨(new.filterMap Event.issued?).reverse, ?_⟩
  simp [issued]

/-- The outstanding updates are those that stand. -/
theorem mem_outstanding : x ∈ outstanding h ↔ Stands x h := by
  induction h with
  | nil =>
    constructor
    · intro hx
      cases hx
    · rintro ⟨v, t, ht, -⟩
      exact absurd (List.suffix_nil.mp ht) (List.cons_ne_nil v t)
  | cons e h ih =>
    rw [outstanding, List.mem_append, List.mem_filter, ih]
    constructor
    · rintro (⟨⟨v, t, ht, hv, hnone⟩, he⟩ | hx)
      · refine ⟨v, t, ht.trans (List.suffix_cons _ _), hv, fun w u hw hu => ?_⟩
        rcases List.suffix_cons_iff.mp hw with heq | hw
        · obtain ⟨rfl, -⟩ := List.cons.inj heq
          simpa using he
        · exact hnone w u hw hu
      · have hx : e.issued? = some x := by simpa using hx
        refine ⟨e, h, List.suffix_refl _, hx, fun w u hw hu => ?_⟩
        -- nothing happened since
        have h1 := hw.length_le
        have h2 := hu.length_le
        simp only [List.length_cons] at h1 h2
        omega
    · rintro ⟨v, t, ht, hv, hnone⟩
      rcases List.suffix_cons_iff.mp ht with heq | ht
      · obtain ⟨rfl, rfl⟩ := List.cons.inj heq
        exact Or.inr (by simp [hv])
      · refine Or.inl ⟨⟨v, t, ht, hv, fun w u hw hu => ?_⟩, ?_⟩
        · exact hnone w u (hw.trans (List.suffix_cons _ _)) hu
        · simpa using hnone e h (List.suffix_refl _) ht

/-- What is outstanding can be read off the tidings. -/
theorem outstanding_filter (h : List Event) :
    outstanding (h.filter Event.isTiding) = outstanding h := by
  induction h with
  | nil => rfl
  | cons v h ih =>
    by_cases hv : v.isTiding = true
    · rw [List.filter_cons_of_pos hv, outstanding, outstanding, ih]
    · have hn : ∀ w ∈ [v], w.Neutral := by
        simpa using Event.neutral_of_not_tiding (by simpa using hv)
      rw [List.filter_cons_of_neg hv, ih]
      exact (outstanding_append_of_neutral hn).symm

theorem outstanding_congr (ht : tidings t = tidings h) : outstanding t = outstanding h := by
  have hf : t.filter Event.isTiding = h.filter Event.isTiding := List.reverse_injective ht
  rw [← outstanding_filter t, hf, outstanding_filter]

/-- Once an update was acknowledged after it was issued, none stands under its identifier, provided
that no two were issued under it. -/
theorem not_stands_of_acknowledged (hd : ((issued h).map Prod.fst).Nodup) {uuid : Bytes}
    (hv : v.acknowledged? = some uuid) (ht : v :: t <:+ h)
    (hi : uuid ∈ (issued t).map Prod.fst) (status : Bytes) : ¬ Stands (uuid, status) h := by
  rintro ⟨w, u, hu, hw, hnone⟩
  rcases List.suffix_or_suffix_of_suffix hu ht with hwv | hvw
  · rcases List.suffix_cons_iff.mp hwv with heq | hwv
    · obtain ⟨rfl, -⟩ := List.cons.inj heq
      cases w with
      | accepted => cases hv
      | _ => cases hw
    · exact hnone v t ht hwv hv
  · -- the update is issued again, under an identifier in use
    have htu : t <:+ u := by
      rcases List.suffix_cons_iff.mp hvw with heq | hvw
      · obtain ⟨rfl, -⟩ := List.cons.inj heq
        cases v with
        | accepted => cases hv
        | _ => cases hw
      · exact (List.suffix_cons _ _).trans hvw
    have hmem : uuid ∈ (issued u).map Prod.fst :=
      ((issued_initial htu).map Prod.fst).subset hi
    have hd' := hd.sublist ((issued_initial hu).map Prod.fst).sublist
    rw [issued_cons, hw, List.map_append] at hd'
    exact (List.nodup_append.mp hd').2.2 _ hmem uuid (by simp) rfl

end History

end ClusterLink
