/-
# Addresses in normal form

An address has many spellings: anything or nothing in front of its host,
blanks around, noughts before its port, digits of any script. Reading maps
all of them to one address (`Address.parse_written`), and showing picks one of
them (`Address.shown`), so reading what is shown gives the address again and
showing is a normal form.

The shown text is not told apart by its form, since it is of the form with the
scheme whatever the form was that was read. It is told apart by the host and
the number of the port, which no other address shares (`Address.text_inj`).

Key definitions: `Address.shown`, `Address.NormalForm`.
Key theorems: `Text.trim_append`, `Address.parse_written`,
`Address.normalForm_of_parse`.
-/
import ClusterLink.Proofs.Forms
import Mathlib.Data.List.DropRight

namespace ClusterLink

/-! ### Blanks around a text -/

namespace Text

variable {p : Char → Bool} {b b' cs : List Char}

theorem dropWhile_of_head? (h : ∀ c ∈ cs.head?, p c = false) : cs.dropWhile p = cs := by
  cases cs with
  | nil => rfl
  | cons c cs => exact List.dropWhile_cons_of_neg (by simp [h c rfl])

/-- What is put around a text that neither begins nor ends with such a character is trimmed off. -/
theorem trim_append (hb : ∀ c ∈ b, p c = true) (hb' : ∀ c ∈ b', p c = true) (hne : cs ≠ [])
    (hfirst : ∀ c ∈ cs.head?, p c = false) (hlast : ∀ c ∈ cs.getLast?, p c = false) :
    trim p (b ++ (cs ++ b')) = cs := by
  have hleft : (b ++ (cs ++ b')).dropWhile p = cs ++ b' := by
    rw [List.dropWhile_append_of_pos hb]
    refine dropWhile_of_head? fun c hc => hfirst c ?_
    rwa [List.head?_append_of_ne_nil _ hne] at hc
  have hright : (cs ++ b').reverse.dropWhile p = cs.reverse := by
    rw [List.reverse_append, List.dropWhile_append_of_pos fun c hc => hb' c (List.mem_reverse.mp hc)]
    refine dropWhile_of_head? fun c hc => hlast c ?_
    rwa [List.head?_reverse] at hc
  rw [trim, hleft, hright, List.reverse_reverse]

/-- No script has digits among the blanks. -/
theorem not_isBlank_of_isDigit {c : Char} (h : isDigit c = true) : isBlank c = false := by
  have hgaps : ∀ z ∈ noughts, 0x20 < z ∧ z + 9 < 0x85 ∨ 0xa0 < z ∧ z + 9 < 0x1680 ∨
      0x1680 < z ∧ z + 9 < 0x2000 ∨ 0x3000 < z := by decide
  obtain ⟨z, hz⟩ := Option.isSome_iff_exists.mp (Option.isSome_map.symm.trans h)
  have hrun : z ≤ c.toNat ∧ c.toNat ≤ z + 9 := by simpa using List.find?_some hz
  have hgap := hgaps z (List.mem_of_find?_eq_some hz)
  simp only [isBlank, isWhiteSpace, Bool.or_eq_false_iff, Bool.and_eq_false_iff,
    decide_eq_false_iff_not, beq_eq_false_iff_ne]
  omega

end Text

/-! ### Spellings -/

namespace Address

variable {f : Form} {a : Address}

theorem Form.written_ne_nil : f.written ≠ [] := by
  simp [Form.written]

theorem Form.IsShaped.head?_written (hf : f.IsShaped) :
    ∀ c ∈ f.written.head?, Text.isBlank c = false := by
  intro c hc
  have hlead := hf.lead
  unfold Form.written at hc
  cases hl : f.lead with
  | nothing =>
    rw [hl, Lead.written, List.nil_append, List.head?_append_of_ne_nil _ hf.host_ne] at hc
    exact (hf.host c (List.mem_of_mem_head? hc)).2.2.2
  | scheme =>
    rw [hl] at hc
    obtain rfl : 't' = c := Option.some.inj hc
    decide
  | name n =>
    rw [hl] at hc hlead
    rw [Lead.written, List.append_assoc, List.head?_append_of_ne_nil _ hlead.1] at hc
    exact (hlead.2 c (List.mem_of_mem_head? hc)).2.2

theorem Form.IsShaped.getLast?_written (hf : f.IsShaped) :
    ∀ c ∈ f.written.getLast?, Text.isBlank c = false := by
  intro c hc
  have hsplit : f.written = (f.lead.written ++ f.host ++ [':']) ++ f.digits := by
    simp [Form.written]
  rw [hsplit, List.getLast?_append_of_ne_nil _ hf.digits_ne] at hc
  exact Text.not_isBlank_of_isDigit (hf.digits c (List.mem_of_getLast? hc))

/-- A form is read as its address, whatever blanks are around it. -/
theorem parse_written (hf : f.IsLegal) {b b' : List Char} (hb : ∀ c ∈ b, Text.isBlank c = true)
    (hb' : ∀ c ∈ b', Text.isBlank c = true) :
    parse (.text (String.ofList (b ++ (f.written ++ b')))) = .ok f.address := by
  refine parse_eq_ok_iff.mpr ⟨f, ⟨hf, ?_⟩, rfl⟩
  have hs := hf.toIsShaped
  rw [String.toList_ofList, Text.trim_append hb hb' f.written_ne_nil hs.head?_written
    hs.getLast?_written]

/-- The form that an address is shown in. -/
def shown (a : Address) : Form := ⟨.scheme, a.host, Nat.toDigits 10 a.port⟩

theorem written_shown (a : Address) : a.text = String.ofList a.shown.written := by
  simp [text, shown, Form.written, Lead.written, scheme]

theorem Form.IsLegal.shown (hf : f.IsLegal) : f.address.shown.IsLegal := by
  have hpos : 0 < f.address.port := hf.port.1
  have hnumeral := Text.isNumeral_toDigits hpos
  have hlength : (Nat.toDigits 10 f.address.port).length ≤ 5 := by
    rw [Nat.length_toDigits_le_iff (by decide) (by decide)]
    exact Nat.lt_of_le_of_lt hf.port.2 (by decide)
  refine ⟨⟨trivial, hf.host_ne, hf.host, Nat.toDigits_ne_nil, fun c hc => ?_⟩,
    hlength.trans (by decide), ?_⟩
  · rw [Text.isDigit, Text.digitValue?_of_isDigit (hnumeral.ascii c hc)]
    rfl
  · rw [Address.shown, hnumeral.value]
    exact hf.port

theorem Form.IsLegal.address_shown (hf : f.IsLegal) : f.address.shown.address = f.address :=
  congrArg (Address.mk f.host) (Text.isNumeral_toDigits hf.port.1).value

/-- Addresses that are shown alike are equal. -/
theorem text_inj {f f' : Form} (hf : f.IsLegal) (hf' : f'.IsLegal)
    (h : f.address.text = f'.address.text) : f.address = f'.address := by
  have hwritten : f.address.shown.written = f'.address.shown.written := by
    rw [← String.ofList_inj, ← written_shown, ← written_shown, h]
  have hshown := Form.written_inj hf.shown.toIsShaped hf'.shown.toIsShaped hwritten
  rw [← hf.address_shown, ← hf'.address_shown, hshown]

/-! ### The normal form -/

/-- The address that a text is read as is the normal form of the text. -/
structure NormalForm (s : String) (a : Address) : Prop where
  /-- As shown, it is read as itself. -/
  fixed : parse (.text a.text) = .ok a
  /-- It is what comes of its host and every spelling of its port, behind any lead and with blanks
  around. -/
  spellings : ∀ (lead : Lead) (digits before after : List Char), lead.IsLegal →
    digits ≠ [] → (∀ c ∈ digits, Text.isDigit c = true) → digits.length ≤ 4300 →
    Text.decimal digits = a.port →
    (∀ c ∈ before, Text.isBlank c = true) → (∀ c ∈ after, Text.isBlank c = true) →
    parse (.text (String.ofList
      (before ++ (lead.written ++ (a.host ++ ':' :: digits) ++ after)))) = .ok a
  /-- A text that is read as an address shown alike has the same host and the same number as its
  port. -/
  distinct : ∀ (s' : String) (a' : Address), parse (.text s') = .ok a' → a'.text = a.text →
    ∀ f f' : Form, f.Fits s → f'.Fits s' →
      f.host = f'.host ∧ Text.decimal f.digits = Text.decimal f'.digits

/-- Whatever is accepted, is accepted in normal form. -/
theorem normalForm_of_parse {s : String} {a : Address} (h : parse (.text s) = .ok a) :
    NormalForm s a := by
  obtain ⟨f, ⟨hf, -⟩, rfl⟩ := parse_eq_ok_iff.mp h
  refine ⟨?_, ?_, ?_⟩
  · have hread := parse_written hf.shown (List.forall_mem_nil _) (List.forall_mem_nil _)
    rwa [List.nil_append, List.append_nil, ← written_shown, hf.address_shown] at hread
  · intro lead digits before after hlead hne hdigits hlength hport hbefore hafter
    have hlegal : Form.IsLegal ⟨lead, f.host, digits⟩ :=
      ⟨⟨hlead, hf.host_ne, hf.host, hne, hdigits⟩, hlength, hport ▸ hf.port⟩
    have haddress : Form.address ⟨lead, f.host, digits⟩ = f.address := by
      rw [Form.address, hport]
      rfl
    rw [← haddress]
    exact parse_written hlegal hbefore hafter
  · intro s' a' h' htext g g' hg hg'
    have hg_address : g.address = f.address :=
      Except.ok.inj ((parse_eq_ok_iff.mpr ⟨g, hg, rfl⟩).symm.trans h)
    have hg'_address : g'.address = a' :=
      Except.ok.inj ((parse_eq_ok_iff.mpr ⟨g', hg', rfl⟩).symm.trans h')
    have hsame : g'.address = g.address := text_inj hg'.1 hg.1 (by rw [hg'_address, htext, hg_address])
    exact ⟨(congrArg Address.host hsame).symm, (congrArg Address.port hsame).symm⟩

/-- With a name that looks like a scheme, blanks around, and Arabic digits behind a nought. -/
theorem normalForm_arabic :
    parse (.text " tcp:x@h:0٥٠\n") = .ok ⟨"h".toList, 50⟩ ∧
      NormalForm " tcp:x@h:0٥٠\n" ⟨"h".toList, 50⟩ := by
  have h : parse (.text " tcp:x@h:0٥٠\n") = .ok ⟨"h".toList, 50⟩ := by decide +kernel
  exact ⟨h, normalForm_of_parse h⟩

end Address

end ClusterLink
