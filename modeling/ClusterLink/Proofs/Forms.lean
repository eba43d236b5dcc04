/-
# The forms of an address

A text is accepted as an address exactly if, without the blanks around it, it
is a host, a colon and the digits of a port, behind nothing, the scheme, or a
name and `@` (`Address.Form`). The parts are told apart by their characters: a
host holds no colon, neither a host nor a name holds a slash or an `@`, and
the scheme holds no `@`. So no text has two forms (`Address.Form.written_inj`),
although a name may hold colons and look like a scheme or a host. What a text
is read as does therefore not depend on the order in which the forms are
tried.

The digits may be those of any script, and any number of noughts may come
first, as long as there are no more than `Address.maxDigits` of them. The
address is shown with an ASCII numeral (`Text.IsNumeral`).

Everything else is refused as a malformed value, and so is every argument that
is no text (`Address.parse_grammar`).

Key definitions: `Text.IsNumeral`, `Address.Lead`, `Address.Form`,
`Address.Form.IsLegal`, `Address.Form.Fits`, `Address.Grammar`.
Key theorems: `Address.ofChars?_eq_some_iff`, `Address.Form.written_inj`,
`Address.parse_eq_ok_iff`, `Address.parse_grammar`.
-/
import ClusterLink.Address
import ClusterLink.Proofs.Results
import Mathlib.Data.List.Basic
import Mathlib.Data.List.TakeWhile

namespace ClusterLink

/-! ### Numerals -/

namespace Text

/-- The characters are the decimal digits of the number in ASCII, without leading noughts. -/
structure IsNumeral (cs : List Char) (n : Nat) : Prop where
  ascii : ∀ c ∈ cs, c.isDigit = true
  first : cs.head?.all (· ≠ '0') = true
  value : decimal cs = n

theorem digitValue?_of_isDigit {c : Char} (h : c.isDigit = true) :
    digitValue? c = some (c.toNat - 48) := by
  have hc : 48 ≤ c.toNat ∧ c.toNat ≤ 57 := by
    simpa [Char.isDigit, UInt32.le_iff_toNat_le] using h
  simp [digitValue?, noughts, hc]

/-- The value of ASCII digits is the usual one. -/
theorem decimal_eq_ofDigitChars {cs : List Char} (h : ∀ c ∈ cs, c.isDigit = true) :
    decimal cs = Nat.ofDigitChars 10 cs 0 := by
  suffices hfold : ∀ n, cs.foldl (fun n c => 10 * n + (digitValue? c).getD 0) n =
      Nat.ofDigitChars 10 cs n from hfold 0
  induction cs with
  | nil => exact fun n => rfl
  | cons c cs ih =>
    intro n
    rw [List.foldl_cons, Nat.ofDigitChars_cons, digitValue?_of_isDigit (h c List.mem_cons_self)]
    exact ih (fun d hd => h d (List.mem_cons_of_mem c hd)) _

theorem head?_toDigits (n : Nat) (h : 0 < n) : (Nat.toDigits 10 n).head?.all (· ≠ '0') = true := by
  induction n using Nat.strongRecOn with
  | ind n ih =>
    by_cases hn : n < 10
    · rw [Nat.toDigits_of_lt_base hn]
      simp only [List.head?_cons, Option.all_some, decide_eq_true_eq, ne_eq, Nat.digitChar_eq_zero]
      omega
    · rw [Nat.toDigits_of_base_le (by decide) (by omega),
        List.head?_append_of_ne_nil _ Nat.toDigits_ne_nil]
      exact ih (n / 10) (by omega) (by omega)

/-- The digits that a number is shown with are a numeral. -/
theorem isNumeral_toDigits {n : Nat} (h : 0 < n) : IsNumeral (Nat.toDigits 10 n) n := by
  have hascii : ∀ c ∈ Nat.toDigits 10 n, c.isDigit = true := fun c hc =>
    Nat.isDigit_of_mem_toDigits (by decide) (by decide) hc
  refine ⟨hascii, head?_toDigits n h, ?_⟩
  rw [decimal_eq_ofDigitChars hascii, Nat.ofDigitChars_ten_toDigits]

end Text

/-! ### Forms -/

namespace Address

variable {c x : Char} {l l' r r' cs : List Char}

/-- What may stand in front of a host. -/
inductive Lead
  | nothing
  | scheme
  /-- A name, and `@`. -/
  | name (n : List Char)
  deriving DecidableEq, Repr

namespace Lead

/-- The lead as it is written. -/
def written : Lead → List Char
  | nothing => []
  | scheme => "tcp://".toList
  | name n => n ++ ['@']

/-- A name is not empty, and holds no `@`, no slash and no blank. -/
def IsLegal : Lead → Prop
  | name n => n ≠ [] ∧ ∀ c ∈ n, c ≠ '@' ∧ c ≠ '/' ∧ Text.isBlank c = false
  | _ => True

end Lead

/-- The parts of a text that is an address. -/
structure Form where
  lead : Lead
  host : List Char
  digits : List Char
  deriving DecidableEq, Repr

namespace Form

/-- The text. -/
def written (f : Form) : List Char := f.lead.written ++ (f.host ++ ':' :: f.digits)

/-- The parts are of the right characters. -/
structure IsShaped (f : Form) : Prop where
  lead : f.lead.IsLegal
  host_ne : f.host ≠ []
  host : ∀ c ∈ f.host, c ≠ ':' ∧ c ≠ '@' ∧ c ≠ '/' ∧ Text.isBlank c = false
  digits_ne : f.digits ≠ []
  digits : ∀ c ∈ f.digits, Text.isDigit c = true

/-- The digits are not too many, and those of a port. -/
structure IsLegal (f : Form) : Prop extends f.IsShaped where
  length : f.digits.length ≤ 4300
  port : 1 ≤ Text.decimal f.digits ∧ Text.decimal f.digits ≤ 65535

/-- The address that is meant. -/
def address (f : Form) : Address := ⟨f.host, Text.decimal f.digits⟩

/-- The text is of the form without the blanks around it. -/
def Fits (f : Form) (s : String) : Prop :=
  f.IsLegal ∧ f.written = Text.trim Text.isBlank s.toList

end Form

/-! ### Cutting -/

/-- A text is cut at the first of the characters in question, if there is one. -/
theorem splitAt?_append (h : c ∉ l) : splitAt? c (l ++ c :: r) = some (l, r) := by
  have hl : ∀ x ∈ l, (x != c) = true := fun x hx => bne_iff_ne.mpr fun he => h (he ▸ hx)
  simp [splitAt?, List.dropWhile_append_of_pos hl, List.takeWhile_append_of_pos hl]

theorem splitAt?_of_not_mem (h : c ∉ cs) : splitAt? c cs = none := by
  have hnil : cs.dropWhile (· != c) = [] :=
    List.dropWhile_eq_nil_iff.mpr fun x hx => bne_iff_ne.mpr fun he => h (he ▸ hx)
  simp [splitAt?, hnil]

theorem splitAt?_eq_some_iff : splitAt? c cs = some (l, r) ↔ cs = l ++ c :: r ∧ c ∉ l := by
  refine ⟨fun h => ?_, fun ⟨hcs, hl⟩ => hcs ▸ splitAt?_append hl⟩
  by_cases hc : c ∈ cs
  · obtain ⟨l', r', rfl, hl'⟩ := List.eq_append_cons_of_mem hc
    rw [splitAt?_append hl'] at h
    cases h
    exact ⟨rfl, hl'⟩
  · rw [splitAt?_of_not_mem hc] at h
    cases h

/-- A text does not begin a longer one if it holds a character that comes there only behind one that
it does not hold. -/
theorem not_isPrefix {s : List Char} (hx : x ∈ s) (hc : c ∉ s) (hl : x ∉ l) :
    ¬ s <+: l ++ c :: r := by
  induction l generalizing s with
  | nil =>
    rintro ⟨t, ht⟩
    obtain ⟨d, s, rfl⟩ := List.exists_cons_of_ne_nil (List.ne_nil_of_mem hx)
    obtain ⟨rfl, -⟩ := List.cons.inj ht
    exact hc List.mem_cons_self
  | cons y l ih =>
    intro h
    obtain ⟨d, s, rfl⟩ := List.exists_cons_of_ne_nil (List.ne_nil_of_mem hx)
    obtain ⟨rfl, hp⟩ := List.cons_prefix_cons.mp h
    have hx' : x ∈ s := (List.mem_cons.mp hx).resolve_left fun he => hl (he ▸ List.mem_cons_self)
    exact ih hx' (fun hs => hc (List.mem_cons_of_mem d hs))
      (fun hs => hl (List.mem_cons_of_mem d hs)) hp

/-! ### Reading -/

theorem isNameChar_iff : isNameChar c = true ↔ c ≠ '@' ∧ c ≠ '/' ∧ Text.isBlank c = false := by
  simp [isNameChar, and_assoc]

theorem isHostChar_iff :
    isHostChar c = true ↔ c ≠ ':' ∧ c ≠ '@' ∧ c ≠ '/' ∧ Text.isBlank c = false := by
  simp [isHostChar, isNameChar_iff]

/-- What stands behind the lead, if it holds neither a slash nor an `@`, can be told from it. -/
theorem body?_lead {lead : Lead} (h : lead.IsLegal) (hat : '@' ∉ r) (hslash : '/' ∉ r) :
    body? (lead.written ++ r) = some r := by
  have hscheme : '/' ∈ scheme ∧ '@' ∉ scheme := by decide
  cases lead with
  | nothing =>
    have hn : ¬ scheme <+: r := fun hp => hslash (hp.subset hscheme.1)
    simp [body?, Lead.written, hn, splitAt?_of_not_mem hat]
  | scheme => simp [body?, Lead.written, scheme]
  | name n =>
    obtain ⟨hne, hn⟩ := h
    have hp : ¬ scheme <+: n ++ '@' :: r :=
      not_isPrefix hscheme.1 hscheme.2 fun hm => (hn _ hm).2.1 rfl
    have hsplit := splitAt?_append (r := r) fun hm => (hn '@' hm).1 rfl
    have hall : n.all isNameChar = true := List.all_eq_true.mpr fun c hc => isNameChar_iff.mpr (hn c hc)
    simp [body?, Lead.written, hp, hsplit, hne, hall]

/-- What is left of a text stands behind a lead. -/
theorem exists_lead_of_body? (h : body? cs = some r) :
    ∃ lead : Lead, lead.IsLegal ∧ cs = lead.written ++ r := by
  unfold body? at h
  split at h
  · rename_i hp
    obtain ⟨t, rfl⟩ := List.isPrefixOf_iff_prefix.mp hp
    refine ⟨.scheme, trivial, ?_⟩
    rw [← Option.some.inj h, List.drop_left]
    rfl
  · split at h
    · exact ⟨.nothing, trivial, Option.some.inj h⟩
    · rename_i n r' hsplit
      split at h
      · rename_i hn
        obtain rfl := Option.some.inj h
        obtain ⟨rfl, -⟩ := splitAt?_eq_some_iff.mp hsplit
        refine ⟨.name n, ⟨hn.1, fun c hc => ?_⟩, by simp [Lead.written]⟩
        exact isNameChar_iff.mp (List.all_eq_true.mp hn.2 c hc)
      · cases h

/-- A host and the digits of a port are told apart by the colon. -/
theorem hostPort?_eq_some_iff : hostPort? cs = some (l, r) ↔ cs = l ++ ':' :: r ∧
    (l ≠ [] ∧ ∀ c ∈ l, c ≠ ':' ∧ c ≠ '@' ∧ c ≠ '/' ∧ Text.isBlank c = false) ∧
    r ≠ [] ∧ ∀ c ∈ r, Text.isDigit c = true := by
  have hhost : l.all isHostChar = true ↔
      ∀ c ∈ l, c ≠ ':' ∧ c ≠ '@' ∧ c ≠ '/' ∧ Text.isBlank c = false := by
    simp only [List.all_eq_true, isHostChar_iff]
  constructor
  · intro h
    obtain ⟨⟨l', r'⟩, hsplit, h⟩ := Option.bind_eq_some_iff.mp h
    dsimp only at h
    split at h
    · rename_i hc
      cases h
      exact ⟨(splitAt?_eq_some_iff.mp hsplit).1, ⟨hc.1, hhost.mp hc.2.1⟩, hc.2.2.1,
        List.all_eq_true.mp hc.2.2.2⟩
    · cases h
  · rintro ⟨rfl, ⟨hne, hl⟩, hr⟩
    have hsplit := splitAt?_append (r := r) fun hm => (hl ':' hm).1 rfl
    have hparts : l ≠ [] ∧ l.all isHostChar = true ∧ r ≠ [] ∧ r.all Text.isDigit = true :=
      ⟨hne, hhost.mpr hl, hr.1, List.all_eq_true.mpr hr.2⟩
    unfold hostPort?
    rw [hsplit]
    exact if_pos hparts

/-- A text is cut into a host and digits exactly if it is of a form with these. -/
theorem ofChars?_eq_some_iff {host digits : List Char} : ofChars? cs = some (host, digits) ↔
    ∃ f : Form, f.IsShaped ∧ f.written = cs ∧ f.host = host ∧ f.digits = digits := by
  constructor
  · intro h
    obtain ⟨r, hbody, hr⟩ := Option.bind_eq_some_iff.mp h
    obtain ⟨lead, hlead, rfl⟩ := exists_lead_of_body? hbody
    obtain ⟨rfl, hhost, hdigits⟩ := hostPort?_eq_some_iff.mp hr
    exact ⟨⟨lead, host, digits⟩, ⟨hlead, hhost.1, hhost.2, hdigits.1, hdigits.2⟩, rfl, rfl, rfl⟩
  · rintro ⟨f, hf, rfl, rfl, rfl⟩
    have hmem : ∀ c, c ∈ f.host ++ ':' :: f.digits → c ≠ '@' ∧ c ≠ '/' := by
      intro c hc
      rcases List.mem_append.mp hc with hc | hc
      · exact ⟨(hf.host c hc).2.1, (hf.host c hc).2.2.1⟩
      rcases List.mem_cons.mp hc with rfl | hc
      · decide
      · have hd := hf.digits c hc
        constructor <;> rintro rfl <;> exact absurd hd (by decide)
    have hbody := body?_lead hf.lead (fun hm => (hmem _ hm).1 rfl) (fun hm => (hmem _ hm).2 rfl)
    unfold ofChars? Form.written
    rw [hbody]
    exact hostPort?_eq_some_iff.mpr ⟨rfl, ⟨hf.host_ne, hf.host⟩, hf.digits_ne, hf.digits⟩

/-! ### One form only -/

theorem Lead.written_inj {lead lead' : Lead} (h : lead.written = lead'.written) : lead = lead' := by
  have hname : ∀ n : List Char, Lead.written .nothing ≠ Lead.written (.name n) ∧
      Lead.written .scheme ≠ Lead.written (.name n) := by
    intro n
    have hlast : (Lead.written (.name n)).getLast? = some '@' := by simp [Lead.written]
    constructor <;> intro he <;> rw [← he] at hlast <;> exact absurd hlast (by decide)
  cases lead with
  | nothing =>
    cases lead' with
    | nothing => rfl
    | scheme => exact absurd h (by decide)
    | name n => exact absurd h (hname n).1
  | scheme =>
    cases lead' with
    | nothing => exact absurd h (by decide)
    | scheme => rfl
    | name n => exact absurd h (hname n).2
  | name n =>
    cases lead' with
    | nothing => exact absurd h.symm (hname n).1
    | scheme => exact absurd h.symm (hname n).2
    | name n' => rw [List.append_cancel_right h]

/-- A text is of one form at most. -/
theorem Form.written_inj {f f' : Form} (hf : f.IsShaped) (hf' : f'.IsShaped)
    (h : f.written = f'.written) : f = f' := by
  have hread := ofChars?_eq_some_iff.mpr ⟨f, hf, rfl, rfl, rfl⟩
  rw [h, ofChars?_eq_some_iff.mpr ⟨f', hf', rfl, rfl, rfl⟩] at hread
  obtain ⟨hhost, hdigits⟩ := Prod.mk.inj (Option.some.inj hread)
  have hlead : f.lead.written = f'.lead.written := by
    unfold Form.written at h
    rw [hhost, hdigits] at h
    exact List.append_cancel_right h
  obtain ⟨lead, host, digits⟩ := f
  cases hhost
  cases hdigits
  cases Lead.written_inj hlead
  rfl

/-! ### Acceptance -/

/-- A text is accepted exactly if a form fits it. -/
theorem parse_eq_ok_iff {s : String} {a : Address} :
    parse (.text s) = .ok a ↔ ∃ f : Form, f.Fits s ∧ f.address = a := by
  constructor
  · intro h
    unfold parse at h
    dsimp only at h
    split at h
    · cases h
    rename_i host digits hread
    split at h
    · cases h
    rename_i hlength
    split at h
    · rename_i hport
      obtain ⟨f, hf, hwritten, rfl, rfl⟩ := ofChars?_eq_some_iff.mp hread
      have hlegal : f.IsLegal := ⟨hf, Nat.le_of_not_lt hlength, hport.1, Nat.le_of_lt_succ hport.2⟩
      exact ⟨f, ⟨hlegal, hwritten⟩, Except.ok.inj h⟩
    · cases h
  · rintro ⟨f, ⟨hf, hwritten⟩, rfl⟩
    have hread := ofChars?_eq_some_iff.mpr ⟨f, hf.toIsShaped, hwritten, rfl, rfl⟩
    have hlength : ¬ maxDigits < f.digits.length := Nat.not_lt.mpr hf.length
    have hport : 0 < Text.decimal f.digits ∧ Text.decimal f.digits < 65536 :=
      ⟨hf.port.1, Nat.lt_succ_of_le hf.port.2⟩
    unfold parse
    dsimp only
    rw [hread]
    dsimp only
    rw [if_neg hlength, if_pos hport]
    rfl

/-- How an address is shown. -/
theorem toList_text (a : Address) :
    a.text.toList = "tcp://".toList ++ a.host ++ ':' :: Nat.toDigits 10 a.port := by
  simp [text, scheme]

end Address

/-! ### Refusal -/

namespace Argument

mutual

/-- Nothing but a number of too many digits keeps an argument from being shown. -/
theorem shown_fails (a : Argument) : FailsBy (· = .longNumber) a.shown := by
  cases a with
  | number n =>
    show FailsBy _ (shownNumber n)
    unfold shownNumber
    split
    · exact .error rfl
    · exact .ok _
  | list xs =>
    unfold shown
    exact (shownAll_fails xs).map _
  | none | text _ | octets _ | buffer _ | view _ | envelope _ => exact .ok _

theorem shownAll_fails (xs : List Argument) : FailsBy (· = .longNumber) (shown.shownAll xs) := by
  cases xs with
  | nil => exact .ok []
  | cons x xs =>
    unfold shown.shownAll
    exact (shown_fails x).bind fun s => (shownAll_fails xs).bind fun ss => .ok _

end

end Argument

namespace Address

theorem refusal_kind (a : Argument) {why : String → Failure}
    (h : ∀ s, (why s).kind = "ValueError") : (refusal a why).kind = "ValueError" := by
  unfold refusal
  split
  · exact h _
  · rename_i f hf
    rw [a.shown_fails f hf]
    rfl

/-- Whatever is refused is refused as a malformed value. -/
theorem parse_fails (a : Argument) : FailsBy (fun f => f.kind = "ValueError") (parse a) := by
  unfold parse
  dsimp only
  split
  · exact .error (refusal_kind a fun _ => rfl)
  split
  · exact .error rfl
  split
  · exact .ok _
  · exact .error (refusal_kind a fun _ => rfl)

/-- Which arguments are accepted as an address, and what comes of them. -/
structure Grammar (a : Argument) : Prop where
  /-- Exactly the texts are accepted that a form fits, and their host and port are those of the
  form. -/
  accepts : ∀ x, parse a = .ok x ↔ ∃ s, a = .text s ∧ ∃ f : Form, f.Fits s ∧ f.address = x
  /-- Only one form fits a text. -/
  unique : ∀ s, a = .text s → ∀ f f' : Form, f.Fits s → f'.Fits s → f = f'
  /-- The address is shown with the scheme, the host, and the numeral of the port. -/
  shows : ∀ x, parse a = .ok x → ∃ numeral, Text.IsNumeral numeral x.port ∧
    x.text.toList = "tcp://".toList ++ x.host ++ ':' :: numeral
  /-- Everything else is refused as a malformed value. -/
  refuses : (∀ s, a = .text s → ∀ f : Form, ¬ f.Fits s) →
    ∃ e, parse a = .error e ∧ e.kind = "ValueError"

theorem parse_grammar (a : Argument) : Grammar a := by
  have haccepts : ∀ x, parse a = .ok x ↔
      ∃ s, a = .text s ∧ ∃ f : Form, f.Fits s ∧ f.address = x := by
    intro x
    cases a with
    | text s =>
      rw [parse_eq_ok_iff]
      exact ⟨fun h => ⟨s, rfl, h⟩, fun ⟨_, he, h⟩ => by cases he; exact h⟩
    | _ => exact ⟨fun h => (by cases h), fun ⟨_, he, _⟩ => (by cases he)⟩
  refine ⟨haccepts, fun s _ f f' hf hf' => ?_, fun x hx => ?_, fun hno => ?_⟩
  · exact Form.written_inj hf.1.toIsShaped hf'.1.toIsShaped (hf.2.trans hf'.2.symm)
  · obtain ⟨s, -, f, hf, rfl⟩ := (haccepts x).mp hx
    exact ⟨_, Text.isNumeral_toDigits hf.1.port.1, toList_text f.address⟩
  · cases hp : parse a with
    | ok x =>
      obtain ⟨s, hs, f, hf, -⟩ := (haccepts x).mp hp
      exact absurd hf (hno s hs f)
    | error e => exact ⟨e, rfl, parse_fails a e hp⟩

end Address

end ClusterLink
