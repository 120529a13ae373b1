import Pageviews.Proofs.Domain.Canonical

/-! The shape of canonical names. Main statement: whatever text names a domain, its name is a dotted
sequence of labels of small letters, digits and hyphens, within the lengths that a query allows. -/
namespace Pageviews.Domain

variable {spelling name label encoded text : List Char} {c : Char}

/-- A label of a name. Hyphens at both the third and the fourth place mark the encoded form. -/
structure IsNameLabel (label : List Char) : Prop where
  length : 1 ≤ label.length ∧ label.length ≤ 63
  chars : ∀ c ∈ label, c.isLower = true ∨ c.isDigit = true ∨ c = '-'
  ends : label.head? ≠ some '-' ∧ label.getLast? ≠ some '-'
  marked : label[2]? = some '-' → label[3]? = some '-' → "xn--".toList <+: label

structure IsName (name : List Char) : Prop where
  length : 1 ≤ name.length ∧ name.length ≤ 253
  labels : ∀ label ∈ Text.split '.' name, IsNameLabel label

/-- The last character of an encoded text beyond ASCII is a digit of its last number. -/
theorem getLast?_encode (h : isAscii text = false) (rest : List Char) :
    ∃ c, (rest ++ Punycode.encode text).getLast? = some c ∧ (Punycode.digitValue? c).isSome := by
  have hbeyond : ∃ c ∈ text, 0x80 ≤ c.toNat := by
    rw [Bool.eq_false_iff, ne_eq, isAscii_iff] at h
    simpa using h
  have hne := Punycode.numbers_ne_nil hbeyond
  refine ⟨(Punycode.numbers text).getLast hne, ?_, ?_⟩
  · rw [Punycode.encode_eq, ← List.append_assoc, List.getLast?_append_of_ne_nil _ hne,
      List.getLast?_eq_some_getLast hne]
  · exact Punycode.isSome_digitValue?_of_mem_numbers _ (List.getLast_mem hne)

theorem ends_of_encoded (h : isAscii label = false) :
    (encodedMark ++ Punycode.encode label).head? ≠ some '-' ∧
      (encodedMark ++ Punycode.encode label).getLast? ≠ some '-' := by
  constructor
  · rw [encodedMark, List.cons_append, List.head?_cons]
    decide
  · obtain ⟨c, hlast, hdigit⟩ := getLast?_encode h encodedMark
    rw [hlast]
    rintro ⟨⟩
    exact absurd hdigit (by decide)

theorem hyphensOk_of_labelOk (h : labelOk .registered label = true) : hyphensOk label = true := by
  simp only [labelOk, Rules.registered, if_true, Bool.and_eq_true] at h
  exact h.1.1.1.2

/-- The ASCII form of a label has the shape of one, if it is not too long. -/
theorem isNameLabel_of_encodeLabel (h : labelOk .registered label = true)
    (he : encodeLabel label = some encoded) (hlength : 1 ≤ encoded.length ∧ encoded.length ≤ 63) :
    IsNameLabel encoded := by
  have hchars : ∀ c ∈ encoded, c.isLower = true ∨ c.isDigit = true ∨ c = '-' := by
    intro c hc
    have hhost := isHostChar_of_mem_encodeLabel h he hc
    simpa [isHostChar, or_assoc] using hhost
  unfold encodeLabel at he
  split at he
  · cases he
    -- a label that needs no encoding has been checked for its hyphens
    have hhyphens := hyphensOk_of_labelOk h
    simp only [hyphensOk, Bool.and_eq_true, decide_eq_true_eq, Bool.not_eq_true',
      Bool.and_eq_false_iff, decide_eq_false_iff_not] at hhyphens
    obtain ⟨hends, hinner⟩ := hhyphens
    refine ⟨hlength, hchars, hends, fun hthird hfourth => ?_⟩
    rcases hinner with hne | hne
    · exact absurd hthird hne
    · exact absurd hfourth hne
  · next hascii =>
    split at he
    · cases he
      exact ⟨hlength, hchars, ends_of_encoded (by simpa using hascii),
        fun _ _ => List.prefix_append _ _⟩
    · cases he

theorem length_le_of_lengthsOk {labels : List (List Char)} (h : lengthsOk labels = true) :
    (joinWith '.' labels).length ≤ 253 := by
  rw [lengthsOk, Bool.and_eq_true, decide_eq_true_eq] at h
  exact h.2

theorem isName_of_toAscii (h : toAscii .registered spelling = some name) : IsName name := by
  obtain ⟨decoded, encodedLabels, hlabels, hencode, hlengths, rfl⟩ := toAscii_eq_some_iff.mp h
  obtain ⟨text, -, -, hok⟩ := labels_eq_some_iff.mp hlabels
  obtain ⟨hall, -⟩ := (Bool.and_eq_true _ _).mp hok
  have hshape : ∀ label ∈ Text.split '.' (joinWith '.' encodedLabels), IsNameLabel label := by
    rw [split_joinWith hlabels hencode]
    intro encoded hmem
    obtain ⟨label, hlabel, he⟩ :=
      exists_preimage_of_mapM hencode hmem
    exact isNameLabel_of_encodeLabel (List.all_eq_true.mp hall label hlabel) he
      (length_of_lengthsOk (hlengths rfl) encoded hmem)
  refine ⟨⟨?_, length_le_of_lengthsOk (hlengths rfl)⟩, hshape⟩
  -- the empty name would be an empty label
  by_contra hempty
  have hnil : joinWith '.' encodedLabels = [] := List.length_eq_zero_iff.mp (by omega)
  rw [hnil] at hshape
  have := (hshape [] List.mem_cons_self).length.1
  rw [List.length_nil] at this
  omega

/-- The name of every domain has the shape of one. -/
theorem name_shape {raw : String} {d : Domain} (h : Domain.parse raw = .ok d) :
    IsName d.name.toList :=
  isName_of_toAscii (parse_eq_ok_iff.mp h)

/-- Hyphens next to each other are no mark of the encoded form where they come too early. -/
theorem name_shape_hyphens :
    Domain.parse "A--b.COM" = .ok ⟨"a--b.com"⟩ ∧ IsName "a--b.com".toList := by
  have h : Domain.parse "A--b.COM" = .ok ⟨"a--b.com"⟩ := rfl
  exact ⟨h, name_shape h⟩

end Pageviews.Domain
