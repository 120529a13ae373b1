import Pageviews.Unicode.Normalization

/-! ASCII text in composed normal form: it is its own, and within other text only characters that a
composite can begin with may vanish. -/
namespace Pageviews.Unicode

variable {c d base : Char} {text held : List Char}

theorem combiningClass_of_ascii (h : c.toNat < 0x80) : combiningClass c = 0 := by
  rw [combiningClass, if_pos (by omega)]

theorem composite?_of_ascii (h : d.toNat < 0x80) : composite? c d = none := by
  rw [composite?, if_neg]
  omega

theorem composite?_of_not_begins (h : beginsComposite c = false) : composite? c d = none := by
  rw [composite?, if_neg]
  simp [h]

theorem decomposeChar_of_ascii (depth : Nat) (h : c.toNat < 0x80) :
    decomposeChar depth c = [c] := by
  cases depth with
  | zero => rfl
  | succ depth =>
    have hnone : parts? c = none := by rw [parts?, if_pos h]
    rw [decomposeChar, hnone]

theorem decompose_of_ascii (h : ∀ c ∈ text, c.toNat < 0x80) : decompose text = text := by
  induction text with
  | nil => rfl
  | cons c text ih =>
    obtain ⟨hc, htext⟩ := List.forall_mem_cons.mp h
    have hrest : text.flatMap (decomposeChar 3) = text := ih htext
    rw [decompose, List.flatMap_cons, decomposeChar_of_ascii 3 hc, hrest]
    rfl

theorem mem_decompose (hc : c.toNat < 0x80) (h : c ∈ text) : c ∈ decompose text := by
  refine List.mem_flatMap.mpr ⟨c, h, ?_⟩
  rw [decomposeChar_of_ascii 3 hc]
  exact List.mem_singleton_self c

theorem insertMark_of_ascii (h : ∀ d ∈ text, d.toNat < 0x80) :
    insertMark c text = c :: text := by
  cases text with
  | nil => rfl
  | cons d text =>
    have hd := combiningClass_of_ascii (h d List.mem_cons_self)
    rw [insertMark, if_neg]
    simp [hd]

theorem orderMarks_of_ascii (h : ∀ c ∈ text, c.toNat < 0x80) : orderMarks text = text := by
  induction text with
  | nil => rfl
  | cons c text ih =>
    obtain ⟨-, htext⟩ := List.forall_mem_cons.mp h
    have hrest : text.foldr insertMark [] = text := ih htext
    rw [orderMarks, List.foldr_cons, hrest, insertMark_of_ascii htext]

theorem mem_insertMark : d ∈ insertMark c text ↔ d = c ∨ d ∈ text := by
  induction text with
  | nil => simp [insertMark]
  | cons e text ih =>
    rw [insertMark]
    split
    · rw [List.mem_cons, ih, List.mem_cons, or_left_comm]
    · rw [List.mem_cons]

theorem mem_orderMarks : d ∈ orderMarks text ↔ d ∈ text := by
  induction text with
  | nil => rfl
  | cons c text ih =>
    have hrest : d ∈ text.foldr insertMark [] ↔ d ∈ text := ih
    rw [orderMarks, List.foldr_cons, mem_insertMark, hrest, List.mem_cons]

theorem composeAfter_of_ascii (h : ∀ c ∈ text, c.toNat < 0x80) :
    composeAfter base [] text = base :: text := by
  induction text generalizing base with
  | nil => rfl
  | cons c text ih =>
    obtain ⟨hc, htext⟩ := List.forall_mem_cons.mp h
    simp [composeAfter, composite?_of_ascii hc, combiningClass_of_ascii hc, ih htext]

/-- A character that no composite takes in is there afterwards, wherever it was. -/
theorem mem_composeAfter (hc : c.toNat < 0x80) (hb : beginsComposite c = false)
    (h : c = base ∨ c ∈ held ∨ c ∈ text) : c ∈ composeAfter base held text := by
  induction text generalizing base held with
  | nil =>
    rw [composeAfter, List.mem_cons, List.mem_reverse]
    simpa using h
  | cons d text ih =>
    rw [composeAfter]
    split
    · next composite hcomposite =>
      apply ih
      rcases h with rfl | hheld | htext
      · simp [composite?_of_not_begins hb] at hcomposite
      · exact .inr (.inl hheld)
      · rcases List.mem_cons.mp htext with rfl | htext
        · simp [composite?_of_ascii hc] at hcomposite
        · exact .inr (.inr htext)
    · split
      · rcases h with rfl | hheld | htext
        · simp
        · simp [hheld]
        · have hrest : c ∈ composeAfter d [] text := by
            rcases List.mem_cons.mp htext with rfl | htext
            · exact ih (.inl rfl)
            · exact ih (.inr (.inr htext))
          simp [hrest]
      · apply ih
        rcases h with rfl | hheld | htext
        · exact .inl rfl
        · exact .inr (.inl (List.mem_cons_of_mem d hheld))
        · rcases List.mem_cons.mp htext with rfl | htext
          · exact .inr (.inl List.mem_cons_self)
          · exact .inr (.inr htext)

theorem mem_compose (hc : c.toNat < 0x80) (hb : beginsComposite c = false) (h : c ∈ text) :
    c ∈ compose text := by
  induction text with
  | nil => cases h
  | cons d text ih =>
    rw [compose]
    split
    · apply mem_composeAfter hc hb
      rcases List.mem_cons.mp h with rfl | htext
      · exact .inl rfl
      · exact .inr (.inr htext)
    · rcases List.mem_cons.mp h with rfl | htext
      · exact List.mem_cons_self
      · exact List.mem_cons_of_mem d (ih htext)

/-- ASCII text is in normal form. -/
theorem normalize_of_ascii (h : ∀ c ∈ text, c.toNat < 0x80) : normalize text = text := by
  rw [normalize, decompose_of_ascii h, orderMarks_of_ascii h]
  cases text with
  | nil => rfl
  | cons c text =>
    obtain ⟨hc, htext⟩ := List.forall_mem_cons.mp h
    rw [compose, if_pos (combiningClass_of_ascii hc), composeAfter_of_ascii htext]

/-- An ASCII character that no composite begins with stays in the normal form. -/
theorem mem_normalize (hc : c.toNat < 0x80) (hb : beginsComposite c = false) (h : c ∈ text) :
    c ∈ normalize text :=
  mem_compose hc hb (mem_orderMarks.mpr (mem_decompose hc h))

end Pageviews.Unicode
