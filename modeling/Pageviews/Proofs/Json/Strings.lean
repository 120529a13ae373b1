import Pageviews.Json.ValueReader
import Pageviews.Json.Writer

/-! Strings in JSON text: what is written is read back, whatever characters it has. -/
namespace Pageviews.Json

theorem escape_of_shortEscape? {c d : Char} {rest : List Char} (h : shortEscape? c = some d) :
    escape (c :: rest) = .ok (d, rest) := by
  rw [escape, h]

/-- A control that has no short escape is written by its number. -/
theorem escape_control {c : Char} {rest : List Char} (h : c.toNat < 0x20) :
    escape ('u' :: '0' :: '0' :: Text.hexDigit (c.toNat / 16) :: Text.hexDigit (c.toNat % 16) ::
      rest) = .ok (c, rest) := by
  have hall : ∀ n ∈ List.range 0x20,
      Text.hexNumber? ['0', '0', Text.hexDigit (n / 16), Text.hexDigit (n % 16)] = some n := by
    decide
  have hnumber := hall _ (List.mem_range.mpr h)
  have hhigh : isHighSurrogate c.toNat = false := by
    rw [isHighSurrogate, Bool.and_eq_false_iff, decide_eq_false_iff_not]
    exact .inl (by omega)
  have hlow : isLowSurrogate c.toNat = false := by
    rw [isLowSurrogate, Bool.and_eq_false_iff, decide_eq_false_iff_not]
    exact .inl (by omega)
  have hshort : shortEscape? 'u' = none := rfl
  simp [escape, hshort, hexEscape, hnumber, hhigh, hlow, Char.ofNat_toNat, bind, Except.bind]

theorem stringBody_quote (rest : List Char) : stringBody ('"' :: rest) = .ok ([], rest) := by
  rw [stringBody, if_pos rfl]

theorem stringBody_plain {c : Char} (hquote : c ≠ '"') (hbackslash : c ≠ '\\')
    (hcontrol : ¬ c.toNat < 0x20) (rest : List Char) :
    stringBody (c :: rest) = (stringBody rest).map fun (body, after) => (c :: body, after) := by
  rw [stringBody, if_neg hquote, if_neg hbackslash, if_neg hcontrol]

theorem stringBody_escape {c : Char} {text rest : List Char} (h : escape text = .ok (c, rest)) :
    stringBody ('\\' :: text) = (stringBody rest).map fun (body, after) => (c :: body, after) := by
  rw [stringBody, if_neg (by decide), if_pos rfl]
  split
  · next fault hfault =>
    rw [h] at hfault
    cases hfault
  · next escaped after hok =>
    rw [h] at hok
    cases hok
    rfl

/-- A character is written as a short escape, as the number of a control, or as it is. -/
theorem writtenChar_cases (c : Char) :
    (∃ d, writtenChar c = ['\\', d] ∧ shortEscape? d = some c) ∨
    (writtenChar c =
      ['\\', 'u', '0', '0', Text.hexDigit (c.toNat / 16), Text.hexDigit (c.toNat % 16)] ∧
      c.toNat < 0x20) ∨
    (writtenChar c = [c] ∧ c ≠ '"' ∧ c ≠ '\\' ∧ ¬ c.toNat < 0x20) := by
  by_cases hshort : c ∈ ['"', '\\', '\x08', '\x0c', '\n', '\r', '\t']
  · left
    simp only [List.mem_cons, List.not_mem_nil, or_false] at hshort
    rcases hshort with rfl | rfl | rfl | rfl | rfl | rfl | rfl <;> exact ⟨_, rfl, rfl⟩
  · right
    simp only [List.mem_cons, List.not_mem_nil, or_false, not_or] at hshort
    obtain ⟨hquote, hbackslash, hb, hf, hn, hr, ht⟩ := hshort
    by_cases hcontrol : c.toNat < 0x20
    · exact .inl ⟨by simp [writtenChar, hquote, hbackslash, hb, hf, hn, hr, ht, hcontrol], hcontrol⟩
    · exact .inr ⟨by simp [writtenChar, hquote, hbackslash, hb, hf, hn, hr, ht, hcontrol],
        hquote, hbackslash, hcontrol⟩

theorem stringBody_writtenChar (c : Char) (rest : List Char) :
    stringBody (writtenChar c ++ rest) =
      (stringBody rest).map fun (body, after) => (c :: body, after) := by
  rcases writtenChar_cases c with ⟨d, hw, hd⟩ | ⟨hw, hc⟩ | ⟨hw, hquote, hbackslash, hcontrol⟩
  · rw [hw]
    exact stringBody_escape (escape_of_shortEscape? hd)
  · rw [hw]
    exact stringBody_escape (escape_control hc)
  · rw [hw]
    exact stringBody_plain hquote hbackslash hcontrol rest

theorem stringBody_flatMap (text rest : List Char) :
    stringBody (text.flatMap writtenChar ++ '"' :: rest) = .ok (text, rest) := by
  induction text with
  | nil => exact stringBody_quote rest
  | cons c text ih =>
    rw [List.flatMap_cons, List.append_assoc, stringBody_writtenChar, ih]
    rfl

/-- A string is read back, and the reader stops behind it. -/
theorem readString_writeString (text : String) (rest : List Char) :
    readString ((writeString text).toList ++ rest) = .ok (text.toList, rest) := by
  have htext : (writeString text).toList ++ rest =
      '"' :: (text.toList.flatMap writtenChar ++ '"' :: rest) := by
    simp [writeString]
  have hblanks (more : List Char) : skipBlanks ('"' :: more) = '"' :: more := rfl
  rw [htext, readString, hblanks]
  exact stringBody_flatMap text.toList rest

end Pageviews.Json
