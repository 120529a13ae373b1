import Mathlib.Data.List.TakeWhile
import Pageviews.Proofs.Fallible
import Pageviews.Proofs.Json.Grammar
import Pageviews.Proofs.Json.Strings

/-! The readers of blanks and strings. Main statements: they read what the grammar says, and stop
behind it. -/
namespace Pageviews.Json

variable {text rest chars blanks : List Char} {c : Char} {n : Nat}

theorem isBlank_iff : isBlank c = true ↔ c ∈ [' ', '\n', '\t', '\r'] := by
  simp [isBlank, or_assoc]

theorem skipBlanks_append (h : Blank blanks) (text : List Char) :
    skipBlanks (blanks ++ text) = skipBlanks text :=
  List.dropWhile_append_of_pos fun c hc => isBlank_iff.mpr (h c hc)

theorem skipBlanks_cons (h : isBlank c = false) (text : List Char) :
    skipBlanks (c :: text) = c :: text :=
  List.dropWhile_cons_of_neg (by simp [h])

theorem exists_blank (text : List Char) :
    ∃ blanks, Blank blanks ∧ text = blanks ++ skipBlanks text :=
  ⟨text.takeWhile isBlank, fun _ hc => isBlank_iff.mp (List.mem_takeWhile_imp hc),
    List.takeWhile_append_dropWhile.symm⟩

theorem skipBlanks_eq_nil_iff : skipBlanks text = [] ↔ Blank text := by
  simp only [skipBlanks, List.dropWhile_eq_nil_iff, Blank, isBlank_iff]

/-- What stands behind blanks. -/
theorem skipBlanks_eq_cons_iff (h : isBlank c = false) :
    skipBlanks text = c :: rest ↔ ∃ blanks, Blank blanks ∧ text = blanks ++ c :: rest := by
  constructor
  · intro hskip
    obtain ⟨blanks, hblank, htext⟩ := exists_blank text
    exact ⟨blanks, hblank, hskip ▸ htext⟩
  · rintro ⟨blanks, hblank, rfl⟩
    rw [skipBlanks_append hblank, skipBlanks_cons h]

/-- Characters in a row are the digits in a row that they are one by one. -/
theorem eq_digit_of_row {base size start value : Nat} (digit : Nat → Char)
    (hrow : ∀ k ∈ List.range size, Char.ofNat (base + k) = digit (start + k))
    (hlow : base ≤ c.toNat) (hhigh : c.toNat < base + size)
    (hvalue : value + base = c.toNat + start) : c = digit value := by
  have hplace : value = start + (c.toNat - base) := by omega
  rw [hplace, ← hrow _ (List.mem_range.mpr (by omega)), Nat.add_sub_cancel' hlow,
    Char.ofNat_toNat]

theorem hexValue?_eq_some_iff {value : Nat} :
    Text.hexValue? c = some value ↔ HexDigit c value := by
  constructor
  · intro h
    have hdigits : ∀ k ∈ List.range 10, Char.ofNat (48 + k) = (0 + k).digitChar := by decide
    have hlower : ∀ k ∈ List.range 6, Char.ofNat (97 + k) = (10 + k).digitChar := by decide
    have hupper : ∀ k ∈ List.range 6, Char.ofNat (65 + k) = (10 + k).digitChar.toUpper := by
      decide
    unfold Text.hexValue? at h
    split at h
    · next hrange =>
      have hlow : 48 ≤ c.toNat := hrange.1
      have hhigh : c.toNat ≤ 57 := hrange.2
      cases h
      exact ⟨by omega, .inl (eq_digit_of_row _ hdigits hlow (by omega) (by omega))⟩
    split at h
    · next hrange =>
      have hlow : 97 ≤ c.toNat := hrange.1
      have hhigh : c.toNat ≤ 102 := hrange.2
      cases h
      exact ⟨by omega, .inl (eq_digit_of_row _ hlower hlow (by omega) (by omega))⟩
    split at h
    · next hrange =>
      have hlow : 65 ≤ c.toNat := hrange.1
      have hhigh : c.toNat ≤ 70 := hrange.2
      cases h
      exact ⟨by omega, .inr (eq_digit_of_row (·.digitChar.toUpper) hupper hlow (by omega)
        (by omega))⟩
    · cases h
  · have hall : ∀ k ∈ List.range 16, Text.hexValue? k.digitChar = some k ∧
        Text.hexValue? k.digitChar.toUpper = some k := by decide
    rintro ⟨hlt, rfl | rfl⟩
    · exact (hall value (List.mem_range.mpr hlt)).1
    · exact (hall value (List.mem_range.mpr hlt)).2

theorem exists_of_hexEscape (h : hexEscape text = .ok (n, rest)) :
    ∃ digits, CodeUnit digits n ∧ text = digits ++ rest := by
  unfold hexEscape at h
  split at h
  · next a b c d tail =>
    split at h
    · next hnumber =>
      cases h
      simp only [Text.hexNumber?, List.foldlM_cons, List.foldlM_nil, Option.bind_eq_bind,
        Option.bind_eq_some_iff, Option.map_eq_some_iff, Option.pure_def, Option.some.injEq,
        hexValue?_eq_some_iff] at hnumber
      obtain ⟨_, ⟨i, ha, rfl⟩, _, ⟨j, hb, rfl⟩, _, ⟨k, hc, rfl⟩, _, ⟨l, hd, rfl⟩, rfl⟩ := hnumber
      refine ⟨[a, b, c, d], ?_, rfl⟩
      convert CodeUnit.mk ha hb hc hd using 1
      omega
    · cases h
  · cases h

theorem hexEscape_append {digits : List Char} (h : CodeUnit digits n) (rest : List Char) :
    hexEscape (digits ++ rest) = .ok (n, rest) := by
  cases h with
  | @mk a b c d i j k l ha hb hc hd =>
    rw [← hexValue?_eq_some_iff] at ha hb hc hd
    have hnumber : Text.hexNumber? [a, b, c, d] = some (((i * 16 + j) * 16 + k) * 16 + l) := by
      simp only [Text.hexNumber?, List.foldlM_cons, List.foldlM_nil, ha, hb, hc, hd,
        Option.bind_eq_bind, Option.map_some, Option.bind_some, Option.pure_def, Option.some.injEq]
      omega
    simp [hexEscape, hnumber]

theorem shortEscape?_eq_some_iff {letter : Char} :
    shortEscape? letter = some c ↔ (letter, c) ∈ shortEscapes := by
  constructor
  · intro h
    unfold shortEscape? at h
    split at h <;> cases h <;> decide
  · intro h
    simp only [shortEscapes, List.mem_cons, Prod.mk.injEq, List.not_mem_nil, or_false] at h
    rcases h with ⟨rfl, rfl⟩ | ⟨rfl, rfl⟩ | ⟨rfl, rfl⟩ | ⟨rfl, rfl⟩ | ⟨rfl, rfl⟩ | ⟨rfl, rfl⟩ |
      ⟨rfl, rfl⟩ | ⟨rfl, rfl⟩ <;> rfl

theorem isHighSurrogate_iff : isHighSurrogate n = true ↔ 0xD800 ≤ n ∧ n < 0xDC00 := by
  simp [isHighSurrogate]

theorem isLowSurrogate_iff : isLowSurrogate n = true ↔ 0xDC00 ≤ n ∧ n < 0xE000 := by
  simp [isLowSurrogate]

theorem exists_of_lowEscape {high : Nat} (h : lowEscape high text = .ok (c, rest)) :
    ∃ second low, CodeUnit second low ∧ (0xDC00 ≤ low ∧ low < 0xE000) ∧
      text = '\\' :: 'u' :: second ++ rest ∧
      c = Char.ofNat (0x10000 + (high - 0xD800) * 0x400 + (low - 0xDC00)) := by
  unfold lowEscape at h
  split at h
  · next tail =>
    obtain ⟨⟨low, after⟩, hunit, hread⟩ := bind_eq_ok_iff.mp h
    obtain ⟨second, hsecond, rfl⟩ := exists_of_hexEscape hunit
    dsimp only at hread
    split at hread
    · next hlow =>
      rw [isLowSurrogate_iff] at hlow
      rw [Except.ok.injEq, Prod.mk.injEq] at hread
      exact ⟨second, low, hsecond, hlow, by rw [← hread.2]; rfl, hread.1.symm⟩
    · cases hread
  all_goals cases h

theorem lowEscape_append (high : Nat) {second : List Char} {low : Nat}
    (hsecond : CodeUnit second low) (hlow : 0xDC00 ≤ low ∧ low < 0xE000) (rest : List Char) :
    lowEscape high ('\\' :: 'u' :: second ++ rest) =
      .ok (Char.ofNat (0x10000 + (high - 0xD800) * 0x400 + (low - 0xDC00)), rest) := by
  rw [← isLowSurrogate_iff] at hlow
  rw [List.cons_append, List.cons_append, lowEscape, hexEscape_append hsecond]
  simp only [bind, Except.bind, hlow, if_true]

/-- An escape that is read spells its character. -/
theorem exists_of_escape (h : escape text = .ok (c, rest)) :
    ∃ spelling, Spelling ('\\' :: spelling) c ∧ text = spelling ++ rest := by
  unfold escape at h
  split at h
  · cases h
  next letter tail =>
  split at h
  · next hshort =>
    cases h
    rw [shortEscape?_eq_some_iff] at hshort
    exact ⟨[letter], .short hshort, rfl⟩
  split at h
  · next hletter =>
    subst hletter
    obtain ⟨⟨n, after⟩, hunit, hread⟩ := bind_eq_ok_iff.mp h
    obtain ⟨digits, hdigits, rfl⟩ := exists_of_hexEscape hunit
    dsimp only at hread
    split at hread
    · next hhigh =>
      obtain ⟨second, low, hsecond, hlow, rfl, hc⟩ := exists_of_lowEscape hread
      rw [isHighSurrogate_iff] at hhigh
      refine ⟨'u' :: digits ++ '\\' :: 'u' :: second, ?_, by simp⟩
      rw [hc]
      exact .pair hdigits hsecond hhigh hlow
    · next hhigh =>
      split at hread
      · cases hread
      · next hlow =>
        cases hread
        rw [isHighSurrogate_iff] at hhigh
        rw [isLowSurrogate_iff] at hlow
        exact ⟨'u' :: digits, .unit hdigits (by omega), rfl⟩
  · cases h

theorem escape_append {spelling : List Char} (h : Spelling ('\\' :: spelling) c)
    (rest : List Char) : escape (spelling ++ rest) = .ok (c, rest) := by
  have hu : shortEscape? 'u' = none := rfl
  cases h with
  | plain _ hbackslash => exact absurd rfl hbackslash
  | short hmem =>
    rw [← shortEscape?_eq_some_iff] at hmem
    simp [escape, hmem]
  | @unit digits n hdigits hwhole =>
    have hhigh : isHighSurrogate n = false := by
      rw [← Bool.not_eq_true, isHighSurrogate_iff]
      omega
    have hlow : isLowSurrogate n = false := by
      rw [← Bool.not_eq_true, isLowSurrogate_iff]
      omega
    simp [escape, hu, hexEscape_append hdigits, hhigh, hlow, bind, Except.bind]
  | @pair first second high low hfirst hsecond hhigh hlow =>
    have hpair := lowEscape_append high hsecond hlow rest
    rw [← isHighSurrogate_iff] at hhigh
    rw [List.cons_append, List.cons_append] at hpair
    simp [escape, hu, hexEscape_append hfirst, hhigh, hpair, bind, Except.bind]

theorem exists_of_skipEscape (h : skipEscape text = .ok rest) :
    (∃ letter c, (letter, c) ∈ shortEscapes ∧ text = letter :: rest) ∨
      ∃ digits n, CodeUnit digits n ∧ text = 'u' :: digits ++ rest := by
  unfold skipEscape at h
  split at h
  · cases h
  · next tail =>
    obtain ⟨⟨n, after⟩, hunit, rfl⟩ := exists_of_map_eq_ok h
    obtain ⟨digits, hdigits, rfl⟩ := exists_of_hexEscape hunit
    exact .inr ⟨digits, n, hdigits, rfl⟩
  · next letter tail _ =>
    split at h
    · next hshort =>
      cases h
      obtain ⟨c, hc⟩ := Option.isSome_iff_exists.mp hshort
      rw [shortEscape?_eq_some_iff] at hc
      exact .inl ⟨letter, c, hc, rfl⟩
    · cases h

theorem skipEscape_short {letter : Char} (h : (letter, c) ∈ shortEscapes) (rest : List Char) :
    skipEscape (letter :: rest) = .ok rest := by
  rw [← shortEscape?_eq_some_iff] at h
  have hne : letter ≠ 'u' := by
    rintro rfl
    cases h
  rw [skipEscape.eq_3 _ _ hne, h]
  rfl

theorem skipEscape_unit {digits : List Char} (h : CodeUnit digits n) (rest : List Char) :
    skipEscape ('u' :: digits ++ rest) = .ok rest := by
  rw [List.cons_append, skipEscape, hexEscape_append h]
  rfl

theorem stringBody_spelling {spelling : List Char} (h : Spelling spelling c) (rest : List Char) :
    stringBody (spelling ++ rest) =
      (stringBody rest).map fun (chars, after) => (c :: chars, after) := by
  cases h with
  | plain hquote hbackslash hcontrol =>
    exact stringBody_plain hquote hbackslash (Nat.not_lt.mpr hcontrol) rest
  | short hmem => exact stringBody_escape (escape_append (.short hmem) rest)
  | unit hdigits hwhole => exact stringBody_escape (escape_append (.unit hdigits hwhole) rest)
  | pair hfirst hsecond hhigh hlow =>
    exact stringBody_escape (escape_append (.pair hfirst hsecond hhigh hlow) rest)

/-- A string that is read spells its characters up to a quote. -/
theorem exists_of_stringBody (h : stringBody text = .ok (chars, rest)) :
    ∃ body, Spells body chars ∧ text = body ++ '"' :: rest := by
  fun_induction stringBody text generalizing chars with
  | case1 => cases h
  | case2 after =>
    cases h
    exact ⟨[], .nil, rfl⟩
  | case3 => cases h
  | case4 tail c after hescape _ ih =>
    obtain ⟨spelling, hspelling, rfl⟩ := exists_of_escape hescape
    obtain ⟨⟨chars, after⟩, hbody, heq⟩ := exists_of_map_eq_ok h
    cases heq
    obtain ⟨body, hspells, rfl⟩ := ih hbody
    exact ⟨'\\' :: spelling ++ body, .cons hspelling hspells, by simp⟩
  | case5 => cases h
  | case6 c tail hquote hbackslash hcontrol ih =>
    obtain ⟨⟨chars, after⟩, hbody, heq⟩ := exists_of_map_eq_ok h
    cases heq
    obtain ⟨body, hspells, rfl⟩ := ih hbody
    exact ⟨[c] ++ body, .cons (.plain hquote hbackslash (Nat.le_of_not_lt hcontrol)) hspells, rfl⟩

theorem stringBody_append {body : List Char} (h : Spells body chars) (rest : List Char) :
    stringBody (body ++ '"' :: rest) = .ok (chars, rest) := by
  induction h with
  | nil => exact stringBody_quote rest
  | cons hspelling _ ih =>
    rw [List.append_assoc, stringBody_spelling hspelling, ih]
    rfl

theorem exists_of_readString (h : readString text = .ok (chars, rest)) :
    ∃ blanks inner, Blank blanks ∧ Says inner chars ∧ text = blanks ++ (inner ++ rest) := by
  unfold readString at h
  split at h
  · next tail hskip =>
    rw [skipBlanks_eq_cons_iff rfl] at hskip
    obtain ⟨blanks, hblank, rfl⟩ := hskip
    obtain ⟨body, hspells, rfl⟩ := exists_of_stringBody h
    exact ⟨blanks, _, hblank, .quoted hspells, by simp [quoted]⟩
  · cases h

theorem readString_append {inner : List Char} (hblank : Blank blanks) (h : Says inner chars)
    (rest : List Char) : readString (blanks ++ (inner ++ rest)) = .ok (chars, rest) := by
  cases h with
  | @quoted body _ hspells =>
    rw [quoted, List.append_assoc, List.singleton_append, List.cons_append, readString,
      skipBlanks_append hblank, skipBlanks_cons rfl]
    exact stringBody_append hspells rest

/-- The whole of a text is read if nothing but blanks is left. -/
theorem readAll_eq_ok_iff {α : Type} {reader : List Char → Except Fault (α × List Char)}
    {value : α} : readAll reader text = .ok value ↔
      ∃ rest, reader text = .ok (value, rest) ∧ Blank rest := by
  constructor
  · intro h
    obtain ⟨⟨value, rest⟩, hread, h⟩ := bind_eq_ok_iff.mp h
    dsimp only at h
    split at h
    · next hblank =>
      cases h
      exact ⟨rest, hread, skipBlanks_eq_nil_iff.mp hblank⟩
    · cases h
  · rintro ⟨rest, hread, hblank⟩
    exact bind_eq_ok_iff.mpr ⟨_, hread, if_pos (skipBlanks_eq_nil_iff.mpr hblank)⟩

theorem skipString_quote (rest : List Char) : skipString ('"' :: rest) = .ok rest := by
  rw [skipString, if_pos rfl]

theorem skipString_plain (hquote : c ≠ '"') (hbackslash : c ≠ '\\') (hcontrol : ¬ c.toNat < 0x20)
    (rest : List Char) : skipString (c :: rest) = skipString rest := by
  rw [skipString, if_neg hquote, if_neg hbackslash, if_neg hcontrol]

theorem skipString_escape {text rest : List Char} (h : skipEscape text = .ok rest) :
    skipString ('\\' :: text) = skipString rest := by
  rw [skipString, if_neg (by decide), if_pos rfl]
  split
  · next hfault =>
    rw [h] at hfault
    cases hfault
  · next hok =>
    rw [h] at hok
    cases hok
    rfl

theorem skipString_mark {mark : List Char} (h : Mark mark) (rest : List Char) :
    skipString (mark ++ rest) = skipString rest := by
  have hunit {digits : List Char} {n : Nat} (h : CodeUnit digits n) (rest : List Char) :
      skipString ('\\' :: 'u' :: digits ++ rest) = skipString rest :=
    skipString_escape (skipEscape_unit h rest)
  cases h with
  | unit hdigits => exact hunit hdigits rest
  | spelling h =>
    cases h with
    | plain hquote hbackslash hcontrol =>
      exact skipString_plain hquote hbackslash (Nat.not_lt.mpr hcontrol) rest
    | short hmem => exact skipString_escape (skipEscape_short hmem rest)
    | unit hdigits => exact hunit hdigits rest
    | pair hfirst hsecond =>
      rw [List.append_assoc, hunit hfirst, hunit hsecond]

/-- A string that is passed over goes up to a quote. -/
theorem exists_of_skipString (h : skipString text = .ok rest) :
    ∃ body, Marks body ∧ text = body ++ '"' :: rest := by
  fun_induction skipString text with
  | case1 => cases h
  | case2 after =>
    cases h
    exact ⟨[], .nil, rfl⟩
  | case3 => cases h
  | case4 tail after hescape _ ih =>
    obtain ⟨body, hmarks, rfl⟩ := ih h
    rcases exists_of_skipEscape hescape with ⟨letter, c, hmem, rfl⟩ | ⟨digits, n, hdigits, rfl⟩
    · exact ⟨['\\', letter] ++ body, .cons (.spelling (.short hmem)) hmarks, rfl⟩
    · exact ⟨'\\' :: 'u' :: digits ++ body, .cons (.unit hdigits) hmarks, by simp⟩
  | case5 => cases h
  | case6 c tail hquote hbackslash hcontrol ih =>
    obtain ⟨body, hmarks, rfl⟩ := ih h
    have hmark : Mark [c] := .spelling (.plain hquote hbackslash (Nat.le_of_not_lt hcontrol))
    exact ⟨[c] ++ body, .cons hmark hmarks, rfl⟩

theorem skipString_append {body : List Char} (h : Marks body) (rest : List Char) :
    skipString (body ++ '"' :: rest) = .ok rest := by
  induction h with
  | nil => exact skipString_quote rest
  | cons hmark _ ih => rw [List.append_assoc, skipString_mark hmark, ih]

theorem Spells.marks {body : List Char} (h : Spells body chars) : Marks body := by
  induction h with
  | nil => exact .nil
  | cons h _ ih => exact .cons (.spelling h) ih

end Pageviews.Json
