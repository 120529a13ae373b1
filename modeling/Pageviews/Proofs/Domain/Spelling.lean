import Pageviews.Proofs.Domain.Canonical

/-! The spellings of registered names, which are hosts of URLs as well. -/
namespace Pageviews.Domain

open Unicode

variable {spelling name label : List Char} {c : Char}

theorem mem_of_decodeLabel {decoded : List Char} (h : decodeLabel label = some decoded)
    (hc : c ∈ label) : isHostChar c = true ∨ c ∈ decoded := by
  unfold decodeLabel at h
  split at h
  · next hmark =>
    obtain ⟨rest, rfl⟩ := List.isPrefixOf_iff_prefix.mp hmark
    split at h
    · split at h
      · next text hdecode =>
        split at h
        · cases h
        · cases h
          rcases List.mem_append.mp hc with hc | hc
          · exact .inl (isHostChar_of_mem_encodedMark hc)
          · rcases Punycode.mem_of_decode hdecode hc with rfl | hdigit | hmem
            · exact .inl (by decide)
            · exact .inl (isHostChar_of_digitValue? hdigit)
            · exact .inr hmem
      · cases h
    · cases h
  · cases h
    exact .inr hc

/-- An ASCII character that neither mapping nor composition changes is in the text of a spelling. -/
theorem mem_of_mapText {text : List Char} (h : mapText spelling = some text) (hc : c ∈ spelling)
    (hascii : c.toNat < 0x80) (hb : beginsComposite c = false) : c ∈ text := by
  obtain ⟨images, himages, rfl⟩ := Option.map_eq_some_iff.mp h
  have halpha : c.isAlpha = (c.isUpper || c.isLower) := rfl
  have hupper : c.isUpper = false := by
    simp only [beginsComposite, halpha, Bool.or_eq_false_iff] at hb
    exact hb.1.1.1.2.1
  have hself : mapChar c = some [c] := by
    rw [mapChar, status, if_pos hascii, if_neg (by simp [hupper])]
  apply mem_normalize hascii hb
  obtain ⟨image, hmem, himage⟩ := exists_image_of_mapM himages hc
  rw [hself, Option.some.injEq] at himage
  subst himage
  exact List.mem_flatten.mpr ⟨[c], hmem, List.mem_singleton_self c⟩

/-- A spelling has no other ASCII characters than letters, digits, hyphens and full stops, and those
that a mark can make a character beyond ASCII of. -/
theorem isHostChar_of_mem_spelling (h : toAscii .registered spelling = some name)
    (hc : c ∈ spelling) (hascii : c.toNat < 0x80) (hb : beginsComposite c = false) :
    isHostChar c = true ∨ c = '.' := by
  obtain ⟨decoded, encodedLabels, hlabels, -, -, -⟩ := toAscii_eq_some_iff.mp h
  obtain ⟨text, htext, hdecode, hok⟩ := labels_eq_some_iff.mp hlabels
  obtain ⟨hall, -⟩ := (Bool.and_eq_true _ _).mp hok
  have hmem := mem_of_mapText htext hc hascii hb
  by_cases hdot : c = '.'
  · exact .inr hdot
  left
  obtain ⟨part, hpart, hcpart⟩ := Text.exists_mem_split hdot hmem
  obtain ⟨label, hlabel, hdecodes⟩ := exists_image_of_mapM hdecode hpart
  rcases mem_of_decodeLabel hdecodes hcpart with hhost | hcl
  · exact hhost
  · exact isHostChar_of_mem (List.all_eq_true.mp hall label hlabel) hcl hascii

theorem charOk_urlHost (h : charOk .registered c = true) : charOk .urlHost c = true := by
  unfold charOk at h ⊢
  split at h
  · next hascii =>
    simp only [Rules.registered, Bool.and_eq_true, decide_eq_true_eq] at h
    obtain ⟨hhost, hdot⟩ := h
    have hrange := isHostChar_iff.mp hhost
    have hlist : "%#/:<>?@[\\]^|".toList.all (!isHostChar ·) = true := by decide
    have hallowed : isForbiddenInHost c = false := by
      unfold isForbiddenInHost
      simp only [Bool.or_eq_false_iff, decide_eq_false_iff_not]
      refine ⟨⟨by omega, by omega⟩, ?_⟩
      by_contra hmem
      rw [Bool.not_eq_false, List.contains_iff_mem] at hmem
      have hnot := List.all_eq_true.mp hlist c hmem
      simp [hhost] at hnot
    have hupper : c.isUpper = false := by
      rw [Bool.eq_false_iff, ne_eq, isUpper_iff]
      omega
    simp [Rules.urlHost, hascii, hallowed, hupper, hdot]
  · next hascii =>
    rw [if_neg hascii]
    exact h

theorem labelOk_urlHost (h : labelOk .registered label = true) : labelOk .urlHost label = true := by
  simp only [labelOk, Rules.registered, Rules.urlHost, if_true, Bool.and_eq_true] at h ⊢
  obtain ⟨⟨⟨⟨hnormal, hhyphens⟩, hmark⟩, hchars⟩, hjoiners⟩ := h
  have hcharsOk : label.all (charOk .urlHost) = true := by
    rw [List.all_eq_true] at hchars ⊢
    exact fun c hc => charOk_urlHost (hchars c hc)
  refine ⟨⟨⟨⟨hnormal, ?_⟩, hmark⟩, hcharsOk⟩, hjoiners⟩
  simp [isPrefixOf_encodedMark hhyphens]

/-- What is a name under the rules for registered names is the same name in the host of a URL. -/
theorem toAscii_urlHost (h : toAscii .registered spelling = some name) :
    toAscii .urlHost spelling = some name := by
  obtain ⟨decoded, encodedLabels, hlabels, hencode, -, hname⟩ := toAscii_eq_some_iff.mp h
  obtain ⟨text, htext, hdecode, hok⟩ := labels_eq_some_iff.mp hlabels
  obtain ⟨hall, hdirections⟩ := (Bool.and_eq_true _ _).mp hok
  refine toAscii_eq_some_iff.mpr ⟨decoded, encodedLabels, ?_, hencode, nofun, hname⟩
  refine labels_eq_some_iff.mpr ⟨text, htext, hdecode, ?_⟩
  rw [hdirections, Bool.and_true, List.all_eq_true]
  exact fun label hlabel => labelOk_urlHost (List.all_eq_true.mp hall label hlabel)

end Pageviews.Domain
