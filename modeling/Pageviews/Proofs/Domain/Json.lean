import Pageviews.Proofs.Domain.Canonical
import Pageviews.Proofs.Json.Spelling

/-! Domains as JSON texts. Main statement: a text is read as a domain if it is a string that spells
one, and what is written of a domain is its name in quotes. -/
namespace Pageviews.Domain

variable {raw text : String} {d : Domain} {c : Char}

/-- A string needs no escape for the characters of names. -/
theorem writtenChar_of_isHostChar (h : isHostChar c = true ∨ c = '.') :
    Json.writtenChar c = [c] := by
  have hescaped : Json.shortEscapes.all (fun e => !isHostChar e.2 && e.2 ≠ '.') = true := by decide
  rcases Json.writtenChar_cases c with ⟨letter, -, hshort⟩ | ⟨-, hcontrol⟩ | ⟨hplain, -⟩
  · have hmem := List.all_eq_true.mp hescaped _ (Json.shortEscape?_eq_some_iff.mp hshort)
    have hnot : isHostChar c = false ∧ c ≠ '.' := by simpa using hmem
    rcases h with hhost | hdot
    · rw [hnot.1] at hhost
      cases hhost
    · exact absurd hdot hnot.2
  · have hhigh : 0x2D ≤ c.toNat := by
      rcases h with hhost | rfl
      · have := isHostChar_iff.mp hhost
        omega
      · decide
    omega
  · exact hplain

/-- What is written of a domain is its name in quotes. -/
theorem toList_toJson (h : Domain.parse raw = .ok d) :
    d.toJson.toList = Json.quoted d.name.toList := by
  have hplain : d.name.toList.flatMap Json.writtenChar = d.name.toList.flatMap ([·]) := by
    rw [List.flatMap_def, List.flatMap_def]
    congr 1
    apply List.map_congr_left
    exact fun c hc => writtenChar_of_isHostChar (isHostChar_of_mem_name h hc)
  rw [List.flatMap_singleton'] at hplain
  rw [toJson, Json.writeString, String.toList_ofList, hplain, Json.quoted]

/-- A text is read as a domain if it is a string, with blanks around it or not, that spells one. -/
theorem ofJson_eq_ok_iff : ofJson text = .ok d ↔
    ∃ s : Json.Slot, s.text = text.toList ∧ ∃ spelled, Json.Says s.inner spelled ∧
      Domain.parse (String.ofList spelled) = .ok d := by
  rw [ofJson, Json.readAll_eq_ok_iff]
  constructor
  · rintro ⟨right, hread, hright⟩
    obtain ⟨⟨spelled, rest⟩, hstring, hparse⟩ := bind_eq_ok_iff.mp hread
    obtain ⟨left, inner, hleft, hspelled, htext⟩ := Json.exists_of_readString hstring
    dsimp only at hparse
    split at hparse
    · next hdomain =>
      cases hparse
      exact ⟨⟨left, inner, right, hleft, hright⟩, htext.symm, spelled, hspelled, hdomain⟩
    · cases hparse
  · rintro ⟨s, htext, spelled, hspelled, hdomain⟩
    have hstring := Json.readString_append s.left_blank hspelled s.right
    rw [← Json.Slot.text, htext] at hstring
    refine ⟨s.right, bind_eq_ok_iff.mpr ⟨_, hstring, ?_⟩, s.right_blank⟩
    simp only [hdomain]

/-- A text is read as a domain if it is a string that spells one, so that no other domains are read
than those that texts name; and what is written of a domain is read back. It is the name in quotes,
without an escape. -/
theorem json_validates :
    (∀ (text : String) (d : Domain), ofJson text = .ok d ↔
      ∃ s : Json.Slot, s.text = text.toList ∧ ∃ spelled, Json.Says s.inner spelled ∧
        Domain.parse (String.ofList spelled) = .ok d) ∧
    (∀ (text : String) (d : Domain), ofJson text = .ok d → ∃ raw, Domain.parse raw = .ok d) ∧
    ∀ (raw : String) (d : Domain), Domain.parse raw = .ok d →
      ofJson d.toJson = .ok d ∧ d.toJson.toList = Json.quoted d.name.toList ∧
        '\\' ∉ d.toJson.toList := by
  refine ⟨fun text d => ofJson_eq_ok_iff, ?_, ?_⟩
  · intro text d h
    obtain ⟨s, -, spelled, -, hparse⟩ := ofJson_eq_ok_iff.mp h
    exact ⟨_, hparse⟩
  · intro raw d h
    have hself : Domain.parse d.name = .ok d :=
      parse_eq_ok_iff.mpr (toAscii_self (parse_eq_ok_iff.mp h))
    refine ⟨ofJson_toJson hself, toList_toJson h, ?_⟩
    rw [toList_toJson h, Json.quoted]
    intro hmem
    rcases List.mem_append.mp hmem with hmem | hmem
    · rcases List.mem_cons.mp hmem with heq | hmem
      · cases heq
      · exact absurd (isHostChar_of_mem_name h hmem) (by decide)
    · cases List.mem_singleton.mp hmem

/-- A capital letter and an escaped full stop, between blanks. -/
theorem json_validates_escaped :
    Json.Says "\"A\\u002ecom\"".toList "A.com".toList ∧ Domain.parse "A.com" = .ok ⟨"a.com"⟩ ∧
    ofJson "\n\"A\\u002ecom\" " = .ok ⟨"a.com"⟩ ∧ ofJson (toJson ⟨"a.com"⟩) = .ok ⟨"a.com"⟩ := by
  have hparse : Domain.parse "A.com" = .ok ⟨"a.com"⟩ := rfl
  have hunit : Json.CodeUnit "002e".toList 0x2E :=
    .mk (i := 0) (j := 0) (k := 2) (l := 14) ⟨by decide, .inl rfl⟩ ⟨by decide, .inl rfl⟩
      ⟨by decide, .inl rfl⟩ ⟨by decide, .inl rfl⟩
  have hplain (c : Char) (h : c ∈ "Acom".toList) : Json.Spelling [c] c := by
    have hall : "Acom".toList.all (fun c => c ≠ '"' && c ≠ '\\' && decide (0x20 ≤ c.toNat)) =
        true := by decide
    have hc := List.all_eq_true.mp hall c h
    simp only [Bool.and_eq_true, decide_eq_true_eq] at hc
    exact .plain hc.1.1 hc.1.2 hc.2
  have hspelled : Json.Says "\"A\\u002ecom\"".toList "A.com".toList :=
    .quoted (.cons (hplain 'A' (by decide)) (.cons (.unit hunit (by decide))
      (.cons (hplain 'c' (by decide)) (.cons (hplain 'o' (by decide))
        (.cons (hplain 'm' (by decide)) .nil)))))
  have hread : ofJson "\n\"A\\u002ecom\" " = .ok ⟨"a.com"⟩ :=
    (json_validates.1 _ _).mpr ⟨⟨['\n'], _, [' '], by simp [Json.Blank], by simp [Json.Blank]⟩, rfl,
      _, hspelled, hparse⟩
  exact ⟨hspelled, hparse, hread, (json_validates.2.2 _ _ hparse).1⟩

end Pageviews.Domain
