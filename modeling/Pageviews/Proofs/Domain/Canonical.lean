import Pageviews.Domain.Json
import Pageviews.Proofs.Domain.Punycode
import Pageviews.Proofs.Fallible
import Pageviews.Proofs.Json.Strings
import Pageviews.Proofs.Unicode.Normalization

/-! Canonical names: the name of a domain is a spelling of itself. -/
namespace Pageviews.Domain

open Unicode

variable {rules : Rules} {spelling name label encoded text : List Char}
  {decoded encodedLabels : List (List Char)} {c : Char}

theorem isHostChar_iff : isHostChar c = true ↔
    (0x61 ≤ c.toNat ∧ c.toNat ≤ 0x7A) ∨ (0x30 ≤ c.toNat ∧ c.toNat ≤ 0x39) ∨ c.toNat = 0x2D := by
  have hlower : c.isLower = (decide ('a'.val ≤ c.val) && decide (c.val ≤ 'z'.val)) := rfl
  have hhyphen : c = '-' ↔ c.toNat = 0x2D := Char.toNat_inj.symm
  simp [isHostChar, hlower, Char.isDigit, UInt32.le_iff_toNat_le, hhyphen, or_assoc]

theorem isUpper_iff : c.isUpper = true ↔ 0x41 ≤ c.toNat ∧ c.toNat ≤ 0x5A := by
  have hupper : c.isUpper = decide ('A'.val ≤ c.val ∧ c.val ≤ 'Z'.val) := rfl
  simp [hupper, UInt32.le_iff_toNat_le]

theorem toNat_lt_of_isHostChar (h : isHostChar c = true) : c.toNat < 0x80 := by
  have := isHostChar_iff.mp h
  omega

theorem isHostChar_of_digitValue? (h : (Punycode.digitValue? c).isSome) : isHostChar c = true := by
  rw [isHostChar_iff]
  unfold Punycode.digitValue? at h
  simp only [Char.le_def, UInt32.le_iff_toNat_le] at h
  split at h
  · next hc => exact .inl hc
  · split at h
    · next hc => exact .inr (.inl hc)
    · cases h

/-- A small letter, a digit, a hyphen or a full stop stands for itself. -/
theorem mapChar_of_isHostChar (h : isHostChar c = true ∨ c = '.') : mapChar c = some [c] := by
  have hc : c.toNat < 0x80 ∧ c.isUpper = false := by
    rcases h with h | rfl
    · have hrange := isHostChar_iff.mp h
      rw [Bool.eq_false_iff, ne_eq, isUpper_iff]
      omega
    · decide
  rw [mapChar, status, if_pos hc.1, if_neg (by simp [hc.2])]

theorem mapText_of_isHostChar (h : ∀ c ∈ text, isHostChar c = true ∨ c = '.') :
    mapText text = some text := by
  have hmap : text.mapM mapChar = some (text.map ([·])) := by
    rw [mapM_eq_some_iff, List.forall₂_map_right_iff, List.forall₂_same]
    exact fun c hc => mapChar_of_isHostChar (h c hc)
  have hascii : ∀ c ∈ text, c.toNat < 0x80 := by
    intro c hc
    rcases h c hc with hhost | rfl
    · exact toNat_lt_of_isHostChar hhost
    · decide
  have hflatten : (text.map ([·])).flatten = text := by
    rw [← List.flatMap_def, List.flatMap_singleton']
  rw [mapText, hmap, Option.map_some, hflatten, normalize_of_ascii hascii]

theorem isHostChar_of_mem_encodedMark (h : c ∈ encodedMark) : isHostChar c = true := by
  have hall : encodedMark.all isHostChar = true := by decide
  exact List.all_eq_true.mp hall c h

theorem isAscii_iff : isAscii text = true ↔ ∀ c ∈ text, c.toNat < 0x80 := by
  simp [isAscii]

theorem isHostChar_of_mem (h : labelOk .registered label = true) (hc : c ∈ label)
    (hascii : c.toNat < 0x80) : isHostChar c = true := by
  simp only [labelOk, Bool.and_eq_true, List.all_eq_true] at h
  have hok := h.1.2 c hc
  rw [charOk, if_pos hascii, Bool.and_eq_true] at hok
  exact hok.1

/-- The hyphens of an encoded label stand where a decoded one has none. -/
theorem isPrefixOf_encodedMark (h : hyphensOk label = true) :
    encodedMark.isPrefixOf label = false := by
  rw [Bool.eq_false_iff]
  intro hmark
  obtain ⟨rest, rfl⟩ := List.isPrefixOf_iff_prefix.mp hmark
  simp [hyphensOk, encodedMark] at h

theorem isHostChar_of_mem_encode (h : ∀ c ∈ text, c.toNat < 0x80 → isHostChar c = true)
    (hc : c ∈ Punycode.encode text) : isHostChar c = true := by
  rw [Punycode.encode_eq] at hc
  rcases List.mem_append.mp hc with hlead | hnumber
  · split at hlead
    · cases hlead
    · rcases List.mem_append.mp hlead with hbasic | hhyphen
      · obtain ⟨hmem, hascii⟩ := List.mem_filter.mp hbasic
        exact h c hmem (by simpa using hascii)
      · rw [List.mem_singleton] at hhyphen
        rw [hhyphen]
        decide
  · exact isHostChar_of_digitValue? (Punycode.isSome_digitValue?_of_mem_numbers c hnumber)

theorem isHostChar_of_mem_encodeLabel (h : labelOk .registered label = true)
    (he : encodeLabel label = some encoded) (hc : c ∈ encoded) : isHostChar c = true := by
  unfold encodeLabel at he
  split at he
  · next hascii =>
    cases he
    exact isHostChar_of_mem h hc (isAscii_iff.mp hascii c hc)
  · split at he
    · cases he
      rcases List.mem_append.mp hc with hmark | hbody
      · exact isHostChar_of_mem_encodedMark hmark
      · exact isHostChar_of_mem_encode (fun c hc hascii => isHostChar_of_mem h hc hascii) hbody
    · cases he

/-- The ASCII form of a label is decoded to the label. -/
theorem decodeLabel_encodeLabel (h : labelOk .registered label = true)
    (he : encodeLabel label = some encoded) (hlength : encoded.length ≤ 63) :
    decodeLabel encoded = some label := by
  have hascii : isAscii encoded = true :=
    isAscii_iff.mpr fun c hc => toNat_lt_of_isHostChar (isHostChar_of_mem_encodeLabel h he hc)
  unfold encodeLabel at he
  split at he
  · cases he
    simp only [labelOk, Rules.registered, if_true, Bool.and_eq_true] at h
    have hmark := isPrefixOf_encodedMark h.1.1.1.2
    rw [decodeLabel, if_neg (by simp [hmark])]
  · next hbeyond =>
    split at he
    · cases he
      have hmark : encodedMark.isPrefixOf (encodedMark ++ Punycode.encode label) = true :=
        List.isPrefixOf_iff_prefix.mpr (List.prefix_append _ _)
      have hdrop : (encodedMark ++ Punycode.encode label).drop 4 = Punycode.encode label := rfl
      rw [decodeLabel, if_pos hmark, if_pos ⟨hascii, by omega⟩, hdrop, Punycode.decode_encode]
      exact if_neg hbeyond
    · cases he

theorem labels_eq_some_iff : labels rules spelling = some decoded ↔
    ∃ text, mapText spelling = some text ∧ (Text.split '.' text).mapM decodeLabel = some decoded ∧
      (decoded.all (labelOk rules) && directionsOk decoded) = true := by
  constructor
  · intro h
    unfold labels at h
    obtain ⟨text, htext, h⟩ := Option.bind_eq_some_iff.mp h
    obtain ⟨list, hlist, h⟩ := Option.bind_eq_some_iff.mp h
    split at h
    · next hok =>
      cases h
      exact ⟨text, htext, hlist, hok⟩
    · cases h
  · rintro ⟨text, htext, hlist, hok⟩
    simp only [labels, htext, hlist, Option.bind_eq_bind, Option.bind_some, if_pos hok]

theorem toAscii_eq_some_iff : toAscii rules spelling = some name ↔
    ∃ decoded encodedLabels, labels rules spelling = some decoded ∧
      decoded.mapM encodeLabel = some encodedLabels ∧
      (rules.checksLengths = true → lengthsOk encodedLabels = true) ∧
      name = joinWith '.' encodedLabels := by
  constructor
  · intro h
    unfold toAscii at h
    obtain ⟨decoded, hdecoded, h⟩ := Option.bind_eq_some_iff.mp h
    obtain ⟨list, hlist, h⟩ := Option.bind_eq_some_iff.mp h
    split at h
    · cases h
    · next hok =>
      cases h
      exact ⟨decoded, list, hdecoded, hlist, by simpa using hok, rfl⟩
  · rintro ⟨decoded, list, hdecoded, hlist, hok, rfl⟩
    have hlengths : (rules.checksLengths && !lengthsOk list) = false := by
      cases hc : rules.checksLengths with
      | false => rfl
      | true => simp [hok hc]
    simp only [toAscii, hdecoded, hlist, hlengths, Option.bind_eq_bind, Option.bind_some]
    rfl

theorem ne_nil_of_labels (h : labels rules spelling = some decoded) : decoded ≠ [] := by
  obtain ⟨text, -, hdecoded, -⟩ := labels_eq_some_iff.mp h
  rintro rfl
  have hnil := List.forall₂_nil_right_iff.mp (mapM_eq_some_iff.mp hdecoded)
  exact Text.split_ne_nil hnil

/-- The ASCII forms of the labels of a registered name have the characters of hosts only. -/
theorem forall_isHostChar (hok : decoded.all (labelOk .registered) = true)
    (h : decoded.mapM encodeLabel = some encodedLabels) :
    ∀ encoded ∈ encodedLabels, ∀ c ∈ encoded, isHostChar c = true := by
  rw [mapM_eq_some_iff] at h
  induction h with
  | nil => nofun
  | cons he _ ih =>
    rw [List.all_cons, Bool.and_eq_true] at hok
    rw [List.forall_mem_cons]
    exact ⟨fun c hc => isHostChar_of_mem_encodeLabel hok.1 he hc, ih hok.2⟩

theorem mapM_decodeLabel (hok : decoded.all (labelOk .registered) = true)
    (h : decoded.mapM encodeLabel = some encodedLabels)
    (hlengths : ∀ encoded ∈ encodedLabels, encoded.length ≤ 63) :
    encodedLabels.mapM decodeLabel = some decoded := by
  rw [mapM_eq_some_iff] at h ⊢
  induction h with
  | nil => exact .nil
  | cons he _ ih =>
    rw [List.all_cons, Bool.and_eq_true] at hok
    rw [List.forall_mem_cons] at hlengths
    exact .cons (decodeLabel_encodeLabel hok.1 he hlengths.1) (ih hok.2 hlengths.2)

theorem mem_joinWith {separator : Char} {parts : List (List Char)}
    (h : c ∈ joinWith separator parts) : c = separator ∨ ∃ part ∈ parts, c ∈ part := by
  unfold joinWith at h
  induction parts with
  | nil => cases h
  | cons part parts ih =>
    cases parts with
    | nil =>
      rw [List.intercalate_singleton] at h
      exact .inr ⟨part, List.mem_cons_self, h⟩
    | cons next parts =>
      rw [List.intercalate_cons_cons, List.append_assoc, List.mem_append, List.mem_append,
        List.mem_singleton] at h
      rcases h with hpart | hseparator | hrest
      · exact .inr ⟨part, List.mem_cons_self, hpart⟩
      · exact .inl hseparator
      · exact (ih hrest).imp_right fun ⟨other, hmem, hc⟩ =>
          ⟨other, List.mem_cons_of_mem part hmem, hc⟩

/-- The labels of a name are found again. -/
theorem split_joinWith (h : labels .registered spelling = some decoded)
    (hencode : decoded.mapM encodeLabel = some encodedLabels) :
    Text.split '.' (joinWith '.' encodedLabels) = encodedLabels := by
  obtain ⟨text, -, -, hok⟩ := labels_eq_some_iff.mp h
  obtain ⟨hall, -⟩ := (Bool.and_eq_true _ _).mp hok
  have hne : encodedLabels ≠ [] := by
    rintro rfl
    exact ne_nil_of_labels h (List.forall₂_nil_right_iff.mp (mapM_eq_some_iff.mp hencode))
  refine Text.split_intercalate hne fun encoded hmem hdot => ?_
  exact absurd (forall_isHostChar hall hencode encoded hmem '.' hdot) (by decide)

theorem length_of_lengthsOk (h : lengthsOk encodedLabels = true) :
    ∀ encoded ∈ encodedLabels, 1 ≤ encoded.length ∧ encoded.length ≤ 63 := by
  simp only [lengthsOk, Bool.and_eq_true, List.all_eq_true, decide_eq_true_eq] at h
  exact h.1

/-- The shape of the labels of a registered name. -/
theorem forall_mem_split (h : toAscii .registered spelling = some name) :
    ∀ label ∈ Text.split '.' name,
      1 ≤ label.length ∧ label.length ≤ 63 ∧ ∀ c ∈ label, isHostChar c = true := by
  obtain ⟨decoded, encodedLabels, hlabels, hencode, hlengths, rfl⟩ := toAscii_eq_some_iff.mp h
  obtain ⟨text, -, -, hok⟩ := labels_eq_some_iff.mp hlabels
  obtain ⟨hall, -⟩ := (Bool.and_eq_true _ _).mp hok
  rw [split_joinWith hlabels hencode]
  intro label hmem
  obtain ⟨hlow, hhigh⟩ := length_of_lengthsOk (hlengths rfl) label hmem
  exact ⟨hlow, hhigh, forall_isHostChar hall hencode label hmem⟩

/-- The labels of a name are those that its spelling has, and so is what they are checked for. -/
theorem toAscii_self (h : toAscii .registered spelling = some name) :
    toAscii .registered name = some name := by
  obtain ⟨decoded, encodedLabels, hlabels, hencode, hlengths, rfl⟩ := toAscii_eq_some_iff.mp h
  obtain ⟨text, -, -, hok⟩ := labels_eq_some_iff.mp hlabels
  obtain ⟨hall, -⟩ := (Bool.and_eq_true _ _).mp hok
  have hchars : ∀ c ∈ joinWith '.' encodedLabels, isHostChar c = true ∨ c = '.' := by
    intro c hc
    rcases mem_joinWith hc with rfl | ⟨encoded, hmem, hc⟩
    · exact .inr rfl
    · exact .inl (forall_isHostChar hall hencode encoded hmem c hc)
  have hshort := fun encoded hmem => (length_of_lengthsOk (hlengths rfl) encoded hmem).2
  refine toAscii_eq_some_iff.mpr ⟨decoded, encodedLabels, ?_, hencode, hlengths, rfl⟩
  refine labels_eq_some_iff.mpr ⟨_, mapText_of_isHostChar hchars, ?_, hok⟩
  rw [split_joinWith hlabels hencode]
  exact mapM_decodeLabel hall hencode hshort

theorem parse_eq_ok_iff {raw : String} {d : Domain} :
    Domain.parse raw = .ok d ↔ toAscii .registered raw.toList = some d.name.toList := by
  unfold Domain.parse
  cases h : toAscii .registered raw.toList with
  | none => simp
  | some name =>
    rw [Except.ok.injEq, Option.some.injEq]
    constructor
    · rintro rfl
      exact String.toList_ofList.symm
    · rintro rfl
      rw [String.ofList_toList]

/-- The name of a domain has only the characters of hosts and full stops. -/
theorem isHostChar_of_mem_name {raw : String} {d : Domain} (h : Domain.parse raw = .ok d)
    (hc : c ∈ d.name.toList) : isHostChar c = true ∨ c = '.' := by
  by_cases hdot : c = '.'
  · exact .inr hdot
  · obtain ⟨label, hlabel, hmem⟩ := Text.exists_mem_split hdot hc
    obtain ⟨-, -, hhost⟩ := forall_mem_split (parse_eq_ok_iff.mp h) label hlabel
    exact .inl (hhost c hmem)

/-- A domain is read from its JSON text if its name names it. -/
theorem ofJson_toJson {d : Domain} (h : Domain.parse d.name = .ok d) : ofJson d.toJson = .ok d := by
  have hread := Json.readString_writeString d.name []
  rw [List.append_nil] at hread
  simp only [ofJson, Json.readAll, toJson, hread, bind, Except.bind, String.ofList_toList, h]
  rfl

/-- The name of a domain names this very domain, as it stands and as JSON text. -/
theorem names_itself {raw : String} {d : Domain} (h : Domain.parse raw = .ok d) :
    Domain.parse d.name = .ok d ∧ ofJson d.toJson = .ok d := by
  have hname : Domain.parse d.name = .ok d :=
    parse_eq_ok_iff.mpr (toAscii_self (parse_eq_ok_iff.mp h))
  exact ⟨hname, ofJson_toJson hname⟩

theorem names_itself_capitals : Domain.parse "Shop.Example.COM" = .ok ⟨"shop.example.com"⟩ ∧
    Domain.parse "shop.example.com" = .ok ⟨"shop.example.com"⟩ ∧
    ofJson (toJson ⟨"shop.example.com"⟩) = .ok ⟨"shop.example.com"⟩ := by
  have h : Domain.parse "Shop.Example.COM" = .ok ⟨"shop.example.com"⟩ := rfl
  exact ⟨h, names_itself h⟩

end Pageviews.Domain
