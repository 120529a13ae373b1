import Pageviews.Proofs.Domain.Canonical

/-! Names written in ASCII, with no label in encoded form. Main statement: the host names among them
name domains, each that of its small letters, and no other names one. -/
namespace Pageviews.Domain

open Unicode

variable {c d : Char} {text label : List Char}

/-- A label of a host name: letters, digits and hyphens, the latter not at the ends and not at both
the third and the fourth place. -/
structure IsHostLabel (label : List Char) : Prop where
  length : 1 ≤ label.length ∧ label.length ≤ 63
  chars : ∀ c ∈ label, c.isAlphanum = true ∨ c = '-'
  ends : label.head? ≠ some '-' ∧ label.getLast? ≠ some '-'
  inner : ¬ (label[2]? = some '-' ∧ label[3]? = some '-')

structure IsHostName (text : List Char) : Prop where
  length : 1 ≤ text.length ∧ text.length ≤ 253
  labels : ∀ label ∈ Text.split '.' text, IsHostLabel label

instance (label : List Char) : Decidable (IsHostLabel label) :=
  -- the characters of the label are checked, not all characters there are
  decidable_of_iff
    ((1 ≤ label.length ∧ label.length ≤ 63) ∧ label.all (fun c => c.isAlphanum || c == '-') = true ∧
      (label.head? ≠ some '-' ∧ label.getLast? ≠ some '-') ∧
      ¬ (label[2]? = some '-' ∧ label[3]? = some '-'))
    ⟨fun ⟨h₁, h₂, h₃, h₄⟩ => ⟨h₁, by simpa using h₂, h₃, h₄⟩,
      fun h => ⟨h.length, by simpa using h.chars, h.ends, h.inner⟩⟩

instance (text : List Char) : Decidable (IsHostName text) :=
  decidable_of_iff
    ((1 ≤ text.length ∧ text.length ≤ 253) ∧ ∀ label ∈ Text.split '.' text, IsHostLabel label)
    ⟨fun ⟨h₁, h₂⟩ => ⟨h₁, h₂⟩, fun h => ⟨h.length, h.labels⟩⟩

theorem toNat_toLower (c : Char) :
    c.toLower.toNat = if c.isUpper then c.toNat + 32 else c.toNat := by
  unfold Char.toLower
  split
  · next h =>
    have hupper : c.isUpper = true := decide_eq_true h
    have hrange : c.val.toNat ≤ 0x5A := (isUpper_iff.mp hupper).2
    rw [if_pos hupper]
    show (c.val + 32).toNat = c.val.toNat + 32
    rw [UInt32.toNat_add]
    exact Nat.mod_eq_of_lt (Nat.lt_of_le_of_lt (Nat.add_le_add_right hrange 32) (by decide))
  · next h =>
    exact (if_neg fun hupper => h (of_decide_eq_true hupper)).symm

theorem isLower_iff : c.isLower = true ↔ 0x61 ≤ c.toNat ∧ c.toNat ≤ 0x7A := by
  have hlower : c.isLower = (decide ('a'.val ≤ c.val) && decide (c.val ≤ 'z'.val)) := rfl
  simp [hlower, UInt32.le_iff_toNat_le]

theorem isAlpha_eq (c : Char) : c.isAlpha = (c.isUpper || c.isLower) := rfl

theorem isAlphanum_iff : c.isAlphanum = true ↔
    ((0x41 ≤ c.toNat ∧ c.toNat ≤ 0x5A) ∨ (0x61 ≤ c.toNat ∧ c.toNat ≤ 0x7A)) ∨
      (0x30 ≤ c.toNat ∧ c.toNat ≤ 0x39) := by
  have hdigit : c.isDigit = true ↔ 0x30 ≤ c.toNat ∧ c.toNat ≤ 0x39 := by
    simp [Char.isDigit, UInt32.le_iff_toNat_le]
  rw [Char.isAlphanum, isAlpha_eq, Bool.or_eq_true, Bool.or_eq_true, isUpper_iff, isLower_iff,
    hdigit]

/-- Only a letter can be changed. -/
theorem toLower_eq_iff (hd : d.isAlpha = false) : c.toLower = d ↔ c = d := by
  rw [isAlpha_eq, Bool.or_eq_false_iff, ← Bool.not_eq_true, ← Bool.not_eq_true, isUpper_iff,
    isLower_iff] at hd
  rw [← Char.toNat_inj, ← Char.toNat_inj, toNat_toLower]
  split
  · next hc =>
    rw [isUpper_iff] at hc
    omega
  · rfl

theorem isHostChar_toLower : isHostChar c.toLower = true ↔ c.isAlphanum = true ∨ c = '-' := by
  have hhyphen : c = '-' ↔ c.toNat = 0x2D := Char.toNat_inj.symm
  rw [isHostChar_iff, isAlphanum_iff, hhyphen, toNat_toLower]
  split
  · next hc =>
    rw [isUpper_iff] at hc
    omega
  · next hc =>
    rw [isUpper_iff] at hc
    omega

theorem forall_ascii_toLower (h : ∀ c ∈ text, c.toNat < 0x80) :
    ∀ c ∈ text.map Char.toLower, c.toNat < 0x80 := by
  rw [List.forall_mem_map]
  intro c hc
  have hascii := h c hc
  rw [toNat_toLower]
  split
  · next hupper =>
    rw [isUpper_iff] at hupper
    omega
  · exact hascii

theorem mapChar_of_ascii (h : c.toNat < 0x80) : mapChar c = some [c.toLower] := by
  rw [mapChar, status, if_pos h]
  by_cases hc : c.isUpper = true
  · rw [if_pos hc]
  · have hself : c.toLower = c := by rw [← Char.toNat_inj, toNat_toLower, if_neg hc]
    rw [if_neg hc, hself]

/-- A name in ASCII stands for its small letters. -/
theorem mapText_of_ascii (h : ∀ c ∈ text, c.toNat < 0x80) :
    mapText text = some (text.map Char.toLower) := by
  have hmap : text.mapM mapChar = some (text.map fun c => [c.toLower]) := by
    rw [mapM_eq_some_iff, List.forall₂_map_right_iff, List.forall₂_same]
    exact fun c hc => mapChar_of_ascii (h c hc)
  have hflatten : (text.map fun c => [c.toLower]).flatten = text.map Char.toLower := by
    rw [← List.flatMap_def]
    exact List.flatMap_pure_eq_map Char.toLower text
  rw [mapText, hmap, Option.map_some, hflatten, normalize_of_ascii (forall_ascii_toLower h)]

theorem isRightToLeft_of_ascii (h : c.toNat < 0x80) : isRightToLeft c = false := by
  have hclass : BidiClass.ofChar c = BidiClass.ofAscii c := if_pos h
  rw [isRightToLeft, hclass]
  cases hascii : BidiClass.ofAscii c with
  | rightToLeft | arabicLetter | arabicNumber =>
    unfold BidiClass.ofAscii at hascii
    repeat' split at hascii
    all_goals cases hascii
  | _ => rfl

theorem directionsOk_of_ascii {labels : List (List Char)}
    (h : ∀ label ∈ labels, ∀ c ∈ label, c.toNat < 0x80) : directionsOk labels = true := by
  have hnone : labels.any (·.any isRightToLeft) = false := by
    simp only [List.any_eq_false, Bool.not_eq_true]
    exact fun label hlabel c hc => isRightToLeft_of_ascii (h label hlabel c hc)
  rw [directionsOk, hnone]
  rfl

theorem joinersOkAfter_of_ascii (before : List Char) (h : ∀ c ∈ label, c.toNat < 0x80) :
    joinersOkAfter before label = true := by
  induction label generalizing before with
  | nil => rfl
  | cons c label ih =>
    obtain ⟨hc, hlabel⟩ := List.forall_mem_cons.mp h
    have hjoiner : ¬ (c = '\u200c' ∨ c = '\u200d') := by
      rintro (rfl | rfl) <;> revert hc <;> decide
    rw [joinersOkAfter, if_neg hjoiner, ih _ hlabel]
    rfl

/-- What a label in ASCII has to meet. -/
theorem labelOk_of_ascii (h : ∀ c ∈ label, c.toNat < 0x80) (hdot : '.' ∉ label) :
    labelOk .registered label = true ↔
      hyphensOk label = true ∧ ∀ c ∈ label, isHostChar c = true := by
  have hmark : label.head?.any isMark = false := by
    cases label with
    | nil => rfl
    | cons c label =>
      have hc := h c List.mem_cons_self
      have hlow : ¬ 0x300 ≤ c.toNat := by omega
      simp [isMark, hlow]
  have hchars : label.all (charOk .registered) = true ↔ ∀ c ∈ label, isHostChar c = true := by
    rw [List.all_eq_true]
    refine forall₂_congr fun c hc => ?_
    have hne : c ≠ '.' := fun he => hdot (he ▸ hc)
    simp [charOk, Rules.registered, h c hc, hne]
  have hjoiners : joinersOk label = true := joinersOkAfter_of_ascii [] h
  rw [← hchars]
  simp [labelOk, normalize_of_ascii h, hmark, hjoiners, Rules.registered]

theorem hyphensOk_map_toLower :
    hyphensOk (label.map Char.toLower) = true ↔
      (label.head? ≠ some '-' ∧ label.getLast? ≠ some '-') ∧
        ¬ (label[2]? = some '-' ∧ label[3]? = some '-') := by
  have hmap : ∀ c? : Option Char, c?.map Char.toLower = some '-' ↔ c? = some '-' := by
    intro c?
    cases c? with
    | none => simp
    | some c => simp [toLower_eq_iff (d := '-') rfl]
  simp [hyphensOk, hmap, and_assoc, not_and_or, -not_and, -Option.map_eq_some_iff]

/-- The labels of the small letters of a text. -/
theorem split_map_toLower :
    Text.split '.' (text.map Char.toLower) = (Text.split '.' text).map (List.map Char.toLower) :=
  Text.split_map fun _ => toLower_eq_iff rfl

theorem labelOk_toLower (h : ∀ c ∈ text, c.toNat < 0x80) (hlabel : label ∈ Text.split '.' text) :
    labelOk .registered (label.map Char.toLower) = true ∧
        (1 ≤ label.length ∧ label.length ≤ 63) ↔ IsHostLabel label := by
  have hsmall : ∀ c ∈ label.map Char.toLower, c.toNat < 0x80 :=
    forall_ascii_toLower fun c hc => h c (Text.mem_of_mem_split hlabel hc).1
  have hdot : '.' ∉ label.map Char.toLower := by
    intro hmem
    obtain ⟨d, hd, hlower⟩ := List.mem_map.mp hmem
    exact (Text.mem_of_mem_split hlabel hd).2 ((toLower_eq_iff rfl).mp hlower)
  have hchars : (∀ c ∈ label.map Char.toLower, isHostChar c = true) ↔
      ∀ c ∈ label, c.isAlphanum = true ∨ c = '-' := by
    simp only [List.forall_mem_map, isHostChar_toLower]
  rw [labelOk_of_ascii hsmall hdot, hyphensOk_map_toLower, hchars]
  constructor
  · rintro ⟨⟨⟨hends, hinner⟩, hallowed⟩, hlength⟩
    exact ⟨hlength, hallowed, hends, hinner⟩
  · intro hhost
    exact ⟨⟨⟨hhost.ends, hhost.inner⟩, hhost.chars⟩, hhost.length⟩

/-- A text is a host name if its labels are as those of a name should be and not too long. -/
theorem isHostName_iff (h : ∀ c ∈ text, c.toNat < 0x80) :
    IsHostName text ↔ (Text.split '.' (text.map Char.toLower)).all (labelOk .registered) = true ∧
      lengthsOk (Text.split '.' (text.map Char.toLower)) = true := by
  have hjoin : joinWith '.' (Text.split '.' (text.map Char.toLower)) = text.map Char.toLower :=
    Text.intercalate_split
  have hlengths : lengthsOk (Text.split '.' (text.map Char.toLower)) = true ↔
      (∀ label ∈ Text.split '.' text, 1 ≤ label.length ∧ label.length ≤ 63) ∧
        text.length ≤ 253 := by
    rw [lengthsOk, hjoin, split_map_toLower]
    simp
  rw [hlengths, split_map_toLower, List.all_map, List.all_eq_true]
  constructor
  · intro hname
    have hlabels := fun label hlabel => (labelOk_toLower h hlabel).mpr (hname.labels label hlabel)
    exact ⟨fun label hlabel => (hlabels label hlabel).1, fun label hlabel => (hlabels label hlabel).2,
      hname.length.2⟩
  · rintro ⟨hok, hlabels, hlength⟩
    refine ⟨⟨?_, hlength⟩, fun label hlabel =>
      (labelOk_toLower h hlabel).mp ⟨hok label hlabel, hlabels label hlabel⟩⟩
    -- the empty text has an empty label
    by_contra hempty
    have hnil : text = [] := List.length_eq_zero_iff.mp (by omega)
    rw [hnil] at hlabels
    have := (hlabels [] List.mem_cons_self).1
    rw [List.length_nil] at this
    omega

/-- No label of a name is in encoded form, in small letters or capitals. -/
def IsUnencoded (text : List Char) : Prop :=
  ∀ label ∈ Text.split '.' text, ¬ encodedMark <+: label.map Char.toLower

instance (text : List Char) : Decidable (IsUnencoded text) :=
  inferInstanceAs (Decidable (∀ label ∈ Text.split '.' text, ¬ encodedMark <+: label.map Char.toLower))

theorem mapM_decodeLabel_of_isUnencoded (h : IsUnencoded text) :
    (Text.split '.' (text.map Char.toLower)).mapM decodeLabel =
      some (Text.split '.' (text.map Char.toLower)) := by
  rw [mapM_eq_some_iff, List.forall₂_same, split_map_toLower, List.forall_mem_map]
  intro label hlabel
  have hmark : ¬ encodedMark.isPrefixOf (label.map Char.toLower) = true :=
    mt List.isPrefixOf_iff_prefix.mp (h label hlabel)
  rw [decodeLabel, if_neg hmark]

theorem mapM_encodeLabel_of_ascii (h : ∀ c ∈ text, c.toNat < 0x80) :
    (Text.split '.' text).mapM encodeLabel = some (Text.split '.' text) := by
  rw [mapM_eq_some_iff, List.forall₂_same]
  intro label hlabel
  have hascii : isAscii label = true :=
    isAscii_iff.mpr fun c hc => h c (Text.mem_of_mem_split hlabel hc).1
  rw [encodeLabel, if_pos hascii]

theorem toAscii_of_ascii {name : List Char} (h : ∀ c ∈ text, c.toNat < 0x80)
    (hu : IsUnencoded text) :
    toAscii .registered text = some name ↔ IsHostName text ∧ name = text.map Char.toLower := by
  have hsmall := forall_ascii_toLower h
  have hjoin : joinWith '.' (Text.split '.' (text.map Char.toLower)) = text.map Char.toLower :=
    Text.intercalate_split
  have hdirections : directionsOk (Text.split '.' (text.map Char.toLower)) = true :=
    directionsOk_of_ascii fun label hlabel c hc => hsmall c (Text.mem_of_mem_split hlabel hc).1
  have hdecode := mapM_decodeLabel_of_isUnencoded hu
  have hencode := mapM_encodeLabel_of_ascii hsmall
  rw [isHostName_iff h, toAscii_eq_some_iff]
  constructor
  · rintro ⟨decoded, encodedLabels, hlabels, hencoded, hlengths, rfl⟩
    obtain ⟨mapped, hmapped, hdecoded, hok⟩ := labels_eq_some_iff.mp hlabels
    rw [mapText_of_ascii h, Option.some.injEq] at hmapped
    subst hmapped
    rw [hdecode, Option.some.injEq] at hdecoded
    subst hdecoded
    rw [hencode, Option.some.injEq] at hencoded
    subst hencoded
    exact ⟨⟨((Bool.and_eq_true _ _).mp hok).1, hlengths rfl⟩, hjoin⟩
  · rintro ⟨⟨hok, hlengths⟩, rfl⟩
    refine ⟨_, _, labels_eq_some_iff.mpr ⟨_, mapText_of_ascii h, hdecode, ?_⟩, hencode,
      fun _ => hlengths, hjoin.symm⟩
    rw [hok, hdirections]
    rfl

/-- Of the texts in ASCII with no label in encoded form just the host names name domains, and each
names that of its small letters; any other text is refused as it stands. -/
theorem parse_ascii {raw : String} (h : ∀ c ∈ raw.toList, c.toNat < 0x80)
    (hu : IsUnencoded raw.toList) :
    Domain.parse raw =
      if IsHostName raw.toList then .ok ⟨String.ofList (raw.toList.map Char.toLower)⟩
      else .error ⟨raw⟩ := by
  split
  · next hname =>
    rw [parse_eq_ok_iff, toAscii_of_ascii h hu, String.toList_ofList]
    exact ⟨hname, rfl⟩
  · next hname =>
    have hnone : toAscii .registered raw.toList = none := by
      rw [Option.eq_none_iff_forall_ne_some]
      exact fun name hsome => hname ((toAscii_of_ascii h hu).mp hsome).1
    rw [Domain.parse, hnone]

/-- Hyphens in the second and third place are allowed, but not in the third and fourth. -/
theorem parse_ascii_hyphens :
    ((∀ c ∈ "A--b.COM".toList, c.toNat < 0x80) ∧ IsUnencoded "A--b.COM".toList ∧
      Domain.parse "A--b.COM" = .ok ⟨"a--b.com"⟩) ∧
    (∀ c ∈ "Ab--c.COM".toList, c.toNat < 0x80) ∧ IsUnencoded "Ab--c.COM".toList ∧
      Domain.parse "Ab--c.COM" = .error ⟨"Ab--c.COM"⟩ := by
  have hascii : ∀ c ∈ "A--b.COM".toList, c.toNat < 0x80 := by simp
  have hplain : IsUnencoded "A--b.COM".toList := by decide
  have hascii' : ∀ c ∈ "Ab--c.COM".toList, c.toNat < 0x80 := by simp
  have hplain' : IsUnencoded "Ab--c.COM".toList := by decide
  have hname : IsHostName "A--b.COM".toList := by decide
  have hname' : ¬ IsHostName "Ab--c.COM".toList := by decide
  refine ⟨⟨hascii, hplain, ?_⟩, hascii', hplain', ?_⟩
  · rw [parse_ascii hascii hplain, if_pos hname]
    rfl
  · rw [parse_ascii hascii' hplain', if_neg hname']

end Pageviews.Domain
