import Pageviews.Proofs.Domain.HostName
import Pageviews.Registry

/-! The case of letters. Main statement: texts that differ only in the case of ASCII letters, be it
in encoded labels, name the same domain, and as lists they name the same domains. -/
namespace Pageviews

namespace Domain

open Unicode

variable {c : Char} {text other : List Char}

def SameLetters (text other : List Char) : Prop :=
  text.map Char.toLower = other.map Char.toLower

instance (text other : List Char) : Decidable (SameLetters text other) :=
  inferInstanceAs (Decidable (text.map Char.toLower = other.map Char.toLower))

theorem toLower_of_beyond_ascii (h : 0x80 ≤ c.toNat) : c.toLower = c := by
  rw [← Char.toNat_inj, toNat_toLower, if_neg]
  rw [isUpper_iff]
  omega

theorem toLower_toLower (c : Char) : c.toLower.toLower = c.toLower := by
  rw [← Char.toNat_inj, toNat_toLower c.toLower, if_neg]
  rw [isUpper_iff, toNat_toLower]
  split
  · next h =>
    rw [isUpper_iff] at h
    omega
  · next h =>
    rw [isUpper_iff] at h
    omega

/-- A letter stands for what its small form stands for. -/
theorem mapChar_toLower (c : Char) : mapChar c.toLower = mapChar c := by
  by_cases h : c.toNat < 0x80
  · have hascii : ∀ d ∈ [c], d.toNat < 0x80 := by simpa using h
    have hsmall : c.toLower.toNat < 0x80 := by simpa using forall_ascii_toLower hascii
    rw [mapChar_of_ascii h, mapChar_of_ascii hsmall, toLower_toLower]
  · rw [toLower_of_beyond_ascii (by omega)]

theorem mapText_map_toLower (text : List Char) :
    mapText (text.map Char.toLower) = mapText text := by
  have hchars : mapChar ∘ Char.toLower = mapChar := funext mapChar_toLower
  rw [mapText, List.mapM_map, hchars, mapText]

/-- The small letters of a spelling spell the same name: the mapping comes before all else. -/
theorem toAscii_map_toLower (rules : Rules) (text : List Char) :
    toAscii rules (text.map Char.toLower) = toAscii rules text := by
  rw [toAscii, labels, mapText_map_toLower]
  rfl

theorem SameLetters.toAscii_eq (h : SameLetters text other) (rules : Rules) :
    toAscii rules text = toAscii rules other := by
  rw [← toAscii_map_toLower rules text, h, toAscii_map_toLower]

end Domain

namespace Registry

open Domain

theorem isBlank_toLower (c : Char) : Text.isBlank c.toLower = Text.isBlank c := by
  cases h : c.isUpper with
  | false =>
    have hself : c.toLower = c := by rw [← Char.toNat_inj, toNat_toLower, h]; rfl
    rw [hself]
  | true =>
    have hrange := isUpper_iff.mp h
    have hlower : c.toLower.toNat = c.toNat + 32 := by rw [toNat_toLower, if_pos h]
    unfold Text.isBlank
    rw [hlower, Bool.eq_iff_iff]
    simp only [Bool.or_eq_true, Bool.and_eq_true, decide_eq_true_eq]
    omega

theorem trim_map_toLower (text : List Char) :
    Text.trim (text.map Char.toLower) = (Text.trim text).map Char.toLower := by
  have hblank : Text.isBlank ∘ Char.toLower = Text.isBlank := funext isBlank_toLower
  simp [Text.trim, Text.trimWhere, List.dropWhile_map, ← List.map_reverse, hblank]

def parts (text : List Char) : List (List Char) := (Text.split ',' text).map Text.trim

theorem entries_eq (raw : String) : entries raw = (parts raw.toList).map String.ofList := by
  rw [parts, List.map_map]
  rfl

theorem parts_map_toLower (text : List Char) :
    parts (text.map Char.toLower) = (parts text).map (List.map Char.toLower) := by
  have hsplit : Text.split ',' (text.map Char.toLower) =
      (Text.split ',' text).map (List.map Char.toLower) :=
    Text.split_map fun _ => toLower_eq_iff rfl
  rw [parts, hsplit, parts, List.map_map, List.map_map]
  exact List.map_congr_left fun part _ => trim_map_toLower part

/-- The domains of a list are named by its entries in their order. -/
theorem parseList_eq_ok_iff {raw : String} {domains : List Domain} :
    parseList raw = .ok domains ↔
      List.Forall₂ (fun part d => toAscii .registered part = some d.name.toList)
        (parts raw.toList) domains := by
  rw [parseList, mapM_eq_ok_iff, entries_eq, List.forall₂_map_left_iff]
  simp only [parse_eq_ok_iff, String.toList_ofList]

theorem parseList_iff_small {raw : String} {domains : List Domain} :
    parseList raw = .ok domains ↔
      List.Forall₂ (fun part d => toAscii .registered part = some d.name.toList)
        (parts (raw.toList.map Char.toLower)) domains := by
  rw [parts_map_toLower, List.forall₂_map_left_iff, parseList_eq_ok_iff]
  simp only [toAscii_map_toLower]

end Registry

open Domain

/-- Texts that differ only in the case of letters are read alike: as spellings of a domain, which
is what a lookup asks for, and as lists of domains to register. -/
theorem letter_case_immaterial {raw other : String} (h : SameLetters raw.toList other.toList) :
    (∀ d, Domain.parse raw = .ok d ↔ Domain.parse other = .ok d) ∧
      ∀ domains, Registry.parseList raw = .ok domains ↔ Registry.parseList other = .ok domains := by
  constructor
  · intro d
    rw [parse_eq_ok_iff, parse_eq_ok_iff, h.toAscii_eq]
  · intro domains
    rw [Registry.parseList_iff_small, Registry.parseList_iff_small, h]

theorem letter_case_immaterial_shop :
    SameLetters "SHOP.example,Blog.Example".toList "Shop.eXample,bLOG.example".toList ∧
      Registry.parseList "Shop.eXample,bLOG.example" =
        .ok [⟨"shop.example"⟩, ⟨"blog.example"⟩] := by
  have hletters :
      SameLetters "SHOP.example,Blog.Example".toList "Shop.eXample,bLOG.example".toList := by
    decide
  have hlist : Registry.parseList "SHOP.example,Blog.Example" =
      .ok [⟨"shop.example"⟩, ⟨"blog.example"⟩] := rfl
  exact ⟨hletters, ((letter_case_immaterial hletters).2 _).mp hlist⟩

end Pageviews
