import Pageviews.Proofs.Json.Spelling
import Pageviews.Proofs.Text.Utf8
import Pageviews.Url.Percent

/-! Texts in which bytes may be percent-encoded. Main statement: such a text is decoded to a name
without percent signs if it is one of the spellings of it. -/
namespace Pageviews.Url

open Text

/-- A text in which characters stand for themselves, and bytes may be given by a percent sign and
two hexadecimal digits in either case. -/
inductive Encodes : List Char → List UInt8 → Prop where
  | nil : Encodes [] []
  | plain {text : List Char} {bytes : List UInt8} (hc : c ≠ '%') (h : Encodes text bytes) :
      Encodes (c :: text) (utf8 [c] ++ bytes)
  | byte {a b : Char} {i j : Nat} {text : List Char} {bytes : List UInt8}
      (ha : Json.HexDigit a i) (hb : Json.HexDigit b j) (h : Encodes text bytes) :
      Encodes ('%' :: a :: b :: text) (UInt8.ofNat (16 * i + j) :: bytes)

variable {text name : List Char} {bytes : List UInt8} {c : Char}

theorem percentDecode_plain (hc : c ≠ '%') (text : List Char) :
    percentDecode (c :: text) = utf8 [c] ++ percentDecode text := by
  rw [percentDecode]
  intro a b rest h
  exact absurd h hc

theorem Encodes.percentDecode_eq (h : Encodes text bytes) : percentDecode text = bytes := by
  induction h with
  | nil => rfl
  | plain hc _ ih => rw [percentDecode_plain hc, ih]
  | byte ha hb _ ih =>
    rw [← Json.hexValue?_eq_some_iff] at ha hb
    simp only [percentDecode, ha, hb, ih]

/-- A text whose bytes have no percent sign is a spelling of them. -/
theorem encodes_percentDecode (h : 0x25 ∉ percentDecode text) : Encodes text (percentDecode text) := by
  have hsign : utf8 ['%'] = [0x25] := rfl
  fun_induction percentDecode text with
  | case1 => exact .nil
  | case2 a b rest high low hlow hhigh ih =>
    rw [List.mem_cons, not_or] at h
    rw [Json.hexValue?_eq_some_iff] at hhigh hlow
    exact .byte hhigh hlow (ih h.2)
  | case3 a b rest hnone ih =>
    rw [hsign] at h
    exact absurd List.mem_cons_self h
  | case4 c rest hshort ih =>
    rw [List.mem_append, not_or] at h
    refine .plain ?_ (ih h.2)
    rintro rfl
    rw [hsign] at h
    exact h.1 List.mem_cons_self

/-- A character that is no part of an encoded byte stands for itself. -/
theorem Encodes.subset (h : Encodes text bytes) (hc : c ∈ text) (hsign : c ≠ '%')
    (hdigit : hexValue? c = none) : utf8 [c] ⊆ bytes := by
  have hne {d : Char} {value : Nat} (hd : Json.HexDigit d value) : c ≠ d := by
    rintro rfl
    rw [← Json.hexValue?_eq_some_iff, hdigit] at hd
    cases hd
  induction h with
  | nil => cases hc
  | plain _ _ ih =>
    rcases List.mem_cons.mp hc with rfl | hc
    · exact List.subset_append_left _ _
    · exact List.subset_append_of_subset_right _ (ih hc)
  | byte ha hb _ ih =>
    rcases List.mem_cons.mp hc with heq | hc
    · exact absurd heq hsign
    rcases List.mem_cons.mp hc with heq | hc
    · exact absurd heq (hne ha)
    rcases List.mem_cons.mp hc with heq | hc
    · exact absurd heq (hne hb)
    exact List.subset_cons_of_subset _ (ih hc)

/-- A text is decoded to a name without percent signs if it spells the name. -/
theorem ofUtf8?_percentDecode_eq_some_iff (h : '%' ∉ name) :
    ofUtf8? (percentDecode text) = some name ↔ Encodes text (utf8 name) := by
  rw [ofUtf8?_eq_some_iff]
  constructor
  · intro hbytes
    rw [← hbytes]
    apply encodes_percentDecode
    rw [hbytes]
    exact fun hmem => h (mem_of_mem_utf8 hmem (by decide))
  · exact Encodes.percentDecode_eq

end Pageviews.Url
