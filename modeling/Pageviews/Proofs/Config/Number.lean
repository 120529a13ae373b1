import Mathlib.Tactic.Common
import Pageviews.Config.Number

/-! Which texts are numbers below a limit. Main statement: those of decimal digits, with a plus sign
or none, whose value is below it. -/
namespace Pageviews.Config

variable {limit n m : Nat} {digits : List Char}

theorem le_ofDigitChars (digits : List Char) (n : Nat) : n ≤ Nat.ofDigitChars 10 digits n := by
  induction digits generalizing n with
  | nil => exact Nat.le_refl _
  | cons c digits ih =>
    rw [Nat.ofDigitChars_cons]
    exact Nat.le_trans (by omega) (ih _)

theorem addDigit_eq_ok_iff {c : Char} :
    addDigit limit n c = .ok m ↔
      c.isDigit = true ∧ m = 10 * n + (c.toNat - '0'.toNat) ∧ m < limit := by
  unfold addDigit
  split
  · next hc =>
    dsimp only
    split
    · next hlt =>
      rw [Except.ok.injEq]
      exact ⟨fun h => ⟨hc, h.symm, h ▸ hlt⟩, fun h => h.2.1.symm⟩
    · next hge => exact ⟨nofun, fun h => absurd (h.2.1 ▸ h.2.2) hge⟩
  · next hc => exact ⟨nofun, fun h => absurd h.1 hc⟩

/-- The limit is checked at every digit; as the value only grows, the last check tells. -/
theorem foldlM_addDigit_eq_ok_iff (hn : digits = [] → n < limit) :
    digits.foldlM (addDigit limit) n = .ok m ↔
      (∀ c ∈ digits, c.isDigit = true) ∧ m = Nat.ofDigitChars 10 digits n ∧ m < limit := by
  induction digits generalizing n with
  | nil =>
    rw [List.foldlM_nil, Nat.ofDigitChars_nil]
    constructor
    · intro h
      cases h
      exact ⟨nofun, rfl, hn rfl⟩
    · rintro ⟨-, rfl, -⟩
      rfl
  | cons c digits ih =>
    rw [List.foldlM_cons, Nat.ofDigitChars_cons, List.forall_mem_cons]
    cases hd : addDigit limit n c with
    | error cause =>
      refine ⟨nofun, fun ⟨hdigits, hm, hlt⟩ => ?_⟩
      have hle := le_ofDigitChars digits (10 * n + (c.toNat - '0'.toNat))
      have hok := addDigit_eq_ok_iff.mpr ⟨hdigits.1, rfl, Nat.lt_of_le_of_lt hle (hm ▸ hlt)⟩
      rw [hd] at hok
      cases hok
    | ok next =>
      obtain ⟨hc, rfl, hlt⟩ := addDigit_eq_ok_iff.mp hd
      rw [and_assoc, and_iff_right hc]
      exact ih fun _ => hlt

theorem ne_plus_of_isDigit {c : Char} (h : c.isDigit = true) : c ≠ '+' := by
  rintro rfl
  cases h

/-- A number is made of digits, and of a plus sign before them or none. -/
theorem parseNumber_eq_ok_iff {text : String} :
    parseNumber limit text = .ok n ↔
      ∃ digits, digits ≠ [] ∧ (text.toList = digits ∨ text.toList = '+' :: digits) ∧
        (∀ c ∈ digits, c.isDigit = true) ∧ n = Nat.ofDigitChars 10 digits 0 ∧ n < limit := by
  unfold parseNumber
  split
  · next h =>
    rw [h]
    refine ⟨nofun, ?_⟩
    rintro ⟨digits, hne, hnil | hnil, -⟩
    · exact absurd hnil.symm hne
    · cases hnil
  · next h =>
    rw [h]
    refine ⟨nofun, ?_⟩
    rintro ⟨digits, hne, rfl | hplus, hdigits, -⟩
    · exact absurd rfl (ne_plus_of_isDigit (hdigits '+' List.mem_cons_self))
    · exact absurd (List.cons.inj hplus).2.symm hne
  · next digits hne h =>
    rw [h, foldlM_addDigit_eq_ok_iff fun hnil => absurd hnil hne]
    constructor
    · exact fun hdigits => ⟨digits, hne, .inr rfl, hdigits⟩
    · rintro ⟨others, -, rfl | hplus, hdigits⟩
      · exact absurd rfl (ne_plus_of_isDigit (hdigits.1 '+' List.mem_cons_self))
      · obtain rfl := (List.cons.inj hplus).2
        exact hdigits
  · next hne _ hsign =>
    rw [foldlM_addDigit_eq_ok_iff fun hnil => absurd hnil hne]
    constructor
    · exact fun hdigits => ⟨_, hne, .inl rfl, hdigits⟩
    · rintro ⟨digits, -, rfl | hplus, hdigits⟩
      · exact hdigits
      · exact absurd hplus (hsign digits)

/-- A number that is written out is read back. -/
theorem parseNumber_toString (h : n < limit) : parseNumber limit (toString n) = .ok n := by
  refine parseNumber_eq_ok_iff.mpr ⟨Nat.toDigits 10 n, Nat.toDigits_ne_nil, .inl ?_, ?_, ?_, h⟩
  · rw [Nat.toString_eq_ofList_toDigits, String.toList_ofList]
  · exact fun c hc => Nat.isDigit_of_mem_toDigits (by decide) (by decide) hc
  · exact Nat.ofDigitChars_ten_toDigits.symm

end Pageviews.Config
