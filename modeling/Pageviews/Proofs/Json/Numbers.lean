import Pageviews.Proofs.Fallible
import Pageviews.Proofs.Json.Spelling

/-! The reader of numbers. Main statement: it reads what has the form of a number, up to where it
ends. -/
namespace Pageviews.Json

variable {text rest : List Char} {cut : Fault}

def EndsDigits (rest : List Char) : Prop := ∀ c ∈ rest.head?, c.isDigit = false

def EndsNumber (rest : List Char) : Prop :=
  ∀ c ∈ rest.head?, c.isDigit = false ∧ c ≠ '.' ∧ c ≠ 'e' ∧ c ≠ 'E'

theorem EndsNumber.endsDigits (h : EndsNumber rest) : EndsDigits rest := fun c hc => (h c hc).1

theorem endsNumber_cons {c : Char} (h : c ∈ [' ', '\n', '\t', '\r', ',', ']', '\x7d'])
    (rest : List Char) : EndsNumber (c :: rest) := by
  intro d hd
  cases hd
  simp only [List.mem_cons, List.not_mem_nil, or_false] at h
  rcases h with rfl | rfl | rfl | rfl | rfl | rfl | rfl <;> decide

theorem EndsNumber.append {blanks : List Char} (hblank : Blank blanks) (h : EndsNumber rest) :
    EndsNumber (blanks ++ rest) := by
  cases blanks with
  | nil => exact h
  | cons c blanks =>
    have hc := hblank c List.mem_cons_self
    exact endsNumber_cons (List.mem_append_left [',', ']', '\x7d'] hc) _

theorem digits_eq_ok_iff {taken : List Char} : digits cut text = .ok (taken, rest) ↔
    IsDigits taken ∧ text = taken ++ rest ∧ EndsDigits rest := by
  constructor
  · intro h
    unfold digits at h
    split at h
    · cases h
    · next hne =>
      cases h
      have hall : ∀ c ∈ text.takeWhile Char.isDigit, c.isDigit = true := fun _ =>
        List.mem_takeWhile_imp
      refine ⟨⟨hne, hall⟩, List.takeWhile_append_dropWhile.symm, ?_⟩
      intro c hc
      have hhead := List.head?_dropWhile_not Char.isDigit text
      rw [Option.mem_def.mp hc] at hhead
      simpa using hhead
  · rintro ⟨⟨hne, hall⟩, rfl, hend⟩
    have htake : (taken ++ rest).takeWhile Char.isDigit = taken := by
      rw [List.takeWhile_append_of_pos hall]
      cases rest with
      | nil => simp
      | cons c rest => simp [hend c rfl]
    have hdrop : (taken ++ rest).dropWhile Char.isDigit = rest := by
      rw [List.dropWhile_append_of_pos hall]
      cases rest with
      | nil => rfl
      | cons c rest => exact List.dropWhile_cons_of_neg (by simp [hend c rfl])
    unfold digits
    rw [htake]
    split
    · exact absurd rfl hne
    · rw [hdrop]

theorem exists_sign (text : List Char) :
    ∃ mark, mark ∈ [[], ['+'], ['-']] ∧ text = mark ++ (sign text).2 := by
  unfold sign
  split
  · exact ⟨['-'], by simp, rfl⟩
  · exact ⟨['+'], by simp, rfl⟩
  · exact ⟨[], by simp, rfl⟩

theorem sign_append {mark digits : List Char} (hmark : mark ∈ [[], ['+'], ['-']])
    (hdigits : IsDigits digits) (rest : List Char) :
    (sign (mark ++ (digits ++ rest))).2 = digits ++ rest := by
  simp only [List.mem_cons, List.not_mem_nil, or_false] at hmark
  rcases hmark with rfl | rfl | rfl
  · obtain ⟨c, tail, rfl⟩ := List.exists_cons_of_ne_nil hdigits.1
    have hc := hdigits.2 c List.mem_cons_self
    rw [List.nil_append, List.cons_append]
    unfold sign
    split
    · next heq =>
      cases heq
      cases hc
    · next heq =>
      cases heq
      cases hc
    · rfl
  · rfl
  · rfl

theorem exists_of_exponent {n : Int} (h : exponent cut text = .ok (n, rest)) :
    ∃ power, IsExponent power ∧ text = power ++ rest := by
  unfold exponent at h
  split at h
  · cases h
    exact ⟨[], .none, rfl⟩
  · next c tail =>
    split at h
    · next hletter =>
      obtain ⟨⟨taken, after⟩, hdigits, heq⟩ := exists_of_map_eq_ok h
      cases heq
      obtain ⟨mark, hmark, htail⟩ := exists_sign tail
      obtain ⟨htaken, hsplit, -⟩ := digits_eq_ok_iff.mp hdigits
      exact ⟨_, .some hletter hmark htaken, by rw [htail, hsplit]; simp⟩
    · cases h
      exact ⟨[], .none, rfl⟩

theorem exists_exponent (cut : Fault) {power : List Char} (h : IsExponent power)
    (hend : EndsNumber rest) : ∃ n, exponent cut (power ++ rest) = .ok (n, rest) := by
  cases h with
  | none =>
    cases rest with
    | nil => exact ⟨_, rfl⟩
    | cons c rest =>
      obtain ⟨-, -, he, hE⟩ := hend c rfl
      exact ⟨0, by simp [exponent, he, hE]⟩
  | @some letter mark taken hletter hmark hdigits =>
    have hread : digits cut (taken ++ rest) = .ok (taken, rest) :=
      digits_eq_ok_iff.mpr ⟨hdigits, rfl, hend.endsDigits⟩
    rw [List.cons_append, List.append_assoc, exponent, if_pos hletter,
      sign_append hmark hdigits, hread]
    exact ⟨_, rfl⟩

theorem exists_of_fraction {whole : List Char} {n : Number}
    (h : fraction cut whole text = .ok (n, rest)) :
    ∃ part power, IsFraction part ∧ IsExponent power ∧ text = part ++ (power ++ rest) := by
  unfold fraction at h
  split at h
  · next tail =>
    obtain ⟨⟨taken, after⟩, hdigits, hread⟩ := bind_eq_ok_iff.mp h
    obtain ⟨⟨scale, last⟩, hexponent, hread⟩ := bind_eq_ok_iff.mp hread
    cases hread
    obtain ⟨htaken, rfl, -⟩ := digits_eq_ok_iff.mp hdigits
    obtain ⟨power, hpower, rfl⟩ := exists_of_exponent hexponent
    exact ⟨'.' :: taken, power, .some htaken, hpower, rfl⟩
  · obtain ⟨⟨scale, last⟩, hexponent, hread⟩ := bind_eq_ok_iff.mp h
    cases hread
    obtain ⟨power, hpower, rfl⟩ := exists_of_exponent hexponent
    exact ⟨[], power, .none, hpower, rfl⟩

theorem endsDigits_exponent {power : List Char} (h : IsExponent power) (hend : EndsNumber rest) :
    EndsDigits (power ++ rest) := by
  cases h with
  | none => exact hend.endsDigits
  | some hletter =>
    rintro c ⟨⟩
    rcases hletter with rfl | rfl <;> rfl

theorem exists_fraction (cut : Fault) (whole : List Char) {part power : List Char}
    (hpart : IsFraction part) (hpower : IsExponent power) (hend : EndsNumber rest) :
    ∃ n, fraction cut whole (part ++ (power ++ rest)) = .ok (n, rest) := by
  obtain ⟨scale, hexponent⟩ := exists_exponent cut hpower hend
  cases hpart with
  | none =>
    have hpoint : ∀ tail, power ++ rest ≠ '.' :: tail := by
      intro tail heq
      cases hpower with
      | none => exact (hend '.' (by rw [List.nil_append] at heq; simp [heq])).2.1 rfl
      | some hletter =>
        rw [List.cons_append, List.cons.injEq] at heq
        rw [heq.1] at hletter
        exact absurd hletter (by decide)
    unfold fraction
    split
    · next tail heq => exact absurd heq (hpoint tail)
    · exact ⟨_, bind_eq_ok_iff.mpr ⟨_, hexponent, rfl⟩⟩
  | @some taken hdigits =>
    have hread : digits cut (taken ++ (power ++ rest)) = .ok (taken, power ++ rest) :=
      digits_eq_ok_iff.mpr ⟨hdigits, rfl, endsDigits_exponent hpower hend⟩
    exact ⟨_, bind_eq_ok_iff.mpr ⟨_, hread, bind_eq_ok_iff.mpr ⟨_, hexponent, rfl⟩⟩⟩

theorem IsWhole.isDigits {whole : List Char} (h : IsWhole whole) : IsDigits whole := by
  cases h with
  | zero => exact ⟨nofun, List.forall_mem_singleton.mpr rfl⟩
  | digits hc _ h => exact ⟨nofun, List.forall_mem_cons.mpr ⟨hc, h⟩⟩

theorem isWhole_iff {whole : List Char} : IsWhole whole ↔
    IsDigits whole ∧ ¬ (whole.head? = some '0' ∧ whole.length ≠ 1) := by
  constructor
  · intro h
    refine ⟨h.isDigits, ?_⟩
    cases h with
    | zero => simp
    | digits _ hne => simp [hne]
  · rintro ⟨⟨hne, hall⟩, hzero⟩
    obtain ⟨c, tail, rfl⟩ := List.exists_cons_of_ne_nil hne
    rw [List.forall_mem_cons] at hall
    by_cases hc : c = '0'
    · have hnil : tail = [] := by simpa [hc] using hzero
      rw [hc, hnil]
      exact .zero
    · exact .digits hall.1 hc hall.2

/-- A number that is read has the form of one. -/
theorem exists_of_number {n : Number} (h : number cut text = .ok (n, rest)) :
    ∃ magnitude, IsMagnitude magnitude ∧ text = magnitude ++ rest := by
  obtain ⟨⟨whole, after⟩, hdigits, hread⟩ := bind_eq_ok_iff.mp h
  obtain ⟨hwhole, rfl, -⟩ := digits_eq_ok_iff.mp hdigits
  dsimp only at hread
  split at hread
  · cases hread
  · next hzero =>
    obtain ⟨part, power, hpart, hpower, rfl⟩ := exists_of_fraction hread
    exact ⟨_, .mk (isWhole_iff.mpr ⟨hwhole, hzero⟩) hpart hpower, by simp⟩

/-- A number is read where it ends. -/
theorem exists_number (cut : Fault) {magnitude : List Char} (h : IsMagnitude magnitude)
    (hend : EndsNumber rest) : ∃ n, number cut (magnitude ++ rest) = .ok (n, rest) := by
  cases h with
  | @mk whole part power hwhole hpart hpower =>
    have hafter : EndsDigits (part ++ (power ++ rest)) := by
      have hnext := endsDigits_exponent hpower hend
      cases hpart with
      | none => exact hnext
      | some =>
        rintro c ⟨⟩
        rfl
    obtain ⟨hdigits, hzero⟩ := isWhole_iff.mp hwhole
    have hread : digits cut (whole ++ (part ++ (power ++ rest))) =
        .ok (whole, part ++ (power ++ rest)) := digits_eq_ok_iff.mpr ⟨hdigits, rfl, hafter⟩
    obtain ⟨n, hfraction⟩ := exists_fraction cut whole hpart hpower hend
    refine ⟨n, bind_eq_ok_iff.mpr ⟨_, by simpa using hread, ?_⟩⟩
    dsimp only
    rw [if_neg hzero]
    exact hfraction

end Pageviews.Json
