import Mathlib.Data.List.InsertIdx
import Mathlib.Data.List.Sort
import Mathlib.Data.List.TakeWhile
import Mathlib.Tactic.Ring
import Pageviews.Domain.Punycode

/-! The encoded form of a text says all about it: what was written is read back. -/
namespace Pageviews.Domain.Punycode

theorem threshold_le (position bias : Nat) : threshold position bias ≤ 26 := by
  unfold threshold
  split
  · omega
  · split <;> omega

theorem digitValue?_digit {n : Nat} (h : n < 36) : digitValue? (digit n) = some n := by
  have hall : ∀ k ∈ List.range 36, digitValue? (digit k) = some k := by decide
  exact hall n (List.mem_range.mpr h)

/-- The first digit of a number that goes on. -/
theorem leading_lt (n position bias : Nat) :
    threshold position bias + (n - threshold position bias) % (36 - threshold position bias) <
      36 := by
  have hle := threshold_le position bias
  have hmod := Nat.mod_lt (n - threshold position bias)
    (show 36 - threshold position bias > 0 by omega)
  omega

/-- A number is read by its value, in the weight of its first digit. -/
theorem foldlM_number (r : Reader) (n : Nat) :
    (number n r.position r.bias).foldlM Reader.digit r = r.place (r.index + n * r.weight) := by
  induction n using Nat.strongRecOn generalizing r with
  | ind n ih =>
    have hone := one_le_threshold r.position r.bias
    have hle := threshold_le r.position r.bias
    rw [number]
    generalize ht : threshold r.position r.bias = t at *
    by_cases hn : n < t
    · have hvalue := digitValue?_digit (show n < 36 by omega)
      simp [hn, Reader.digit, hvalue, ht]
    · have hvalue := digitValue?_digit (ht ▸ leading_lt n r.position r.bias)
      have hge : ¬ t + (n - t) % (36 - t) < t := by omega
      have hless : (n - t) / (36 - t) < n :=
        Nat.lt_of_le_of_lt (Nat.div_le_self _ _) (by omega)
      have hsplit : t + (n - t) % (36 - t) + (n - t) / (36 - t) * (36 - t) = n := by
        have hmod := Nat.mod_add_div' (n - t) (36 - t)
        omega
      have hnext := ih _ hless
        { r with
          index := r.index + (t + (n - t) % (36 - t)) * r.weight
          weight := r.weight * (36 - t)
          position := r.position + 36 }
      rw [if_neg hn, List.foldlM_cons]
      simp only [Reader.digit, hvalue, ht, hge, if_false, Option.bind_eq_bind, Option.bind_some]
      rw [hnext]
      show r.place _ = r.place _
      congr 1
      calc r.index + (t + (n - t) % (36 - t)) * r.weight +
            (n - t) / (36 - t) * (r.weight * (36 - t))
          = r.index + (t + (n - t) % (36 - t) + (n - t) / (36 - t) * (36 - t)) * r.weight := by
            ring
        _ = r.index + n * r.weight := by rw [hsplit]

theorem digitValue?_of_mem_number {c : Char} {n position bias : Nat}
    (h : c ∈ number n position bias) : (digitValue? c).isSome := by
  induction n using Nat.strongRecOn generalizing position with
  | ind n ih =>
    have hone := one_le_threshold position bias
    have hle := threshold_le position bias
    rw [number] at h
    split at h
    · next hn =>
      rw [List.mem_singleton] at h
      rw [h, digitValue?_digit (by omega)]
      rfl
    · next hn =>
      rcases List.mem_cons.mp h with rfl | h
      · rw [digitValue?_digit (leading_lt n position bias)]
        rfl
      · exact ih _ (Nat.lt_of_le_of_lt (Nat.div_le_self _ _) (by omega)) h

/--
The reader `r` has read what the writer `w` has written. The number that is due next counts the
pairs of position and code point from the reader's to the one of `index` and `point`.
-/
structure Follows (start : Reader) (w : Writer) (r : Reader) (point index : Nat) : Prop where
  read : w.written.foldlM Reader.digit start = some r
  placed : r.text.length = w.placed
  bias : r.bias = w.bias
  first : r.first = w.first
  weight : r.weight = 1
  position : r.position = 36
  begun : r.index = r.begun
  due : r.next * (w.placed + 1) + r.begun + w.delta = point * (w.placed + 1) + index

theorem insertIdx_length_append {α : Type} (a b : List α) (x : α) :
    (a ++ b).insertIdx a.length x = a ++ x :: b := by
  induction a with
  | nil => rfl
  | cons y a ih => simp [ih]

/-- The pairs passed over lead to the place that they were counted for. -/
theorem div_and_mod_of_due {next total point index count : Nat}
    (h : next * count + total = point * count + index) (hi : index < count) :
    next + total / count = point ∧ total % count = index := by
  have hpos : 0 < count := Nat.zero_lt_of_lt hi
  have hsum : total + next * count = index + point * count := by omega
  constructor
  · have hd := congrArg (· / count) hsum
    simp only [Nat.add_mul_div_right _ _ hpos, Nat.div_eq_of_lt hi, Nat.zero_add] at hd
    rw [Nat.add_comm, hd]
  · have hm := congrArg (· % count) hsum
    simp only [Nat.add_mul_mod_self_right, Nat.mod_eq_of_lt hi] at hm
    exact hm

namespace Follows

variable {start r : Reader} {w : Writer} {point index : Nat} {c : Char}

/-- A smaller character is passed over. -/
theorem pass_lt (h : Follows start w r point index) (hc : c.toNat < point) :
    Follows start (w.pass point c) r point (index + 1) := by
  have hdue := h.due
  rw [Writer.pass, if_pos hc]
  exact ⟨h.read, h.placed, h.bias, h.first, h.weight, h.position, h.begun, by dsimp only; omega⟩

/-- A larger character is not there yet. -/
theorem pass_gt (h : Follows start w r point index) (hc : point < c.toNat) :
    Follows start (w.pass point c) r point index := by
  rw [Writer.pass, if_neg (by omega), if_neg (by omega)]
  exact h

/-- The reader puts a character where the writer took it from. -/
theorem pass_eq (h : Follows start w r c.toNat index) (hi : index ≤ w.placed) :
    ∃ s, Follows start (w.pass c.toNat c) s c.toNat (index + 1) ∧
      s.text = r.text.insertIdx index c := by
  have hdue : r.next * (w.placed + 1) + (r.begun + w.delta) =
      c.toNat * (w.placed + 1) + index := by
    rw [← Nat.add_assoc]
    exact h.due
  obtain ⟨hdiv, hmod⟩ := div_and_mod_of_due hdue (Nat.lt_succ_of_le hi)
  have hread : (number w.delta 36 w.bias).foldlM Reader.digit r =
      r.place (r.begun + w.delta) := by
    rw [← h.position, ← h.bias, foldlM_number, h.weight, Nat.mul_one, h.begun]
  have hvalid : c.toNat.isValidChar := c.valid
  have hplace : r.place (r.begun + w.delta) = some
      { next := c.toNat
        index := index + 1
        begun := index + 1
        weight := 1
        position := 36
        bias := adapt w.delta (w.placed + 1) w.first
        first := false
        text := r.text.insertIdx index c } := by
    simp only [Reader.place, h.placed, hdiv, hmod, hvalid, if_true, h.first, Char.ofNat_toNat,
      Nat.add_sub_cancel_left]
  rw [Writer.pass, if_neg (Nat.lt_irrefl _), if_pos rfl]
  have hread' : (w.written ++ number w.delta 36 w.bias).foldlM Reader.digit start =
      r.place (r.begun + w.delta) := by
    rw [List.foldlM_append, h.read, Option.bind_eq_bind, Option.bind_some, hread]
  have hlength : (r.text.insertIdx index c).length = w.placed + 1 := by
    rw [List.length_insertIdx_of_le_length (h.placed.symm ▸ hi), h.placed]
  exact ⟨_, ⟨hread'.trans hplace, hlength, rfl, rfl, rfl, rfl, rfl, rfl⟩, rfl⟩

/-- On its way through a text the reader has placed the characters up to the point, as far as the
writer has come, and those below it behind. -/
theorem foldl_pass (before after : List Char)
    (h : Follows start w r point (before.filter (·.toNat ≤ point)).length)
    (ht : r.text = before.filter (·.toNat ≤ point) ++ after.filter (·.toNat < point)) :
    ∃ s, Follows start (after.foldl (Writer.pass point) w) s point s.text.length ∧
      s.text = (before ++ after).filter (·.toNat ≤ point) := by
  induction after generalizing before w r with
  | nil =>
    rw [List.filter_nil, List.append_nil] at ht
    refine ⟨r, ?_, ?_⟩
    · rw [List.foldl_nil, ht]
      exact h
    · rw [ht, List.append_nil]
  | cons c after ih =>
    have hcut : before ++ c :: after = (before ++ [c]) ++ after := by simp
    rw [List.foldl_cons, hcut]
    rcases Nat.lt_trichotomy c.toNat point with hc | hc | hc
    · refine ih (r := r) (before ++ [c]) ?_ ?_
      · simpa [List.filter_append, hc.le] using h.pass_lt hc
      · simpa [List.filter_append, hc, hc.le] using ht
    · subst hc
      have hplaced := h.placed
      rw [ht, List.length_append] at hplaced
      obtain ⟨s, hs, hst⟩ := h.pass_eq (by omega)
      refine ih (r := s) (before ++ [c]) ?_ ?_
      · simpa [List.filter_append] using hs
      · rw [hst, ht, insertIdx_length_append]
        simp [List.filter_append]
    · refine ih (r := r) (before ++ [c]) ?_ ?_
      · simpa [List.filter_append, hc.not_ge] using h.pass_gt hc
      · simpa [List.filter_append, hc.not_ge, hc.not_gt] using ht

/-- After the round for a point its characters are in place. -/
theorem round {text : List Char} (h : Follows start w r w.next 0) (hn : w.next ≤ point)
    (ht : r.text = text.filter (·.toNat < point)) :
    ∃ s, Follows start (w.round text point) s (point + 1) 0 ∧
      s.text = text.filter (·.toNat < point + 1) := by
  have hdue := h.due
  have hreached : Follows start { w with delta := w.delta + (point - w.next) * (w.placed + 1) } r
      point 0 := by
    refine ⟨h.read, h.placed, h.bias, h.first, h.weight, h.position, h.begun, ?_⟩
    have hmul : w.next * (w.placed + 1) + (point - w.next) * (w.placed + 1) =
        point * (w.placed + 1) := by rw [← Nat.add_mul, Nat.add_sub_cancel' hn]
    dsimp only
    omega
  obtain ⟨s, hs, hst⟩ := hreached.foldl_pass [] text (by simpa using ht)
  have hlast := hs.due
  refine ⟨s, ⟨hs.read, hs.placed, hs.bias, hs.first, hs.weight, hs.position, hs.begun, ?_⟩, ?_⟩
  · have hnext {next begun delta placed : Nat}
        (hd : next * (placed + 1) + begun + delta = point * (placed + 1) + placed) :
        next * (placed + 1) + begun + (delta + 1) = (point + 1) * (placed + 1) + 0 := by
      rw [Nat.add_mul]
      omega
    rw [hs.placed] at hlast
    exact hnext hlast
  · simpa [Nat.lt_succ_iff] using hst

/-- After the rounds for all points the text is in place. -/
theorem foldl_round {text : List Char} (points : List Nat) (h : Follows start w r w.next 0)
    (ht : r.text = text.filter (·.toNat < w.next)) (hs : points.Pairwise (· < ·))
    (hn : ∀ p ∈ points, w.next ≤ p) (hc : ∀ c ∈ text, w.next ≤ c.toNat → c.toNat ∈ points) :
    ∃ s, (points.foldl (Writer.round text) w).written.foldlM Reader.digit start = some s ∧
      s.position = 36 ∧ s.text = text := by
  induction points generalizing w r with
  | nil =>
    refine ⟨r, h.read, h.position, ?_⟩
    rw [ht, List.filter_eq_self]
    intro c hmem
    have hlt : ¬ w.next ≤ c.toNat := fun hle => List.not_mem_nil (hc c hmem hle)
    simpa using hlt
  | cons point points ih =>
    obtain ⟨hless, hsorted⟩ := List.pairwise_cons.mp hs
    have hfirst := hn point List.mem_cons_self
    -- no character lies between the point reached and the next one
    have hgap : text.filter (·.toNat < w.next) = text.filter (·.toNat < point) := by
      apply List.filter_congr
      intro c hmem
      rw [decide_eq_decide]
      constructor
      · omega
      · intro hlt
        by_contra hge
        rcases List.mem_cons.mp (hc c hmem (by omega)) with heq | hlater
        · omega
        · have := hless _ hlater
          omega
    obtain ⟨s, hround, hst⟩ := h.round hfirst (ht.trans hgap)
    refine ih hround hst hsorted (fun p hp => hless p hp) ?_
    intro c hmem hle
    have hnext : (w.round text point).next = point + 1 := rfl
    rw [hnext] at hle
    rcases List.mem_cons.mp (hc c hmem (by omega)) with heq | hlater
    · omega
    · exact hlater

end Follows

theorem pairwise_eraseDups : ∀ {list : List Nat}, list.Pairwise (· ≤ ·) →
    list.eraseDups.Pairwise (· < ·)
  | [], _ => by simp
  | n :: list, h => by
    obtain ⟨hle, hsorted⟩ := List.pairwise_cons.mp h
    rw [List.eraseDups_cons, List.pairwise_cons]
    constructor
    · intro k hk
      obtain ⟨hmem, hne⟩ := List.mem_filter.mp (List.mem_eraseDups.mp hk)
      have := hle k hmem
      have : k ≠ n := by simpa using hne
      omega
    · exact pairwise_eraseDups (hsorted.filter _)
termination_by list => list.length
decreasing_by
  simpa [Nat.lt_succ_iff] using List.length_filter_le _ _

theorem pairwise_points (text : List Char) : (points text).Pairwise (· < ·) :=
  pairwise_eraseDups (List.pairwise_mergeSort' (· ≤ ·) _)

theorem mem_points {text : List Char} {n : Nat} :
    n ∈ points text ↔ 0x80 ≤ n ∧ ∃ c ∈ text, c.toNat = n := by
  simp [points, List.mem_eraseDups, List.mem_mergeSort, and_comm]

def Writer.Numeric (w : Writer) : Prop := ∀ c ∈ w.written, (digitValue? c).isSome

theorem Writer.Numeric.pass {w : Writer} (h : w.Numeric) (point : Nat) (c : Char) :
    (w.pass point c).Numeric := by
  unfold Writer.pass
  split
  · exact h
  · split
    · intro d hd
      rcases List.mem_append.mp hd with hd | hd
      · exact h d hd
      · exact digitValue?_of_mem_number hd
    · exact h

theorem Writer.Numeric.round {w : Writer} (h : w.Numeric) (text : List Char) (point : Nat) :
    (w.round text point).Numeric := by
  have hreached :
      { w with delta := w.delta + (point - w.next) * (w.placed + 1) : Writer }.Numeric := h
  exact List.foldlRecOn text (Writer.pass point) hreached fun _ hw c _ => hw.pass point c

theorem Writer.Numeric.foldl_round {w : Writer} (h : w.Numeric) (text : List Char)
    (points : List Nat) : (points.foldl (Writer.round text) w).Numeric :=
  List.foldlRecOn points (Writer.round text) h fun _ hw point _ => hw.round text point

/-- The numbers have no hyphen, so the last one is the one before them. -/
theorem splitLast_append {basic numbers : List Char}
    (h : ∀ c ∈ numbers, (digitValue? c).isSome) :
    splitLast ((if basic = [] then [] else basic ++ ['-']) ++ numbers) = (basic, numbers) := by
  have hne : ∀ c ∈ numbers.reverse, decide (c ≠ '-') = true := by
    intro c hc
    have hsome := h c (List.mem_reverse.mp hc)
    by_contra heq
    obtain rfl : c = '-' := by simpa using heq
    exact absurd hsome (by decide)
  unfold splitLast
  by_cases hb : basic = []
  · rw [if_pos hb, List.nil_append, hb, List.takeWhile_eq_self_iff.mpr hne]
    simp
  · have htake : (basic ++ ['-'] ++ numbers).take
        ((basic ++ ['-'] ++ numbers).length - numbers.length) = basic ++ ['-'] := by
      rw [List.length_append, Nat.add_sub_cancel, List.take_left]
    have htail : ((basic ++ ['-'] ++ numbers).reverse.takeWhile (· ≠ '-')).reverse = numbers := by
      rw [List.reverse_append, List.takeWhile_append_of_pos hne]
      simp
    rw [if_neg hb]
    simp only [htail, htake, List.dropLast_concat, if_neg hb]

/-- The writer before it has placed any character beyond ASCII. -/
def Writer.start (text : List Char) : Writer :=
  ⟨0x80, 0, 72, (text.filter (·.toNat < 0x80)).length, true, []⟩

/-- The numbers behind the ASCII characters of an encoded text. -/
def numbers (text : List Char) : List Char :=
  ((points text).foldl (Writer.round text) (.start text)).written

theorem encode_eq (text : List Char) : encode text =
    (if text.filter (·.toNat < 0x80) = [] then [] else text.filter (·.toNat < 0x80) ++ ['-']) ++
      numbers text := rfl

theorem isSome_digitValue?_of_mem_numbers {text : List Char} :
    ∀ c ∈ numbers text, (digitValue? c).isSome := by
  have hstart : (Writer.start text).Numeric := nofun
  exact hstart.foldl_round text (points text)

/-- What was written is read back. -/
theorem decode_encode (text : List Char) : decode (encode text) = some text := by
  have hstart : Follows ⟨0x80, 0, 0, 1, 36, 72, true, text.filter (·.toNat < 0x80)⟩ (.start text)
      ⟨0x80, 0, 0, 1, 36, 72, true, text.filter (·.toNat < 0x80)⟩ 0x80 0 :=
    ⟨rfl, rfl, rfl, rfl, rfl, rfl, rfl, rfl⟩
  obtain ⟨s, hread, hposition, htext⟩ := hstart.foldl_round (points text) rfl
    (pairwise_points text) (fun p hp => (mem_points.mp hp).1)
    (fun c hc hle => mem_points.mpr ⟨hle, c, hc, rfl⟩)
  have hnumbers : (numbers text).foldlM Reader.digit
      ⟨0x80, 0, 0, 1, 36, 72, true, text.filter (·.toNat < 0x80)⟩ = some s := hread
  rw [decode, encode_eq, splitLast_append isSome_digitValue?_of_mem_numbers]
  simp [hnumbers, hposition, htext]

/-- A text beyond ASCII has numbers: without them its ASCII characters alone would be read back. -/
theorem numbers_ne_nil {text : List Char} (h : ∃ c ∈ text, 0x80 ≤ c.toNat) : numbers text ≠ [] := by
  intro hnil
  have hread := decode_encode text
  rw [decode, encode_eq, splitLast_append isSome_digitValue?_of_mem_numbers, hnil] at hread
  have hbasic : text.filter (·.toNat < 0x80) = text := by simpa using hread
  obtain ⟨c, hc, hbeyond⟩ := h
  have hascii := List.filter_eq_self.mp hbasic c hc
  rw [decide_eq_true_eq] at hascii
  omega

theorem mem_splitLast {written : List Char} {c : Char} (h : c ∈ written) :
    c = '-' ∨ c ∈ (splitLast written).1 ∨ c ∈ (splitLast written).2 := by
  unfold splitLast
  generalize hnumbers : written.reverse.takeWhile (· ≠ '-') = numbers
  generalize hbefore : written.reverse.dropWhile (· ≠ '-') = before
  have hcut : written = before.reverse ++ numbers.reverse := by
    rw [← List.reverse_append, ← hnumbers, ← hbefore, List.takeWhile_append_dropWhile,
      List.reverse_reverse]
  have htake : written.take (written.length - numbers.reverse.length) = before.reverse := by
    rw [hcut, List.length_append, Nat.add_sub_cancel, List.take_left]
  simp only [htake, List.dropLast_reverse]
  split
  · exact .inr (.inr h)
  · rw [hcut, List.mem_append, List.mem_reverse] at h
    rcases h with h | h
    · cases before with
      | nil => cases h
      | cons d before =>
        have hd : d = '-' := by
          have hhead := List.head?_dropWhile_not (· ≠ '-') written.reverse
          rw [hbefore] at hhead
          simpa using hhead
        rcases List.mem_cons.mp h with rfl | h
        · exact .inl hd
        · exact .inr (.inl (List.mem_reverse.mpr h))
    · exact .inr (.inr h)

theorem Reader.digit_eq_some {r s : Reader} {d : Char} (h : r.digit d = some s) :
    (digitValue? d).isSome ∧ ∀ c ∈ r.text, c ∈ s.text := by
  unfold Reader.digit at h
  obtain ⟨value, hvalue, h⟩ := Option.bind_eq_some_iff.mp h
  refine ⟨by rw [hvalue]; rfl, fun c hc => ?_⟩
  dsimp only at h
  split at h
  · unfold Reader.place at h
    dsimp only at h
    split at h
    · cases h
      exact List.subset_insertIdx _ _ _ hc
    · cases h
  · cases h
    exact hc

theorem Reader.foldlM_digit_eq_some {r s : Reader} {numbers : List Char}
    (h : numbers.foldlM Reader.digit r = some s) :
    (∀ c ∈ numbers, (digitValue? c).isSome) ∧ ∀ c ∈ r.text, c ∈ s.text := by
  induction numbers generalizing r with
  | nil =>
    cases h
    exact ⟨nofun, fun c hc => hc⟩
  | cons d numbers ih =>
    rw [List.foldlM_cons] at h
    obtain ⟨t, ht, h⟩ := Option.bind_eq_some_iff.mp h
    obtain ⟨hdigit, hkept⟩ := digit_eq_some ht
    obtain ⟨hdigits, hrest⟩ := ih h
    exact ⟨List.forall_mem_cons.mpr ⟨hdigit, hdigits⟩, fun c hc => hrest c (hkept c hc)⟩

/-- What is read from a text has all its characters but hyphens and digits. -/
theorem mem_of_decode {written text : List Char} {c : Char} (h : decode written = some text)
    (hc : c ∈ written) : c = '-' ∨ (digitValue? c).isSome ∨ c ∈ text := by
  unfold decode at h
  obtain ⟨s, hs, h⟩ := Option.bind_eq_some_iff.mp h
  obtain ⟨hdigits, hkept⟩ := Reader.foldlM_digit_eq_some hs
  split at h
  · cases h
    rcases mem_splitLast hc with hhyphen | hbasic | hnumber
    · exact .inl hhyphen
    · exact .inr (.inr (hkept c hbasic))
    · exact .inr (.inl (hdigits c hnumber))
  · cases h

end Pageviews.Domain.Punycode
