import Mathlib.Data.List.Basic
import Pageviews.Text.Utf8

/-! Text as bytes and back. Main statement: bytes are read as a text if they are the bytes of it. -/
namespace Pageviews.Text

variable {bytes rest : List UInt8} {text : List Char} {c : Char} {b : UInt8} {n : Nat}

theorem utf8_cons (c : Char) (text : List Char) :
    utf8 (c :: text) = String.utf8EncodeChar c ++ utf8 text := rfl

theorem toNat_lt (c : Char) : c.toNat < 0x110000 := by
  rcases c.valid with h | h
  · have : c.toNat < 0xD800 := h
    omega
  · exact h.2

theorem charFrom?_eq_some_iff {least : Nat} :
    charFrom? least n = some c ↔ c.toNat = n ∧ least ≤ n := by
  unfold charFrom?
  constructor
  · intro h
    split at h
    · next hn =>
      cases h
      have hchar : (Char.ofNat n).toNat = n := by
        rw [Char.ofNat, dif_pos hn.2]
        rfl
      exact ⟨hchar, hn.1⟩
    · cases h
  · rintro ⟨rfl, hn⟩
    rw [if_pos ⟨hn, c.valid⟩, Char.ofNat_toNat]

theorem continuation?_eq_some_iff :
    continuation? b = some n ↔ b.toNat = 0x80 + n ∧ n < 0x40 := by
  have hlow : 0x80 ≤ b ↔ 0x80 ≤ b.toNat := UInt8.le_iff_toNat_le
  have hhigh : b < 0xC0 ↔ b.toNat < 0xC0 := UInt8.lt_iff_toNat_lt
  unfold continuation?
  constructor
  · intro h
    split at h
    · next hb =>
      have hleast := hlow.mp hb.1
      have hmost := hhigh.mp hb.2
      rw [Option.some.injEq] at h
      omega
    · cases h
  · rintro ⟨hb, hn⟩
    have hvalue : b.toNat - 0x80 = n := by omega
    rw [if_pos ⟨hlow.mpr (by omega), hhigh.mpr (by omega)⟩, hvalue]

/-- The ranges of first bytes, by their numbers. -/
theorem first_iff (a : UInt8) : (a < 0x80 ↔ a.toNat < 0x80) ∧
    (0xC0 ≤ a ∧ a < 0xE0 ↔ 0xC0 ≤ a.toNat ∧ a.toNat < 0xE0) ∧
    (0xE0 ≤ a ∧ a < 0xF0 ↔ 0xE0 ≤ a.toNat ∧ a.toNat < 0xF0) ∧ (0xF0 ≤ a ↔ 0xF0 ≤ a.toNat) :=
  ⟨UInt8.lt_iff_toNat_lt, and_congr UInt8.le_iff_toNat_le UInt8.lt_iff_toNat_lt,
    and_congr UInt8.le_iff_toNat_le UInt8.lt_iff_toNat_lt, UInt8.le_iff_toNat_le⟩

/-- The bytes of a character: a first one by which their number is known, and six bits in each of
the others. -/
inductive Encoded (c : Char) : List UInt8 → Prop where
  | one {a : UInt8} (hc : c.toNat < 0x80) (ha : a.toNat = c.toNat) : Encoded c [a]
  | two {a b : UInt8} (hc : 0x80 ≤ c.toNat ∧ c.toNat < 0x800)
      (ha : a.toNat = 0xC0 + c.toNat / 0x40) (hb : continuation? b = some (c.toNat % 0x40)) :
      Encoded c [a, b]
  | three {a b d : UInt8} (hc : 0x800 ≤ c.toNat ∧ c.toNat < 0x10000)
      (ha : a.toNat = 0xE0 + c.toNat / 0x1000)
      (hb : continuation? b = some (c.toNat / 0x40 % 0x40))
      (hd : continuation? d = some (c.toNat % 0x40)) : Encoded c [a, b, d]
  | four {a b d e : UInt8} (hc : 0x10000 ≤ c.toNat) (ha : a.toNat = 0xF0 + c.toNat / 0x40000)
      (hb : continuation? b = some (c.toNat / 0x1000 % 0x40))
      (hd : continuation? d = some (c.toNat / 0x40 % 0x40))
      (he : continuation? e = some (c.toNat % 0x40)) : Encoded c [a, b, d, e]

theorem encoded_utf8EncodeChar (c : Char) : Encoded c (String.utf8EncodeChar c) := by
  have hval : c.val.toNat = c.toNat := rfl
  have hlast := toNat_lt c
  have hbyte (n : Nat) (h : n < 0x100) : (UInt8.ofNat n).toNat = n := by
    rw [UInt8.toNat_ofNat']
    exact Nat.mod_eq_of_lt h
  have hmore (n : Nat) (h : n < 0x40) : continuation? (UInt8.ofNat (n + 0x80)) = some n := by
    rw [continuation?_eq_some_iff, hbyte _ (by omega)]
    omega
  unfold String.utf8EncodeChar
  simp only [hval]
  by_cases hone : c.toNat ≤ 0x7F
  · rw [if_pos hone]
    exact .one (by omega) (hbyte _ (by omega))
  rw [if_neg hone]
  by_cases htwo : c.toNat ≤ 0x7FF
  · rw [if_pos htwo]
    refine .two (by omega) ?_ (hmore _ (by omega))
    rw [hbyte _ (by omega)]
    omega
  rw [if_neg htwo]
  by_cases hthree : c.toNat ≤ 0xFFFF
  · rw [if_pos hthree]
    refine .three (by omega) ?_ (hmore _ (by omega)) (hmore _ (by omega))
    rw [hbyte _ (by omega)]
    omega
  rw [if_neg hthree]
  refine .four (by omega) ?_ (hmore _ (by omega)) (hmore _ (by omega)) (hmore _ (by omega))
  rw [hbyte _ (by omega)]
  omega

/-- A character has no other bytes. -/
theorem Encoded.eq_utf8EncodeChar (h : Encoded c bytes) : bytes = String.utf8EncodeChar c := by
  have heq {b d : UInt8} {n : Nat} (hb : continuation? b = some n)
      (hd : continuation? d = some n) : b = d := by
    rw [continuation?_eq_some_iff] at hb hd
    exact UInt8.toNat_inj.mp (by omega)
  have hself := encoded_utf8EncodeChar c
  generalize String.utf8EncodeChar c = own at hself
  cases h with
  | one hc ha =>
    cases hself with
    | one _ ha' => rw [UInt8.toNat_inj.mp (ha.trans ha'.symm)]
    | two => omega
    | three => omega
    | four => omega
  | two hc ha hb =>
    cases hself with
    | one => omega
    | two _ ha' hb' => rw [UInt8.toNat_inj.mp (ha.trans ha'.symm), heq hb hb']
    | three => omega
    | four => omega
  | three hc ha hb hd =>
    cases hself with
    | one => omega
    | two => omega
    | three _ ha' hb' hd' =>
      rw [UInt8.toNat_inj.mp (ha.trans ha'.symm), heq hb hb', heq hd hd']
    | four => omega
  | four hc ha hb hd he =>
    cases hself with
    | one => omega
    | two => omega
    | three => omega
    | four _ ha' hb' hd' he' =>
      rw [UInt8.toNat_inj.mp (ha.trans ha'.symm), heq hb hb', heq hd hd', heq he he']

/-- The bytes of ASCII characters are no parts of others. -/
theorem Encoded.toNat_eq (h : Encoded c bytes) (hb : b ∈ bytes) (hascii : b.toNat < 0x80) :
    b.toNat = c.toNat := by
  have hhigh {d : UInt8} {n : Nat} (hd : continuation? d = some n) : 0x80 ≤ d.toNat := by
    rw [continuation?_eq_some_iff] at hd
    omega
  cases h with
  | one _ ha =>
    rw [List.mem_singleton.mp hb, ha]
  | two _ ha hb' =>
    have := hhigh hb'
    simp only [List.mem_cons, List.not_mem_nil, or_false] at hb
    rcases hb with rfl | rfl <;> omega
  | three _ ha hb' hd =>
    have := hhigh hb'
    have := hhigh hd
    simp only [List.mem_cons, List.not_mem_nil, or_false] at hb
    rcases hb with rfl | rfl | rfl <;> omega
  | four _ ha hb' hd he =>
    have := hhigh hb'
    have := hhigh hd
    have := hhigh he
    simp only [List.mem_cons, List.not_mem_nil, or_false] at hb
    rcases hb with rfl | rfl | rfl | rfl <;> omega

theorem mem_of_mem_utf8 (h : b ∈ utf8 text) (hascii : b.toNat < 0x80) :
    Char.ofNat b.toNat ∈ text := by
  obtain ⟨c, hc, hmem⟩ := List.mem_flatMap.mp h
  rwa [(encoded_utf8EncodeChar c).toNat_eq hmem hascii, Char.ofNat_toNat]

/-- The bytes of a character are read as it, and reading goes on behind them. -/
theorem Encoded.ofUtf8?_append (h : Encoded c bytes) (rest : List UInt8) :
    ofUtf8? (bytes ++ rest) = (ofUtf8? rest).map (c :: ·) := by
  have hlast := toNat_lt c
  rw [ofUtf8?.eq_def]
  cases h with
  | @one a hc ha =>
    obtain ⟨hone, -⟩ := first_iff a
    simp only [List.cons_append, List.nil_append, if_pos (hone.mpr (by omega)), ha,
      Char.ofNat_toNat]
  | @two a b hc ha hb =>
    obtain ⟨hone, htwo, -⟩ := first_iff a
    have hchar : charFrom? 0x80 ((a.toNat - 0xC0) * 0x40 + c.toNat % 0x40) = some c :=
      charFrom?_eq_some_iff.mpr (by omega)
    simp only [List.cons_append, List.nil_append, if_neg (mt hone.mp (by omega)),
      if_pos (htwo.mpr (by omega)), hb, hchar, Option.bind_eq_bind, Option.bind_some]
    cases ofUtf8? rest <;> rfl
  | @three a b d hc ha hb hd =>
    obtain ⟨hone, htwo, hthree, -⟩ := first_iff a
    have hchar : charFrom? 0x800 ((a.toNat - 0xE0) * 0x1000 + c.toNat / 0x40 % 0x40 * 0x40 +
        c.toNat % 0x40) = some c := charFrom?_eq_some_iff.mpr (by omega)
    simp only [List.cons_append, List.nil_append, if_neg (mt hone.mp (by omega)),
      if_neg (mt htwo.mp (by omega)), if_pos (hthree.mpr (by omega)), hb, hd, hchar,
      Option.bind_eq_bind, Option.bind_some]
    cases ofUtf8? rest <;> rfl
  | @four a b d e hc ha hb hd he =>
    obtain ⟨hone, htwo, hthree, hfour⟩ := first_iff a
    have hchar : charFrom? 0x10000 ((a.toNat - 0xF0) * 0x40000 + c.toNat / 0x1000 % 0x40 * 0x1000 +
        c.toNat / 0x40 % 0x40 * 0x40 + c.toNat % 0x40) = some c :=
      charFrom?_eq_some_iff.mpr (by omega)
    simp only [List.cons_append, List.nil_append, if_neg (mt hone.mp (by omega)),
      if_neg (mt htwo.mp (by omega)), if_neg (mt hthree.mp (by omega)),
      if_pos (hfour.mpr (by omega)), hb, hd, he]
    rw [Option.bind_eq_bind, Option.bind_some, Option.bind_some, Option.bind_some, hchar]
    cases ofUtf8? rest <;> rfl

theorem Encoded.append_eq (h : Encoded c bytes) (htext : rest = utf8 text) :
    bytes ++ rest = utf8 (c :: text) := by
  rw [utf8_cons, h.eq_utf8EncodeChar, htext]

/-- Bytes are read as a text if they are the bytes of it. -/
theorem ofUtf8?_eq_some_iff : ofUtf8? bytes = some text ↔ bytes = utf8 text := by
  constructor
  · intro h
    fun_induction ofUtf8? bytes generalizing text with
    | case1 =>
      cases h
      rfl
    | case2 a rest hone ih =>
      obtain ⟨tail, htail, rfl⟩ := Option.map_eq_some_iff.mp h
      have hvalue : a.toNat < 0x80 := (first_iff a).1.mp hone
      have hchar : charFrom? 0 a.toNat = some (Char.ofNat a.toNat) :=
        if_pos ⟨Nat.zero_le _, .inl (by omega)⟩
      obtain ⟨hc, -⟩ := charFrom?_eq_some_iff.mp hchar
      exact (Encoded.one (by omega) hc.symm).append_eq (ih htail)
    | case3 a hone htwo b rest ih =>
      obtain ⟨y, hb, h⟩ := Option.bind_eq_some_iff.mp h
      obtain ⟨c, hc, h⟩ := Option.bind_eq_some_iff.mp h
      obtain ⟨tail, htail, h⟩ := Option.bind_eq_some_iff.mp h
      cases h
      have hvalue := (first_iff a).2.1.mp htwo
      obtain ⟨hc, hleast⟩ := charFrom?_eq_some_iff.mp hc
      obtain ⟨-, hy⟩ := continuation?_eq_some_iff.mp hb
      have hlast : y = c.toNat % 0x40 := by omega
      exact (Encoded.two (by omega) (by omega) (hlast ▸ hb)).append_eq (ih htail)
    | case4 => cases h
    | case5 a hone htwo hthree b d rest ih =>
      obtain ⟨y, hb, h⟩ := Option.bind_eq_some_iff.mp h
      obtain ⟨z, hd, h⟩ := Option.bind_eq_some_iff.mp h
      obtain ⟨c, hc, h⟩ := Option.bind_eq_some_iff.mp h
      obtain ⟨tail, htail, h⟩ := Option.bind_eq_some_iff.mp h
      cases h
      have hvalue := (first_iff a).2.2.1.mp hthree
      obtain ⟨hc, hleast⟩ := charFrom?_eq_some_iff.mp hc
      obtain ⟨-, hy⟩ := continuation?_eq_some_iff.mp hb
      obtain ⟨-, hz⟩ := continuation?_eq_some_iff.mp hd
      have hmiddle : y = c.toNat / 0x40 % 0x40 := by omega
      have hlast : z = c.toNat % 0x40 := by omega
      exact (Encoded.three (by omega) (by omega) (hmiddle ▸ hb) (hlast ▸ hd)).append_eq (ih htail)
    | case6 => cases h
    | case7 a hone htwo hthree hfour b d e rest ih =>
      obtain ⟨y, hb, h⟩ := Option.bind_eq_some_iff.mp h
      obtain ⟨z, hd, h⟩ := Option.bind_eq_some_iff.mp h
      obtain ⟨w, he, h⟩ := Option.bind_eq_some_iff.mp h
      obtain ⟨c, hc, h⟩ := Option.bind_eq_some_iff.mp h
      obtain ⟨tail, htail, h⟩ := Option.bind_eq_some_iff.mp h
      cases h
      have hvalue := (first_iff a).2.2.2.mp hfour
      obtain ⟨hc, hleast⟩ := charFrom?_eq_some_iff.mp hc
      obtain ⟨-, hy⟩ := continuation?_eq_some_iff.mp hb
      obtain ⟨-, hz⟩ := continuation?_eq_some_iff.mp hd
      obtain ⟨-, hw⟩ := continuation?_eq_some_iff.mp he
      have hsecond : y = c.toNat / 0x1000 % 0x40 := by omega
      have hthird : z = c.toNat / 0x40 % 0x40 := by omega
      have hlast : w = c.toNat % 0x40 := by omega
      have hown : Encoded c [a, b, d, e] :=
        .four (by omega) (by omega) (hsecond ▸ hb) (hthird ▸ hd) (hlast ▸ he)
      exact hown.append_eq (ih htail)
    | case8 => cases h
    | case9 => cases h
  · rintro rfl
    induction text with
    | nil => rfl
    | cons c text ih =>
      rw [utf8_cons, (encoded_utf8EncodeChar c).ofUtf8?_append, ih, Option.map_some]

end Pageviews.Text
