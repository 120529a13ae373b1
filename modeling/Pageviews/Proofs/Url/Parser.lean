import Mathlib.Data.List.TakeWhile
import Pageviews.Url.Parser

/-! Where a URL is cut: text without marks passes through every cut as it is. -/
namespace Pageviews.Url

variable {host lead rest : List Char} {c mark : Char}

/-- Whether a character of a host is neither a mark of URLs nor cut off or decoded. -/
def isPlain (c : Char) : Bool := 0x20 < c.toNat && !"#%/:?@[\\".toList.contains c

theorem ne_of_isPlain (mark : Char) (h : isPlain c = true) (hmark : isPlain mark = false) :
    c ≠ mark := by
  rintro rfl
  rw [hmark] at h
  cases h

theorem not_mem_of_isPlain (mark : Char) (h : ∀ c ∈ host, isPlain c = true)
    (hmark : isPlain mark = false) :
    mark ∉ host :=
  fun hmem => ne_of_isPlain mark (h mark hmem) hmark rfl

theorem lt_toNat_of_isPlain (h : isPlain c = true) : 0x20 < c.toNat := by
  rw [isPlain, Bool.and_eq_true, decide_eq_true_eq] at h
  exact h.1

theorem exists_dropWhile_append {p : Char → Bool} (hc : p c = false) (text rest : List Char) :
    ∃ kept, (text ++ c :: rest).dropWhile p = kept ++ c :: rest := by
  induction text with
  | nil => exact ⟨[], by simp [hc]⟩
  | cons d text ih =>
    cases hd : p d with
    | false => exact ⟨d :: text, by simp [hd]⟩
    | true =>
      obtain ⟨kept, hkept⟩ := ih
      exact ⟨kept, by simpa [hd] using hkept⟩

/-- What stands at the end alone is cleaned when the text before it has no controls and spaces. -/
theorem exists_clean_append (hlead : ∀ d ∈ lead, 0x20 < d.toNat) (hc : 0x20 < c.toNat)
    (rest : List Char) :
    ∃ kept, clean (lead ++ c :: rest) = lead ++ c :: kept := by
  have hstart : (lead ++ c :: rest).dropWhile (fun d => decide (d.toNat ≤ 0x20)) =
      lead ++ c :: rest := by
    cases lead with
    | nil => simp [Nat.not_le.mpr hc]
    | cons d lead => simp [Nat.not_le.mpr (hlead d List.mem_cons_self)]
  obtain ⟨kept, hkept⟩ := exists_dropWhile_append
    (p := fun d => decide (d.toNat ≤ 0x20)) (by simpa using hc) rest.reverse lead.reverse
  have htrim : Text.trimWhere (fun d => decide (d.toNat ≤ 0x20)) (lead ++ c :: rest) =
      lead ++ c :: kept.reverse := by
    rw [Text.trimWhere, hstart, List.reverse_append, List.reverse_cons, List.append_assoc,
      List.singleton_append, hkept]
    simp
  have hkeeps : ∀ d : Char, 0x20 < d.toNat → (d ≠ '\t' && d ≠ '\n' && d ≠ '\r') = true := by
    intro d hd
    have hne : ∀ e : Char, e.toNat ≤ 0x20 → d ≠ e := by
      rintro e he rfl
      omega
    simp [hne '\t' (by decide), hne '\n' (by decide), hne '\r' (by decide)]
  refine ⟨kept.reverse.filter fun d => d ≠ '\t' && d ≠ '\n' && d ≠ '\r', ?_⟩
  rw [clean, htrim, List.filter_append, List.filter_cons, if_pos (hkeeps c hc),
    List.filter_eq_self.mpr fun d hd => hkeeps d (hlead d hd)]

theorem cutMark_append (h : mark ∉ lead) (rest : List Char) :
    cutMark mark (lead ++ rest) = (lead ++ (cutMark mark rest).1, (cutMark mark rest).2) := by
  unfold cutMark
  rw [Text.cut?_append h]
  cases Text.cut? [mark] rest <;> rfl

theorem exists_cutMark (h : mark ∉ lead) (hc : mark ≠ c) (rest : List Char) :
    ∃ kept after, cutMark mark (lead ++ c :: rest) = (lead ++ c :: kept, after) := by
  have hlead : mark ∉ lead ++ [c] := by simp [h, hc]
  have hcut := cutMark_append hlead rest
  rw [List.append_assoc, List.append_assoc] at hcut
  exact ⟨_, _, hcut⟩

theorem splitCredentials_of_not_mem (h : '@' ∉ host) : splitCredentials host = (none, host) := by
  rw [splitCredentials, Text.cut?_of_not_mem (by simpa using h)]

theorem hostLength_of_not_mem (hcolon : ':' ∉ host) (hbracket : '[' ∉ host) :
    hostLength false host = host.length := by
  induction host with
  | nil => rfl
  | cons c host ih =>
    rw [List.mem_cons, not_or] at hcolon hbracket
    have hrest := ih hcolon.2 hbracket.2
    simp [hostLength, Ne.symm hcolon.1, Ne.symm hbracket.1, hrest, Nat.add_comm]

/-- A host without marks is the name it is an ASCII form of, unless that ends in a number. -/
theorem parseHost_of_isPlain {name : List Char} (h : ∀ c ∈ host, isPlain c = true)
    (hname : Domain.toAscii .urlHost host = some name) (hne : name ≠ [])
    (hnumber : endsInNumber name = false) : parseHost host = .ok (.name name) := by
  have hbracket : host.head? ≠ some '[' := by
    intro hhead
    exact not_mem_of_isPlain '[' h (by decide) (List.mem_of_mem_head? hhead)
  have hpercent : host.contains '%' = false := by
    rw [List.contains_eq_mem, decide_eq_false_iff_not]
    exact not_mem_of_isPlain '%' h (by decide)
  have hdecode : decodeHost host = some host := by
    rw [decodeHost, hpercent]
    rfl
  simp [parseHost, hbracket, hdecode, hname, hne, hnumber]

theorem parseAuthority_of_isPlain {port : Nat} {pathFollows : Bool} {name : List Char}
    (h : ∀ c ∈ host, isPlain c = true) (hhost : host ≠ [])
    (hparse : parseHost host = .ok (.name name)) :
    parseAuthority (.network port) pathFollows host =
      .ok (⟨[], [], some (.name name), none⟩, []) := by
  have hcredentials := splitCredentials_of_not_mem
    (not_mem_of_isPlain '@' h (by decide))
  have hlength := hostLength_of_not_mem (not_mem_of_isPlain ':' h (by decide))
    (not_mem_of_isPlain '[' h (by decide))
  have hany : parseAnyHost (.network port) host = .ok (some (.name name)) := by
    simp [parseAnyHost, SchemeKind.isSpecial, hhost, hparse, Except.map]
  simp [parseAuthority, hcredentials, hlength, hany, hhost, cutMark, Text.cut?, percentEncode]
  rfl

theorem isSeparator_of_isPlain (h : isPlain c = true) : isSeparator true c = false := by
  simp [isSeparator, ne_of_isPlain '/' h (by decide),
    ne_of_isPlain '\\' h (by decide)]

theorem parseHierarchy_of_isPlain {port : Nat} {marked : Bool} {name : List Char}
    (h : ∀ c ∈ host, isPlain c = true) (hhost : host ≠ [])
    (hparse : parseHost host = .ok (.name name)) :
    parseHierarchy (.network port) marked (host ++ '/' :: rest) =
      .ok (⟨[], [], some (.name name), none⟩, (followPath false true rest).toText) := by
  have hinside : ∀ c ∈ host, (!isSeparator true c) = true := by
    intro c hc
    simp [isSeparator_of_isPlain (h c hc)]
  have htake : (host ++ '/' :: rest).takeWhile (!isSeparator true ·) = host := by
    rw [List.takeWhile_append_of_pos hinside]
    simp [isSeparator]
  have hdrop : (host ++ '/' :: rest).dropWhile (!isSeparator true ·) = '/' :: rest := by
    rw [List.dropWhile_append_of_pos hinside]
    simp [isSeparator]
  have hspecial : (SchemeKind.network port).isSpecial = true := rfl
  unfold parseHierarchy
  rw [hspecial]
  simp only [htake, hdrop, parseAuthority_of_isPlain h hhost hparse]
  rfl

/-- A page of a site: its host without marks, and behind a slash whatever text. -/
theorem exists_parse_https {raw : String} {name : List Char}
    (hraw : raw.toList = "https://".toList ++ host ++ '/' :: rest)
    (h : ∀ c ∈ host, isPlain c = true) (hhost : host ≠ [])
    (hname : Domain.toAscii .urlHost host = some name) (hne : name ≠ [])
    (hnumber : endsInNumber name = false) :
    ∃ page, parse raw = .ok page ∧ page.hostText = name := by
  have hparse := parseHost_of_isPlain h hname hne hnumber
  have hlead : ∀ d ∈ "https://".toList ++ host, 0x20 < d.toNat := by
    intro d hd
    rcases List.mem_append.mp hd with hd | hd
    · have hall : "https://".toList.all (fun e => decide (0x20 < e.toNat)) = true := by decide
      exact of_decide_eq_true (List.all_eq_true.mp hall d hd)
    · exact lt_toNat_of_isPlain (h d hd)
  have hmarks : ∀ mark, isPlain mark = false → mark ≠ '/' → mark ∉ "//".toList ++ host := by
    intro mark hmark hslash
    simp [hslash, not_mem_of_isPlain mark h hmark]
  have hscheme (text : List Char) : scheme? ("https://".toList ++ host ++ '/' :: text) =
      some ("https".toList, "//".toList ++ host ++ '/' :: text) := rfl
  have hkind : schemeKind "https".toList = .network 443 := by decide
  have hslashes (text : List Char) :
      ("//".toList ++ host ++ '/' :: text).dropWhile (isSeparator true) = host ++ '/' :: text := by
    cases host with
    | nil => exact absurd rfl hhost
    | cons c host =>
      have hfirst := isSeparator_of_isPlain (h c List.mem_cons_self)
      have hslash : isSeparator true '/' = true := by decide
      simp [hslash, hfirst]
  -- the text behind the host is first cleaned, then cut at a fragment and at a query
  obtain ⟨kept, hclean⟩ := exists_clean_append (c := '/') hlead (by decide) rest
  obtain ⟨beforeHash, fragment, hhash⟩ :=
    exists_cutMark (hmarks '#' (by decide) (by decide)) (c := '/') (by decide) kept
  obtain ⟨beforeQuery, query, hquery⟩ :=
    exists_cutMark (hmarks '?' (by decide) (by decide)) (c := '/') (by decide) beforeHash
  refine ⟨⟨"https".toList, some ⟨[], [], some (.name name), none⟩,
    (followPath false true beforeQuery).toText, query.map (percentEncode (encodesInQuery true)),
    fragment.map (percentEncode encodesInFragment)⟩, ?_, rfl⟩
  unfold parse
  rw [hraw, hclean, hscheme]
  simp only [hkind, hhash, hquery, hslashes, parseHierarchy_of_isPlain h hhost hparse]
  rfl

end Pageviews.Url
