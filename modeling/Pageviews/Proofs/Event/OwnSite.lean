import Pageviews.Event.Pageview
import Pageviews.Event.Referrer
import Pageviews.Proofs.Domain.Spelling
import Pageviews.Proofs.Url.Parser
import Pageviews.Registry

/-! Pages of registered sites: a site is recorded under the domain that its spelling names. -/
namespace Pageviews

open Unicode

namespace Url

def isNumeral (label : List Char) : Bool :=
  label.all Char.isDigit ||
    match label with
    | '0' :: 'x' :: digits => digits.all fun c => (Text.hexValue? c).isSome
    | _ => false

theorem isDigit_of_hexValue? {c : Char} {n : Nat} (h : Text.hexValue? c = some n) (hn : n < 10) :
    c.isDigit = true := by
  unfold Text.hexValue? at h
  simp only [Char.le_def, UInt32.le_iff_toNat_le, Char.toNat_val] at h
  have ha : 'a'.toNat = 97 := rfl
  have hA : 'A'.toNat = 65 := rfl
  split at h
  · next hc => simpa [Char.isDigit, UInt32.le_iff_toNat_le] using hc
  · split at h
    · cases h
      omega
    · split at h
      · cases h
        omega
      · cases h

theorem forall_of_numberInBase? {base : Nat} {digits : List Char}
    (h : (numberInBase? base digits).isSome) :
    ∀ c ∈ digits, ∃ n, Text.hexValue? c = some n ∧ n < base := by
  unfold numberInBase? at h
  generalize 0 = start at h
  induction digits generalizing start with
  | nil => nofun
  | cons c digits ih =>
    rw [List.foldlM_cons] at h
    cases hvalue : Text.hexValue? c with
    | none => simp [hvalue] at h
    | some n =>
      by_cases hn : n < base
      · simp only [hvalue, Option.bind_some, if_pos hn, Option.bind_eq_bind] at h
        rw [List.forall_mem_cons]
        exact ⟨⟨n, hvalue, hn⟩, ih _ h⟩
      · simp [hvalue, hn] at h

theorem all_isDigit_of_numberInBase? {base : Nat} {digits : List Char} (hbase : base ≤ 10)
    (h : (numberInBase? base digits).isSome) : digits.all Char.isDigit = true := by
  rw [List.all_eq_true]
  intro c hc
  obtain ⟨n, hvalue, hn⟩ := forall_of_numberInBase? h c hc
  exact isDigit_of_hexValue? hvalue (by omega)

theorem isNumeral_of_all_isDigit {label : List Char} (h : label.all Char.isDigit = true) :
    isNumeral label = true := by
  unfold isNumeral
  rw [h, Bool.true_or]

/-- What is read as a part of an address is a number, or has a capital letter. -/
theorem isNumeral_of_addressPart? {label : List Char} (h : (addressPart? label).isSome)
    (hcapital : 'X' ∉ label) : isNumeral label = true := by
  unfold addressPart? at h
  split at h
  · rfl
  · next digits =>
    have hall : digits.all (fun c => (Text.hexValue? c).isSome) = true := by
      rw [List.all_eq_true]
      intro c hc
      obtain ⟨n, hvalue, -⟩ := forall_of_numberInBase? h c hc
      rw [hvalue]
      rfl
    rw [isNumeral, hall, Bool.or_true]
  · simp at hcapital
  · have hall := all_isDigit_of_numberInBase? (by decide) h
    apply isNumeral_of_all_isDigit
    rw [List.all_cons, hall]
    rfl
  · exact isNumeral_of_all_isDigit (all_isDigit_of_numberInBase? (by decide) h)

end Url

def Domain.endsInNumeral (d : Domain) : Bool :=
  (Text.split '.' d.name.toList).getLast?.any Url.isNumeral

/-- Such a name is no address. -/
theorem Domain.endsInNumber_name {raw : String} {d : Domain} (h : parse raw = .ok d)
    (hn : d.endsInNumeral = false) : Url.endsInNumber d.name.toList = false := by
  have hlabels := forall_mem_split (parse_eq_ok_iff.mp h)
  unfold endsInNumeral at hn
  unfold Url.endsInNumber Url.hostParts
  cases hlast : (Text.split '.' d.name.toList).getLast? with
  | none => exact absurd (List.getLast?_eq_none_iff.mp hlast) Text.split_ne_nil
  | some label =>
    obtain ⟨hlow, -, hhost⟩ := hlabels label (List.mem_of_getLast? hlast)
    have hnumeral : Url.isNumeral label = false := by simpa [hlast] using hn
    have hne : label ≠ [] := List.ne_nil_of_length_pos hlow
    have hcapital : 'X' ∉ label := fun hmem => absurd (hhost 'X' hmem) (by decide)
    have haddress : (Url.addressPart? label).isSome = false := by
      rw [Bool.eq_false_iff] at hnumeral ⊢
      exact fun hsome => hnumeral (Url.isNumeral_of_addressPart? hsome hcapital)
    have hdecimal : label.all Char.isDigit = false := by
      rw [Bool.eq_false_iff] at hnumeral ⊢
      exact fun hall => hnumeral (Url.isNumeral_of_all_isDigit hall)
    simp [hlast, hne, haddress, hdecimal]

theorem Domain.ne_nil_of_toAscii {spelling name : List Char}
    (h : toAscii .registered spelling = some name) : spelling ≠ [] := by
  rintro rfl
  have hnone : toAscii .registered [] = none := rfl
  rw [hnone] at h
  cases h

/-- A spelling of a domain has no marks of URLs. -/
theorem Domain.isPlain_of_mem {spelling name : List Char}
    (h : toAscii .registered spelling = some name) :
    ∀ c ∈ spelling, Url.isPlain c = true := by
  intro c hc
  have hmarks : "#%/:?@[\\".toList.all (fun d => decide (d.toNat < 0x80 ∧
      beginsComposite d = false ∧ isHostChar d = false ∧ d ≠ '.')) = true := by decide
  have hcontrols : ∀ n ∈ List.range 0x21, beginsComposite (Char.ofNat n) = false ∧
      isHostChar (Char.ofNat n) = false ∧ Char.ofNat n ≠ '.' := by decide
  have hforeign : c.toNat < 0x80 → beginsComposite c = false → isHostChar c = false → c ≠ '.' →
      False := by
    intro hascii hb hhost hdot
    rcases isHostChar_of_mem_spelling h hc hascii hb with htrue | heq
    · rw [hhost] at htrue
      cases htrue
    · exact hdot heq
  rw [Url.isPlain, Bool.and_eq_true, decide_eq_true_eq, Bool.not_eq_true']
  constructor
  · by_contra hle
    have hmem : c.toNat ∈ List.range 0x21 := List.mem_range.mpr (by omega)
    have hc' := hcontrols _ hmem
    rw [Char.ofNat_toNat] at hc'
    exact hforeign (by omega) hc'.1 hc'.2.1 hc'.2.2
  · rw [List.contains_eq_mem, decide_eq_false_iff_not]
    intro hmem
    obtain ⟨hascii, hb, hhost, hdot⟩ := of_decide_eq_true (List.all_eq_true.mp hmarks c hmem)
    exact hforeign hascii hb hhost hdot

/-- The pages of a site are recorded under the domain that its spelling names, and it is the domain
that visitors come from. A registry that lists the domain in any spelling knows it. -/
theorem own_pages {raw : String} {d : Domain} (h : Domain.parse raw = .ok d)
    (hn : d.endsInNumeral = false) (path : String) :
    ∃ page, Url.parse ("https://" ++ raw ++ "/" ++ path) = .ok page ∧
      (∀ time client, ∃ p, Pageview.record time page client = .ok p ∧ p.domain = d) ∧
      Referrer.parse ("https://" ++ raw ++ "/" ++ path) = .ok (.site d) ∧
      ∀ sources domains, Registry.parseList sources = .ok domains →
        ∀ entry ∈ Registry.entries sources, Domain.parse entry = .ok d →
          (Registry.ofList domains).isRegistered d = true := by
  have hname := Domain.parse_eq_ok_iff.mp h
  have hself := Domain.toAscii_self hname
  have htext : ("https://" ++ raw ++ "/" ++ path).toList =
      "https://".toList ++ raw.toList ++ '/' :: path.toList := by
    simp [String.toList_append]
  obtain ⟨page, hparse, hhost⟩ := Url.exists_parse_https htext (Domain.isPlain_of_mem hname)
    (Domain.ne_nil_of_toAscii hname) (Domain.toAscii_urlHost hname) (Domain.ne_nil_of_toAscii hself)
    (Domain.endsInNumber_name h hn)
  have hdomain : Domain.parse (String.ofList page.hostText) = .ok d := by
    rw [hhost, String.ofList_toList]
    exact Domain.parse_eq_ok_iff.mpr hself
  refine ⟨page, hparse, ?_, ?_, ?_⟩
  · intro time client
    rw [Pageview.record, hdomain]
    exact ⟨_, rfl, rfl⟩
  · have hne : "https://" ++ raw ++ "/" ++ path ≠ "" := by
      intro hempty
      rw [hempty] at htext
      cases htext
    rw [Referrer.parse, if_neg hne, hparse]
    simp only [hdomain]
  · intro sources domains hsources entry hentry hspelling
    rw [Registry.isRegistered_ofList, Registry.mem_of_parseList hsources]
    exact ⟨entry, hentry, hspelling⟩

theorem own_pages_shop : Domain.parse "Shop.Example" = .ok ⟨"shop.example"⟩ ∧
    Domain.endsInNumeral ⟨"shop.example"⟩ = false ∧
    Referrer.parse ("https://" ++ "Shop.Example" ++ "/" ++ "cart?id=7#top") =
      .ok (.site ⟨"shop.example"⟩) ∧
    (Registry.ofList [⟨"mysite.org"⟩, ⟨"shop.example"⟩]).isRegistered ⟨"shop.example"⟩ = true := by
  have h : Domain.parse "Shop.Example" = .ok ⟨"shop.example"⟩ := rfl
  have hn : Domain.endsInNumeral ⟨"shop.example"⟩ = false := by decide
  obtain ⟨page, -, -, hreferrer, hregistered⟩ := own_pages h hn "cart?id=7#top"
  have hentries :
      Registry.entries "mysite.org, SHOP.example" = ["mysite.org", "SHOP.example"] := rfl
  refine ⟨h, hn, hreferrer, hregistered "mysite.org, SHOP.example" _ rfl "SHOP.example" ?_ rfl⟩
  rw [hentries]
  exact List.mem_of_getLast? rfl

end Pageviews
