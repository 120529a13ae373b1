import Mathlib.Tactic.ByContra
import Pageviews.Http.Service
import Pageviews.Proofs.Http.Visit

/-! What can be wrong with a report, in the order in which it is looked for. Main statement: a
report that is refused before it reaches the writer is refused for the first fault that it has. -/
namespace Pageviews.Http

namespace Request

/-- A header says something if its first value does, and has visible ASCII characters, spaces and
tabs only. -/
structure Says (r : Request) (name value : String) : Prop where
  first : ∃ before after, r.headers = before ++ (name, value) :: after ∧ ∀ h ∈ before, h.1 ≠ name
  readable : ∀ c ∈ value.toList, c = '\t' ∨ 0x20 ≤ c.toNat ∧ c.toNat < 0x7F

theorem header?_eq_some_iff {r : Request} {name value : String} :
    r.header? name = some value ↔ r.Says name value := by
  have hreadable : isReadable value = true ↔
      ∀ c ∈ value.toList, c = '\t' ∨ 0x20 ≤ c.toNat ∧ c.toNat < 0x7F := by
    simp only [isReadable, List.all_eq_true, Bool.or_eq_true, Bool.and_eq_true, decide_eq_true_eq]
    rfl
  have hfirst : r.headers.lookup name = some value ↔
      ∃ before after, r.headers = before ++ (name, value) :: after ∧ ∀ h ∈ before, h.1 ≠ name := by
    rw [List.lookup_eq_some_iff]
    simp only [bne_iff_ne, ne_comm]
  rw [header?, Option.filter_eq_some_iff, hreadable, hfirst]
  exact ⟨fun h => ⟨h.1, h.2⟩, fun h => ⟨h.first, h.readable⟩⟩

theorem Says.unique {r : Request} {name value other : String} (h : r.Says name value)
    (h' : r.Says name other) : value = other := by
  rw [← header?_eq_some_iff] at h h'
  exact Option.some.inj (h.symm.trans h')

/-- The page that a request names: the tracker's header says it or, if that says nothing, the
browser's. -/
def NamesPage (r : Request) (raw : String) : Prop :=
  r.Says "x-prisme-referrer" raw ∨
    (∀ other, ¬ r.Says "x-prisme-referrer" other) ∧ r.Says "referer" raw

theorem namesPage_iff {r : Request} {raw : String} :
    r.NamesPage raw ↔ (r.header? "x-prisme-referrer").or (r.header? "referer") = some raw := by
  simp only [NamesPage, ← header?_eq_some_iff, Option.or_eq_some_iff,
    Option.eq_none_iff_forall_ne_some]

theorem NamesPage.unique {r : Request} {raw other : String} (h : r.NamesPage raw)
    (h' : r.NamesPage other) : raw = other := by
  rw [namesPage_iff] at h h'
  exact Option.some.inj (h.symm.trans h')

theorem pageUrl?_eq_some_iff {r : Request} {raw : String} :
    pageUrl? r = some raw ↔ r.NamesPage raw ∧ raw ≠ "" := by
  rw [pageUrl?, Option.filter_eq_some_iff, namesPage_iff, decide_eq_true_eq]

def NamesSite (r : Request) (domain : Domain) : Prop :=
  ∃ raw page, r.NamesPage raw ∧ Url.parse raw = .ok page ∧
    Domain.parse (String.ofList page.hostText) = .ok domain

theorem NamesSite.unique {r : Request} {domain other : Domain} (h : r.NamesSite domain)
    (h' : r.NamesSite other) : domain = other := by
  obtain ⟨raw, page, hraw, hpage, hdomain⟩ := h
  obtain ⟨raw', page', hraw', hpage', hdomain'⟩ := h'
  rw [hraw'.unique hraw, hpage, Except.ok.injEq] at hpage'
  rw [← hpage', hdomain, Except.ok.injEq] at hdomain'
  exact hdomain'

namespace Names

variable {r : Request} {raw : String} {page : Url} {referrer : Referrer}

theorem namesPage (h : r.Names raw page referrer) : r.NamesPage raw :=
  (pageUrl?_eq_some_iff.mp h.url).1

theorem namesSite (h : r.Names raw page referrer) {domain : Domain}
    (hdomain : Domain.parse (String.ofList page.hostText) = .ok domain) : r.NamesSite domain :=
  ⟨raw, page, h.namesPage, h.page, hdomain⟩

end Names

end Request

/-- What is said against a report, and the place of this among all that is looked for. -/
structure Complaint where
  place : Nat
  status : Nat
  message : String

structure Rejection.Tells (rejection : Rejection) (c : Complaint) : Prop where
  status : rejection.status = c.status
  message : rejection.message = c.message

inductive Service.Fault (s : Service) (r : Request) : Complaint → Prop where
  | noPage (h : ∀ raw, r.NamesPage raw → raw = "") : Fault s r ⟨0, 400, "missing page URL"⟩
  | badPage {raw : String} {cause : Url.ParseError} (h : r.NamesPage raw)
      (hpage : Url.parse raw = .error cause) :
      Fault s r ⟨1, 400, "invalid page URL: " ++ cause.message⟩
  | badReferrer {raw : String} {cause : ReferrerError} (h : r.Says "x-prisme-document-referrer" raw)
      (hne : raw ≠ "") (hreferrer : Referrer.parse raw = .error cause) :
      Fault s r ⟨2, 400, "invalid document referrer: " ++ cause.message⟩
  | badHost {raw : String} {page : Url} {cause : InvalidDomain} (h : r.NamesPage raw)
      (hpage : Url.parse raw = .ok page)
      (hdomain : Domain.parse (String.ofList page.hostText) = .error cause) :
      Fault s r ⟨3, 400, cause.message⟩
  | lookupFailed {domain : Domain} {cause : String} (h : r.NamesSite domain)
      (hlookup : s.lookup domain = .error cause) :
      Fault s r ⟨4, 500, "failed to check source registration"⟩
  | unregistered {domain : Domain} (h : r.NamesSite domain)
      (hlookup : s.lookup domain = .ok false) :
      Fault s r ⟨5, 400, "source " ++ domain.name ++ " is not registered"⟩
  | closed (h : s.writer.isClosed = true) : Fault s r ⟨6, 500, "pageview writer is closed"⟩

namespace Service

variable {s : Service} {r : Request} {c d : Complaint} {k : Nat} {raw : String} {page : Url}
  {domain : Domain}

/-- A report has none of the faults that are looked for before a place. -/
def Passes (s : Service) (r : Request) (k : Nat) : Prop := ∀ c, s.Fault r c → k ≤ c.place

structure IsFirst (s : Service) (r : Request) (c : Complaint) : Prop where
  fault : s.Fault r c
  passes : s.Passes r c.place

/-- There is one complaint at each place. -/
theorem Fault.eq_of_place (hc : s.Fault r c) (hd : s.Fault r d) (h : c.place = d.place) :
    c = d := by
  cases hc with
  | noPage => cases hd with
    | noPage => rfl
    | _ => cases h
  | badPage hraw hpage => cases hd with
    | badPage hraw' hpage' =>
      rw [hraw.unique hraw', hpage'] at hpage
      cases hpage
      rfl
    | _ => cases h
  | badReferrer htold _ hreferrer => cases hd with
    | badReferrer htold' _ hreferrer' =>
      rw [htold.unique htold', hreferrer'] at hreferrer
      cases hreferrer
      rfl
    | _ => cases h
  | badHost hraw hpage hdomain => cases hd with
    | badHost hraw' hpage' hdomain' =>
      rw [hraw.unique hraw', hpage', Except.ok.injEq] at hpage
      rw [← hpage, hdomain'] at hdomain
      cases hdomain
      rfl
    | _ => cases h
  | lookupFailed => cases hd with
    | lookupFailed => rfl
    | _ => cases h
  | unregistered hsite => cases hd with
    | unregistered hsite' => rw [hsite.unique hsite']
    | _ => cases h
  | closed => cases hd with
    | closed => rfl
    | _ => cases h

theorem IsFirst.unique (hc : s.IsFirst r c) (hd : s.IsFirst r d) : c = d :=
  hc.fault.eq_of_place hd.fault
    (Nat.le_antisymm (hc.passes d hd.fault) (hd.passes c hc.fault))

namespace Passes

theorem zero (s : Service) (r : Request) : s.Passes r 0 := fun c _ => Nat.zero_le c.place

theorem next (h : s.Passes r k) (hk : ∀ c, s.Fault r c → c.place ≠ k) : s.Passes r (k + 1) :=
  fun c hc => Nat.lt_of_le_of_ne (h c hc) (hk c hc).symm

theorem named (h : s.Passes r 0) (hraw : r.NamesPage raw) (hne : raw ≠ "") : s.Passes r 1 := by
  refine h.next fun c hc hplace => ?_
  cases hc with
  | noPage hnone => exact hne (hnone raw hraw)
  | _ => cases hplace

theorem parsed (h : s.Passes r 1) (hraw : r.NamesPage raw) (hpage : Url.parse raw = .ok page) :
    s.Passes r 2 := by
  refine h.next fun c hc hplace => ?_
  cases hc with
  | badPage hraw' hbad =>
    rw [hraw'.unique hraw, hpage] at hbad
    cases hbad
  | _ => cases hplace

theorem referred (h : s.Passes r 2) {referrer : Referrer}
    (hreferrer : Referrer.parse ((r.header? "x-prisme-document-referrer").getD "") = .ok referrer) :
    s.Passes r 3 := by
  refine h.next fun c hc hplace => ?_
  cases hc with
  | badReferrer htold _ hbad =>
    rw [Request.header?_eq_some_iff.mpr htold, Option.getD_some, hbad] at hreferrer
    cases hreferrer
  | _ => cases hplace

theorem hosted (h : s.Passes r 3) (hraw : r.NamesPage raw) (hpage : Url.parse raw = .ok page)
    (hdomain : Domain.parse (String.ofList page.hostText) = .ok domain) : s.Passes r 4 := by
  refine h.next fun c hc hplace => ?_
  cases hc with
  | badHost hraw' hpage' hbad =>
    rw [hraw'.unique hraw, hpage, Except.ok.injEq] at hpage'
    rw [← hpage', hdomain] at hbad
    cases hbad
  | _ => cases hplace

theorem lookedUp (h : s.Passes r 4) (hsite : r.NamesSite domain) {registered : Bool}
    (hlookup : s.lookup domain = .ok registered) : s.Passes r 5 := by
  refine h.next fun c hc hplace => ?_
  cases hc with
  | lookupFailed hsite' hbad =>
    rw [hsite'.unique hsite, hlookup] at hbad
    cases hbad
  | _ => cases hplace

theorem registered (h : s.Passes r 5) (hsite : r.NamesSite domain)
    (hlookup : s.lookup domain = .ok true) : s.Passes r 6 := by
  refine h.next fun c hc hplace => ?_
  cases hc with
  | unregistered hsite' hbad =>
    rw [hsite'.unique hsite, hlookup] at hbad
    cases hbad
  | _ => cases hplace

/-- Behind a writer that is open there is nothing more to look for. -/
theorem sound (h : s.Passes r 6) (hopen : s.writer.isClosed = false) : ¬ s.Fault r c := by
  intro hc
  have hlast := h c hc
  cases hc with
  | closed hclosed =>
    rw [hopen] at hclosed
    cases hclosed
  | _ => simp at hlast

/-- Whose page and referrer are read has no fault in these. -/
theorem of_names {referrer : Referrer} (h : r.Names raw page referrer) : s.Passes r 3 := by
  obtain ⟨hraw, hne⟩ := Request.pageUrl?_eq_some_iff.mp h.url
  exact (((zero s r).named hraw hne).parsed hraw h.page).referred h.referrer

theorem of_domain {referrer : Referrer} (h : r.Names raw page referrer)
    (hdomain : Domain.parse (String.ofList page.hostText) = .ok domain) : s.Passes r 4 :=
  (of_names h).hosted h.namesPage h.page hdomain

end Passes

theorem eq_empty_of_pageUrl? (h : pageUrl? r = none) (hraw : r.NamesPage raw) : raw = "" := by
  by_contra hne
  rw [Request.pageUrl?_eq_some_iff.mpr ⟨hraw, hne⟩] at h
  cases h

/-- A referrer that is refused stands in its header, since no referrer is not refused. -/
theorem badReferrer_of_parse {cause : ReferrerError}
    (h : Referrer.parse ((r.header? "x-prisme-document-referrer").getD "") = .error cause) :
    s.Fault r ⟨2, 400, "invalid document referrer: " ++ cause.message⟩ := by
  cases hheader : r.header? "x-prisme-document-referrer" with
  | none =>
    rw [hheader] at h
    cases h
  | some raw =>
    rw [hheader, Option.getD_some] at h
    refine .badReferrer (Request.header?_eq_some_iff.mp hheader) ?_ h
    rintro rfl
    cases h

/-- A report is refused for its first fault, or it has none but that the writer may be closed. -/
theorem refused_or_passes (s : Service) (time : Nat) (r : Request) :
    (∃ rejection c, Visit.ofRequest s.lookup time r = .error rejection ∧
      s.IsFirst r c ∧ rejection.Tells c) ∨
    ∃ visit, Visit.ofRequest s.lookup time r = .ok visit ∧ s.Passes r 6 := by
  have hreading := Visit.reading s.lookup time r
  generalize Visit.ofRequest s.lookup time r = result at hreading ⊢
  cases hreading with
  | missing hurl =>
    have hfault : s.Fault r _ := .noPage fun raw hraw => eq_empty_of_pageUrl? hurl hraw
    exact .inl ⟨_, _, rfl, ⟨hfault, .zero s r⟩, rfl, rfl⟩
  | unparsed hurl hpage =>
    obtain ⟨hraw, hne⟩ := Request.pageUrl?_eq_some_iff.mp hurl
    exact .inl ⟨_, _, rfl, ⟨.badPage hraw hpage, (Passes.zero s r).named hraw hne⟩, rfl, rfl⟩
  | misreferred hurl hpage hreferrer =>
    obtain ⟨hraw, hne⟩ := Request.pageUrl?_eq_some_iff.mp hurl
    have hpasses := ((Passes.zero s r).named hraw hne).parsed hraw hpage
    exact .inl ⟨_, _, rfl, ⟨badReferrer_of_parse hreferrer, hpasses⟩, rfl, rfl⟩
  | unhosted hnames hdomain =>
    have hfault : s.Fault r _ := .badHost hnames.namesPage hnames.page hdomain
    exact .inl ⟨_, _, rfl, ⟨hfault, .of_names hnames⟩, rfl, rfl⟩
  | unanswered hnames hdomain hlookup =>
    have hpasses : s.Passes r 4 := .of_domain hnames hdomain
    have hfault := Fault.lookupFailed (hnames.namesSite hdomain) hlookup
    exact .inl ⟨_, _, rfl, ⟨hfault, hpasses⟩, rfl, rfl⟩
  | unlisted hnames hdomain hlookup =>
    have hsite := hnames.namesSite hdomain
    have hpasses : s.Passes r 4 := .of_domain hnames hdomain
    have hfault := Fault.unregistered hsite hlookup
    exact .inl ⟨_, _, rfl, ⟨hfault, hpasses.lookedUp hsite hlookup⟩, rfl, rfl⟩
  | visit hnames hdomain hlookup =>
    have hsite := hnames.namesSite hdomain
    have hpasses : s.Passes r 4 := .of_domain hnames hdomain
    exact .inr ⟨_, rfl, (hpasses.lookedUp hsite hlookup).registered hsite hlookup⟩

end Service
end Pageviews.Http
