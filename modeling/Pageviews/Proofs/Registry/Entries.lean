import Mathlib.Data.Set.Card
import Pageviews.Proofs.Domain.Canonical
import Pageviews.Proofs.Text.Trim
import Pageviews.Registry

/-! What a list registers. Main statement: it is read if all its entries are domains, else the first
that is none is the error; and how the entries are ordered, repeated and spelled does not matter. -/
namespace Pageviews

/-- A list has a member that stops, and before it only members that pass. -/
def HasFirst {α : Type} (passes stops : α → Prop) (list : List α) : Prop :=
  ∃ before x after, list = before ++ x :: after ∧ (∀ b ∈ before, passes b) ∧ stops x

theorem hasFirst_cons {α : Type} {passes stops : α → Prop} {x : α} {list : List α} :
    HasFirst passes stops (x :: list) ↔ stops x ∨ passes x ∧ HasFirst passes stops list := by
  constructor
  · rintro ⟨before, z, after, hlist, hbefore, hz⟩
    cases before with
    | nil =>
      obtain ⟨rfl, -⟩ := List.cons.inj hlist
      exact .inl hz
    | cons b before =>
      obtain ⟨rfl, hrest⟩ := List.cons.inj hlist
      obtain ⟨hx, hbefore⟩ := List.forall_mem_cons.mp hbefore
      exact .inr ⟨hx, before, z, after, hrest, hbefore, hz⟩
  · rintro (hx | ⟨hx, before, z, after, rfl, hbefore, hz⟩)
    · exact ⟨[], x, list, rfl, nofun, hx⟩
    · exact ⟨x :: before, z, after, rfl, List.forall_mem_cons.mpr ⟨hx, hbefore⟩, hz⟩

theorem not_hasFirst_nil {α : Type} {passes stops : α → Prop} : ¬ HasFirst passes stops [] := by
  rintro ⟨before, z, after, hlist, -⟩
  exact List.append_ne_nil_of_right_ne_nil before (List.cons_ne_nil z after) hlist.symm

theorem mapM_eq_error_iff {ε α β : Type} {f : α → Except ε β} {list : List α} {cause : ε} :
    list.mapM f = .error cause ↔
      HasFirst (fun x => ∃ y, f x = .ok y) (fun x => f x = .error cause) list := by
  induction list with
  | nil => exact ⟨nofun, fun h => absurd h not_hasFirst_nil⟩
  | cons x list ih =>
    rw [List.mapM_cons, hasFirst_cons, ← ih]
    cases hx : f x with
    | error fault => simp [bind, Except.bind]
    | ok y => cases list.mapM f <;> simp [bind, Except.bind, pure, Except.pure]

namespace Domain

def Accepts (raw : String) : Prop := ∃ d, parse raw = .ok d

theorem eq_of_parse_eq_error {raw : String} {fault : InvalidDomain} (h : parse raw = .error fault) :
    fault = ⟨raw⟩ := by
  unfold parse at h
  split at h
  · cases h
  · exact (Except.error.inj h).symm

theorem parse_eq_error_iff {raw : String} {fault : InvalidDomain} :
    parse raw = .error fault ↔ ¬ Accepts raw ∧ fault = ⟨raw⟩ := by
  constructor
  · intro h
    refine ⟨fun ⟨d, hd⟩ => ?_, eq_of_parse_eq_error h⟩
    rw [h] at hd
    cases hd
  · rintro ⟨hnot, rfl⟩
    cases h : parse raw with
    | ok d => exact absurd ⟨d, h⟩ hnot
    | error fault => rw [eq_of_parse_eq_error h]

end Domain

namespace Registry

open Domain (Accepts)

variable {raw rewritten : String} {list other : List String} {domains : List Domain} {d : Domain}

/-- A list is what stands between the commas of a text, without the white space around it. -/
def Separates (raw : String) (list : List String) : Prop :=
  ∃ fields : List (List Char), fields ≠ [] ∧ (∀ field ∈ fields, ',' ∉ field) ∧
    [','].intercalate fields = raw.toList ∧
    List.Forall₂ (fun field entry => Text.TrimsTo Text.isBlank field entry.toList) fields list

theorem forall₂_trimsTo_iff {fields : List (List Char)} :
    List.Forall₂ (fun field entry => Text.TrimsTo Text.isBlank field entry.toList) fields list ↔
      fields.map (fun field => String.ofList (Text.trim field)) = list := by
  have htrim (field : List Char) (entry : String) :
      Text.TrimsTo Text.isBlank field entry.toList ↔ String.ofList (Text.trim field) = entry := by
    rw [Text.trimsTo_iff, ← Text.trim, ← String.toList_inj, String.toList_ofList, eq_comm]
  simp only [htrim]
  rw [← List.forall₂_map_left_iff, List.forall₂_eq_eq_eq]

theorem separates_iff : Separates raw list ↔ entries raw = list := by
  constructor
  · rintro ⟨fields, hne, hcommas, hraw, hfields⟩
    rw [entries, ← hraw, Text.split_intercalate hne hcommas]
    exact forall₂_trimsTo_iff.mp hfields
  · intro h
    refine ⟨Text.split ',' raw.toList, Text.split_ne_nil, ?_, Text.intercalate_split,
      forall₂_trimsTo_iff.mpr h⟩
    exact fun field hfield hcomma => (Text.mem_of_mem_split hfield hcomma).2 rfl

theorem entries_ne_nil : entries raw ≠ [] := by
  rw [entries, ne_eq, List.map_eq_nil_iff]
  exact Text.split_ne_nil

/-- The domains of a list, each of one entry, in the order of the entries. -/
theorem parseList_eq_ok_iff_forall₂ :
    parseList raw = .ok domains ↔
      List.Forall₂ (fun entry d => Domain.parse entry = .ok d) (entries raw) domains :=
  mapM_eq_ok_iff

theorem parseList_eq_error_iff {fault : InvalidDomain} :
    parseList raw = .error fault ↔
      HasFirst Accepts (fun entry => ¬ Accepts entry ∧ fault = ⟨entry⟩) (entries raw) := by
  rw [parseList, mapM_eq_error_iff]
  simp only [Domain.parse_eq_error_iff]
  rfl

theorem exists_parseList_iff :
    (∃ domains, parseList raw = .ok domains) ↔ ∀ entry ∈ entries raw, Accepts entry := by
  cases h : parseList raw with
  | ok domains =>
    have hread := parseList_eq_ok_iff_forall₂.mp h
    have haccepts := hread.imp (S := fun entry d => Accepts entry ∧ Domain.parse entry = .ok d)
      fun entry d hd => ⟨⟨d, hd⟩, hd⟩
    exact ⟨fun _ => ((List.forall₂_and_left _ _).mp haccepts).1, fun _ => ⟨domains, rfl⟩⟩
  | error fault =>
    obtain ⟨before, entry, after, hlist, -, hentry, -⟩ := parseList_eq_error_iff.mp h
    refine ⟨nofun, fun hall => absurd (hall entry ?_) hentry⟩
    rw [hlist]
    exact List.mem_append_right before List.mem_cons_self

theorem mem_domains_ofList : d ∈ (ofList domains).domains ↔ d ∈ domains :=
  List.contains_iff_mem.symm.trans isRegistered_ofList

/-- Repeats are counted once. -/
theorem size_ofList (domains : List Domain) : (ofList domains).size = domains.toFinset.card := by
  have hsame : (ofList domains).domains.toFinset = domains.toFinset := by
    ext d
    rw [List.mem_toFinset, List.mem_toFinset, mem_domains_ofList]
  rw [← hsame, size, List.toFinset_card_of_nodup (ofList domains).nodup]

def named (list : List String) : Set Domain := {d | ∃ entry ∈ list, Domain.parse entry = .ok d}

theorem isRegistered_iff_mem_named (h : parseList raw = .ok domains) :
    (ofList domains).isRegistered d = true ↔ d ∈ named (entries raw) :=
  isRegistered_ofList.trans (mem_of_parseList h)

theorem size_eq_ncard_named (h : parseList raw = .ok domains) :
    (ofList domains).size = (named (entries raw)).ncard := by
  have hsame : (domains.toFinset : Set Domain) = named (entries raw) := by
    ext d
    rw [Finset.mem_coe, List.mem_toFinset]
    exact mem_of_parseList h
  rw [size_ofList, ← hsame, Set.ncard_coe_finset]

/-- Even an empty text has an entry, so that a list that is read registers some domain. -/
theorem isEmpty_eq_false (h : parseList raw = .ok domains) : (ofList domains).isEmpty = false := by
  have hread := parseList_eq_ok_iff_forall₂.mp h
  have hne : entries raw ≠ [] := entries_ne_nil
  obtain ⟨entry, rest, hentries⟩ := List.exists_cons_of_ne_nil hne
  rw [hentries] at hread
  obtain ⟨d, others, -, -, rfl⟩ := List.forall₂_cons_left_iff.mp hread
  have hmem : d ∈ (ofList (d :: others)).domains := mem_domains_ofList.mpr List.mem_cons_self
  have hsize : 0 < (ofList (d :: others)).size := List.length_pos_of_mem hmem
  exact decide_eq_false (Nat.ne_of_gt hsize)

/-- Lists of entries that differ in their order, in repeats, and in how domains are spelled. -/
inductive Rewritten : List String → List String → Prop where
  | permuted {list other : List String} (h : list.Perm other) : Rewritten list other
  | repeated {entry : String} {list : List String} (h : entry ∈ list) :
      Rewritten list (entry :: list)
  | respelled {entry spelling : String} {list : List String} {d : Domain}
      (h : Domain.parse entry = .ok d) (h' : Domain.parse spelling = .ok d) :
      Rewritten (entry :: list) (spelling :: list)
  | symm {list other : List String} (h : Rewritten list other) : Rewritten other list
  | trans {list other last : List String} (h : Rewritten list other)
      (h' : Rewritten other last) : Rewritten list last

theorem Rewritten.exists_mem_iff (h : Rewritten list other) (result : Except InvalidDomain Domain) :
    (∃ entry ∈ list, Domain.parse entry = result) ↔
      ∃ entry ∈ other, Domain.parse entry = result := by
  induction h with
  | permuted h => simp only [h.mem_iff]
  | @repeated entry list h =>
    rw [List.exists_mem_cons_iff, or_iff_right_of_imp]
    exact fun hentry => ⟨entry, h, hentry⟩
  | respelled h h' => simp only [List.exists_mem_cons_iff, h, h']
  | symm _ ih => exact ih.symm
  | trans _ _ ih ih' => exact ih.trans ih'

/-- A list that is rewritten is read like the first, and its registry has the same answers. -/
theorem Rewritten.registry (h : Rewritten (entries raw) (entries rewritten))
    (hraw : parseList raw = .ok domains) :
    ∃ others, parseList rewritten = .ok others ∧
      (∀ d, (ofList others).isRegistered d = (ofList domains).isRegistered d) ∧
      (ofList others).size = (ofList domains).size := by
  have hnamed : named (entries rewritten) = named (entries raw) := by
    ext d
    exact (h.exists_mem_iff (.ok d)).symm
  have haccepts : ∀ entry ∈ entries rewritten, Accepts entry := by
    intro entry hentry
    obtain ⟨spelling, hspelling, hsame⟩ := (h.exists_mem_iff _).mpr ⟨entry, hentry, rfl⟩
    obtain ⟨d, hd⟩ := exists_parseList_iff.mp ⟨domains, hraw⟩ spelling hspelling
    exact ⟨d, hsame.symm.trans hd⟩
  obtain ⟨others, hothers⟩ := exists_parseList_iff.mpr haccepts
  refine ⟨others, hothers, fun d => ?_, ?_⟩
  · rw [Bool.eq_iff_iff, isRegistered_iff_mem_named hothers, hnamed,
      isRegistered_iff_mem_named hraw]
  · rw [size_eq_ncard_named hothers, size_eq_ncard_named hraw, hnamed]

/-- A registry has just the domains that are named in a list. -/
structure Holds (r : Registry) (list : List String) : Prop where
  lookup : ∀ query d, Domain.parse query = .ok d →
    (r.isRegistered d = true ↔ ∃ entry ∈ list, Domain.parse entry = .ok d)
  size : r.size = {d | ∃ entry ∈ list, Domain.parse entry = .ok d}.ncard
  nonempty : r.isEmpty = false

/-- A text is read as the domains of its entries, or its first entry that is no domain is the error.
The registry of the domains knows a domain just if an entry names it in some spelling, and counts
each once; entries that are put in another order, repeated or respelled change nothing. -/
theorem registered_by_entries (raw : String) :
    (∀ list, Separates raw list ↔ entries raw = list) ∧
    ((∃ domains, parseList raw = .ok domains) ↔ ∀ entry ∈ entries raw, Accepts entry) ∧
    (∀ domains, parseList raw = .ok domains ↔
      List.Forall₂ (fun entry d => Domain.parse entry = .ok d) (entries raw) domains) ∧
    (∀ fault, parseList raw = .error fault ↔
      HasFirst Accepts (fun entry => ¬ Accepts entry ∧ fault = ⟨entry⟩) (entries raw)) ∧
    ∀ domains, parseList raw = .ok domains →
      (ofList domains).Holds (entries raw) ∧
      ∀ rewritten, Rewritten (entries raw) (entries rewritten) →
        ∃ others, parseList rewritten = .ok others ∧
          (∀ d, (ofList others).isRegistered d = (ofList domains).isRegistered d) ∧
          (ofList others).size = (ofList domains).size :=
  ⟨fun _ => separates_iff, exists_parseList_iff, fun _ => parseList_eq_ok_iff_forall₂,
    fun _ => parseList_eq_error_iff, fun _ h =>
      ⟨⟨fun _ _ _ => isRegistered_iff_mem_named h, size_eq_ncard_named h, isEmpty_eq_false h⟩,
        fun _ hr => hr.registry h⟩⟩

/-- One of two sites is listed twice; a list without the repeat, in another order and in capitals,
registers the same two. -/
theorem registered_by_entries_twice :
    parseList " MySite.com ,blog.example,mysite.COM" =
      .ok [⟨"mysite.com"⟩, ⟨"blog.example"⟩, ⟨"mysite.com"⟩] ∧
    ∃ others, parseList "BLOG.example,mysite.COM" = .ok others ∧
      (ofList others).isRegistered ⟨"blog.example"⟩ = true ∧ (ofList others).size = 2 := by
  have hentries : entries " MySite.com ,blog.example,mysite.COM" =
      ["MySite.com", "blog.example", "mysite.COM"] := rfl
  have hrewritten : entries "BLOG.example,mysite.COM" = ["BLOG.example", "mysite.COM"] := rfl
  have hcapital : Domain.parse "MySite.com" = .ok ⟨"mysite.com"⟩ := rfl
  have hcapitals : Domain.parse "mysite.COM" = .ok ⟨"mysite.com"⟩ := rfl
  have hblog : Domain.parse "blog.example" = .ok ⟨"blog.example"⟩ := rfl
  have hblogs : Domain.parse "BLOG.example" = .ok ⟨"blog.example"⟩ := rfl
  have hsame : Rewritten (entries " MySite.com ,blog.example,mysite.COM")
      (entries "BLOG.example,mysite.COM") := by
    rw [hentries, hrewritten]
    have hrespelled : Rewritten ["MySite.com", "blog.example", "mysite.COM"]
        ["mysite.COM", "blog.example", "mysite.COM"] := .respelled hcapital hcapitals
    have honce : Rewritten ["mysite.COM", "blog.example", "mysite.COM"]
        ["blog.example", "mysite.COM"] := .symm (.repeated (by simp))
    exact (hrespelled.trans honce).trans (.respelled hblog hblogs)
  obtain ⟨-, -, hok, -, hregistry⟩ := registered_by_entries " MySite.com ,blog.example,mysite.COM"
  have hread := (hok [⟨"mysite.com"⟩, ⟨"blog.example"⟩, ⟨"mysite.com"⟩]).mpr
    (hentries ▸ .cons hcapital (.cons hblog (.cons hcapitals .nil)))
  obtain ⟨-, hrewrite⟩ := hregistry _ hread
  obtain ⟨others, hothers, hlookup, hsize⟩ := hrewrite _ hsame
  exact ⟨hread, others, hothers, (hlookup _).trans rfl, hsize.trans rfl⟩

end Registry
end Pageviews
