import Pageviews.Proofs.Registry.Entries

/-! Lists of domains as text. Main statement: the names of domains with commas between them,
whatever white space stands around each, are read back as these domains, in their order and with
repeats. -/
namespace Pageviews

theorem Domain.isBlank_of_mem_name {raw : String} {d : Domain} (h : parse raw = .ok d) {c : Char}
    (hc : c ∈ d.name.toList) : Text.isBlank c = false := by
  have hrange : 0x2D ≤ c.toNat ∧ c.toNat < 0x80 := by
    rcases isHostChar_of_mem_name h hc with hhost | rfl
    · have := isHostChar_iff.mp hhost
      omega
    · decide
  unfold Text.isBlank
  simp only [Bool.or_eq_false_iff, Bool.and_eq_false_iff, decide_eq_false_iff_not]
  omega

namespace Registry

variable {raw : String} {domains : List Domain} {d : Domain} {field : List Char}

def print (domains : List Domain) : String := ",".intercalate (domains.map Domain.name)

def Pads (field : List Char) (d : Domain) : Prop :=
  ∃ left right, field = left ++ d.name.toList ++ right ∧
    (∀ c ∈ left, Text.isBlank c = true) ∧ ∀ c ∈ right, Text.isBlank c = true

/-- A text that lists domains by their names, with white space around them or not. -/
def Lists (raw : String) (domains : List Domain) : Prop :=
  ∃ fields, raw.toList = [','].intercalate fields ∧ List.Forall₂ Pads fields domains

theorem lists_print (domains : List Domain) : Lists (print domains) domains := by
  refine ⟨domains.map (·.name.toList), ?_, ?_⟩
  · rw [print, String.toList_intercalate, List.map_map]
    rfl
  · rw [List.forall₂_map_left_iff, List.forall₂_same]
    exact fun d _ => ⟨[], [], by simp, nofun, nofun⟩

theorem Pads.trimsTo {spelling : String} (h : Pads field d) (hd : Domain.parse spelling = .ok d) :
    Text.TrimsTo Text.isBlank field d.name.toList where
  around := h
  head _ hc := Domain.isBlank_of_mem_name hd (List.mem_of_head? hc)
  last _ hc := Domain.isBlank_of_mem_name hd (List.mem_of_getLast? hc)

theorem Pads.not_mem_comma {spelling : String} (h : Pads field d)
    (hd : Domain.parse spelling = .ok d) : ',' ∉ field := by
  have hblank : Text.isBlank ',' = false := rfl
  obtain ⟨left, right, rfl, hleft, hright⟩ := h
  rw [List.mem_append, List.mem_append]
  rintro ((hmem | hmem) | hmem)
  · rw [hleft _ hmem] at hblank
    cases hblank
  · rcases Domain.isHostChar_of_mem_name hd hmem with hhost | hdot
    · exact absurd hhost (by decide)
    · exact absurd hdot (by decide)
  · rw [hright _ hmem] at hblank
    cases hblank

/-- The entries of a list of domains are their names. -/
theorem Lists.entries_eq (h : Lists raw domains) (hne : domains ≠ [])
    (hnames : ∀ d ∈ domains, ∃ spelling, Domain.parse spelling = .ok d) :
    entries raw = domains.map Domain.name := by
  obtain ⟨fields, hraw, hfields⟩ := h
  have hpads : List.Forall₂ (fun d field => (∃ spelling, Domain.parse spelling = .ok d) ∧
      Pads field d) domains fields :=
    (List.forall₂_and_left _ _).mpr ⟨hnames, hfields.flip⟩
  have hcut : List.Forall₂ (fun field d => ',' ∉ field ∧
      Text.TrimsTo Text.isBlank field d.name.toList) fields domains := by
    refine (hpads.imp fun d field => ?_).flip
    rintro ⟨⟨spelling, hd⟩, hpad⟩
    exact ⟨hpad.not_mem_comma hd, hpad.trimsTo hd⟩
  obtain ⟨hcommas, htrims⟩ := (List.forall₂_and_left _ _).mp hcut
  refine separates_iff.mp ⟨fields, ?_, hcommas, hraw.symm, ?_⟩
  · rintro rfl
    exact hne (List.forall₂_nil_left_iff.mp hfields)
  · rw [List.forall₂_map_right_iff]
    exact htrims

theorem Lists.parseList_eq (h : Lists raw domains) (hne : domains ≠ [])
    (hnames : ∀ d ∈ domains, ∃ spelling, Domain.parse spelling = .ok d) :
    parseList raw = .ok domains := by
  rw [parseList_eq_ok_iff_forall₂, h.entries_eq hne hnames, List.forall₂_map_left_iff,
    List.forall₂_same]
  intro d hd
  obtain ⟨spelling, hspelling⟩ := hnames d hd
  exact Domain.parse_eq_ok_iff.mpr (Domain.toAscii_self (Domain.parse_eq_ok_iff.mp hspelling))

theorem forall_exists_of_parseList (h : parseList raw = .ok domains) :
    ∀ d ∈ domains, ∃ spelling, Domain.parse spelling = .ok d := by
  intro d hd
  obtain ⟨entry, -, hentry⟩ := (mem_of_parseList h).mp hd
  exact ⟨entry, hentry⟩

theorem ne_nil_of_parseList (h : parseList raw = .ok domains) : domains ≠ [] := by
  rintro rfl
  have hread := parseList_eq_ok_iff_forall₂.mp h
  exact entries_ne_nil (List.forall₂_nil_right_iff.mp hread)

/-- Domains that are listed by their names are read back as they are, and so is what was read of any
list, from its printed form. -/
theorem lists_read_back :
    (∀ domains, domains ≠ [] → (∀ d ∈ domains, ∃ spelling, Domain.parse spelling = .ok d) →
      ∀ raw, Lists raw domains → parseList raw = .ok domains) ∧
    ∀ raw domains, parseList raw = .ok domains →
      Lists (print domains) domains ∧ parseList (print domains) = .ok domains := by
  refine ⟨fun domains hne hnames raw h => h.parseList_eq hne hnames, fun raw domains h => ?_⟩
  have hlists := lists_print domains
  exact ⟨hlists, hlists.parseList_eq (ne_nil_of_parseList h) (forall_exists_of_parseList h)⟩

/-- A site that is listed twice, the second time with a space of another script at each side. -/
theorem lists_read_back_padded :
    Domain.parse "MySite.COM" = .ok ⟨"mysite.com"⟩ ∧
    Domain.parse "A--b.example" = .ok ⟨"a--b.example"⟩ ∧
    parseList "mysite.com,a--b.example\t,\u00a0mysite.com\u3000" =
      .ok [⟨"mysite.com"⟩, ⟨"a--b.example"⟩, ⟨"mysite.com"⟩] := by
  have hsite : Domain.parse "MySite.COM" = .ok ⟨"mysite.com"⟩ := rfl
  have hblog : Domain.parse "A--b.example" = .ok ⟨"a--b.example"⟩ := rfl
  have hlists : Lists "mysite.com,a--b.example\t,\u00a0mysite.com\u3000"
      [⟨"mysite.com"⟩, ⟨"a--b.example"⟩, ⟨"mysite.com"⟩] :=
    ⟨["mysite.com".toList, "a--b.example\t".toList, "\u00a0mysite.com\u3000".toList], rfl,
      .cons ⟨[], [], rfl, nofun, nofun⟩
        (.cons ⟨[], ['\t'], rfl, nofun, List.forall_mem_singleton.mpr rfl⟩
          (.cons ⟨['\u00a0'], ['\u3000'], rfl, List.forall_mem_singleton.mpr rfl,
            List.forall_mem_singleton.mpr rfl⟩ .nil))⟩
  refine ⟨hsite, hblog, lists_read_back.1 _ (List.cons_ne_nil _ _) ?_ _ hlists⟩
  intro d hd
  simp only [List.mem_cons, List.not_mem_nil, or_false] at hd
  rcases hd with rfl | rfl | rfl
  · exact ⟨_, hsite⟩
  · exact ⟨_, hblog⟩
  · exact ⟨_, hsite⟩

end Registry
end Pageviews
