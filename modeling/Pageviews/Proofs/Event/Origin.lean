import Pageviews.Http.Ingestion
import Pageviews.Proofs.Json.Strings

/-! What the text of a referrer tells. Main statement: referrers with the same text are the same,
but for direct visits and those from the one site that is called like them. -/
namespace Pageviews

theorem Json.writeString_inj {text other : String} :
    writeString text = writeString other ↔ text = other := by
  refine ⟨fun h => ?_, congrArg writeString⟩
  have hread := readString_writeString text []
  rw [h, readString_writeString other [], Except.ok.injEq, Prod.mk.injEq] at hread
  exact (String.toList_inj.mp hread.1).symm

namespace Referrer

variable {raw other : String} {r s : Referrer} {d : Domain}

/-- A text is a URL whose host names a domain. -/
def IsAt (raw : String) (d : Domain) : Prop :=
  ∃ page, Url.parse raw = .ok page ∧ Domain.parse (String.ofList page.hostText) = .ok d

/-- The empty text is no URL. -/
theorem not_isAt_empty : ¬ IsAt "" d := by
  have hempty : Url.parse "" = .error .relative := rfl
  rintro ⟨page, hpage, -⟩
  rw [hempty] at hpage
  cases hpage

theorem parse_eq_direct_iff : parse raw = .ok .direct ↔ raw = "" := by
  unfold parse
  split
  · simp [*]
  · next hne =>
    refine ⟨fun h => ?_, fun h => absurd h hne⟩
    split at h
    · cases h
    · split at h <;> cases h

theorem parse_eq_site_iff : parse raw = .ok (.site d) ↔ IsAt raw d := by
  by_cases hempty : raw = ""
  · subst hempty
    exact ⟨nofun, fun h => absurd h not_isAt_empty⟩
  · rw [parse, if_neg hempty, IsAt]
    cases hpage : Url.parse raw with
    | error cause => simp
    | ok page => cases hdomain : Domain.parse (String.ofList page.hostText) <;> simp [hdomain]

theorem toText_eq_iff : r.toText = s.toText ↔ r = s ∨
    r = .direct ∧ s = .site ⟨"direct"⟩ ∨ r = .site ⟨"direct"⟩ ∧ s = .direct := by
  have hname (d : Domain) : d.name = "direct" ↔ d = ⟨"direct"⟩ := by
    cases d
    rw [Domain.mk.injEq]
  cases r with
  | direct =>
    cases s with
    | direct => simp
    | site e => simp [toText, ← hname, eq_comm]
  | site d =>
    cases s with
    | direct => simp [toText, hname]
    | site e =>
      cases d
      cases e
      simp [toText]

/-- Referrers that are read of two texts have the same text just if they are the same, or one text
is empty and the other is the address of the site `direct`. So do they as JSON text, and so are
visits recorded that differ in nothing else. -/
theorem text_identifies (hr : parse raw = .ok r) (hs : parse other = .ok s) :
    (r.toText = s.toText ↔ r = s ∨ raw = "" ∧ IsAt other ⟨"direct"⟩ ∨
      IsAt raw ⟨"direct"⟩ ∧ other = "") ∧
    (r.toJson = s.toJson ↔ r.toText = s.toText) ∧
    ∀ p : Pageview, Http.Visit.record ⟨p, r⟩ = Http.Visit.record ⟨p, s⟩ ↔ r.toText = s.toText := by
  refine ⟨?_, Json.writeString_inj, fun p => by simp [Http.Visit.record]⟩
  rw [toText_eq_iff, ← parse_eq_direct_iff, ← parse_eq_direct_iff, ← parse_eq_site_iff,
    ← parse_eq_site_iff, hr, hs]
  simp only [Except.ok.injEq]

/-- A site whose name begins like the text of direct visits is told from them. -/
theorem text_identifies_subdomain :
    parse "" = .ok .direct ∧ parse "https://Direct.example/" = .ok (.site ⟨"direct.example"⟩) ∧
    direct.toText ≠ (site ⟨"direct.example"⟩).toText := by
  have hdirect : parse "" = .ok .direct := rfl
  have hsite : parse "https://Direct.example/" = .ok (.site ⟨"direct.example"⟩) := rfl
  refine ⟨hdirect, hsite, fun htext => ?_⟩
  rcases (text_identifies hdirect hsite).1.mp htext with heq | ⟨-, hat⟩ | ⟨-, hempty⟩
  · cases heq
  · have hother := parse_eq_site_iff.mpr hat
    rw [hsite] at hother
    exact absurd hother (by simp)
  · exact absurd hempty (by decide)

/-- A visit from the site `direct` and a direct one are different, but they have the same text and
are recorded alike. -/
theorem direct_site_mistaken :
    ¬ ∀ raw other r s, parse raw = .ok r → parse other = .ok s → (r.toText = s.toText ↔ r = s) := by
  intro h
  have hsite : parse "https://direct/" = .ok (.site ⟨"direct"⟩) := rfl
  have hsame := (h "" "https://direct/" .direct (.site ⟨"direct"⟩) rfl hsite).mp rfl
  cases hsame

end Referrer
end Pageviews
