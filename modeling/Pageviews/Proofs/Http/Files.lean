import Pageviews.Http.Service
import Pageviews.Proofs.Url.Percent
import Pageviews.Proofs.Writer.Ledger

/-! Files that are asked for. Main statement: nothing but the tracker is served, under any spelling
of its two names, and every other request for a file is refused with a text of its own. -/
namespace Pageviews.Http

variable {segment : List Char} {name : String}

def NamesTracker (segment : List Char) : Prop :=
  ∃ name ∈ ["prisme.js", "p.js"], Url.Encodes segment (Text.utf8 name.toList)

/-- What is answered to requests for anything else: a status and a text. -/
def fileRefusals : List (Nat × String) :=
  [(404, ""), (404, "404 Not Found"), (400, "Invalid URL: Invalid UTF-8 in \x60file\x60")]

/-- How a request for a file is answered: with the tracker if that is what it names, else with a
refusal. -/
structure Served (segment : List Char) (response : Response) : Prop where
  named : response.status = 200 ↔ NamesTracker segment
  served : response.status = 200 →
    response.body = tracker ∧ response.headers.lookup "content-type" = some "text/javascript"
  refused : response.status ≠ 200 → (response.status, response.body) ∈ fileRefusals

theorem Served.of_refusal {response : Response} (hnamed : ¬ NamesTracker segment)
    (h : (response.status, response.body) ∈ fileRefusals) : Served segment response := by
  have hstatus : response.status ≠ 200 := by
    have hall : ∀ refusal ∈ fileRefusals, refusal.1 ≠ 200 := by decide
    exact hall _ h
  exact ⟨⟨fun h200 => absurd h200 hstatus, fun h => absurd h hnamed⟩, fun h200 => absurd h200 hstatus,
    fun _ => h⟩

theorem namesTracker_iff : NamesTracker segment ↔
    ∃ name ∈ ["prisme.js", "p.js"], Text.ofUtf8? (Url.percentDecode segment) = some name.toList := by
  have hplain : ∀ name ∈ ["prisme.js", "p.js"], '%' ∉ name.toList := by decide
  constructor
  · rintro ⟨name, hname, hspells⟩
    exact ⟨name, hname, (Url.ofUtf8?_percentDecode_eq_some_iff (hplain name hname)).mpr hspells⟩
  · rintro ⟨name, hname, hdecode⟩
    exact ⟨name, hname, (Url.ofUtf8?_percentDecode_eq_some_iff (hplain name hname)).mp hdecode⟩

/-- The route of a path below that of the files, which has just one more part. -/
theorem Route.ofPath?_static : Route.ofPath? ("/static/".toList ++ segment) =
    if segment.isEmpty || segment.contains '/' then none else some (.asset segment) := by
  have hafter : Text.after? "/static/".toList ("/static/".toList ++ segment) = some segment :=
    Text.after?_eq_some_iff.mpr rfl
  have hother (path : List Char) (h : path[1]? = some 'a') :
      "/static/".toList ++ segment ≠ path := by
    rintro rfl
    cases h
  rw [Route.ofPath?, if_neg (hother _ rfl), if_neg (hother _ rfl), hafter]

theorem not_namesTracker_of_unrouted (h : (segment.isEmpty || segment.contains '/') = true) :
    ¬ NamesTracker segment := by
  rintro ⟨name, hname, hspells⟩
  have hplain : ∀ name ∈ ["prisme.js", "p.js"],
      Text.utf8 name.toList ≠ [] ∧ 0x2F ∉ Text.utf8 name.toList := by decide
  obtain ⟨hne, hslash⟩ := hplain name hname
  rw [Bool.or_eq_true, List.isEmpty_iff, List.contains_iff_mem] at h
  rcases h with rfl | hmem
  · apply hne
    rw [← hspells.percentDecode_eq]
    rfl
  · exact hslash (hspells.subset hmem (by decide) (by decide) (by decide))

theorem served_serveAsset (segment : List Char) : Served segment (serveAsset segment) := by
  unfold serveAsset
  split
  · next hdecode =>
    refine .of_refusal ?_ (by decide)
    rw [namesTracker_iff, hdecode]
    rintro ⟨name, -, ⟨⟩⟩
  · next decoded hdecode =>
    have hnames : NamesTracker segment ↔ String.ofList decoded ∈ ["prisme.js", "p.js"] := by
      rw [namesTracker_iff, hdecode]
      constructor
      · rintro ⟨name, hname, heq⟩
        cases heq
        rwa [String.ofList_toList]
      · intro hname
        exact ⟨_, hname, by rw [String.toList_ofList]⟩
    unfold asset?
    by_cases hname : String.ofList decoded = "prisme.js" ∨ String.ofList decoded = "p.js"
    · rw [if_pos hname]
      have hnamed : NamesTracker segment := hnames.mpr (by simpa using hname)
      exact ⟨⟨fun _ => hnamed, fun _ => rfl⟩, fun _ => ⟨rfl, rfl⟩, fun h => absurd rfl h⟩
    · rw [if_neg hname]
      refine .of_refusal ?_ (by decide)
      rw [hnames]
      simpa using hname

/-- A request below the path of the files is answered at once: with the tracker if its last part
spells one of the two names of it, and else with a refusal that holds nothing of any file. -/
theorem only_tracker_served (s : Service) (time : Nat) {r : Request} (hget : r.method = "GET")
    (hpath : r.target.path = "/static/".toList ++ segment) :
    ∃ response, s.handle time r = (s, some ⟨response, []⟩) ∧ Served segment response := by
  unfold Service.handle
  rw [hpath, Route.ofPath?_static, hget]
  by_cases hrouted : (segment.isEmpty || segment.contains '/') = true
  · rw [if_pos hrouted]
    exact ⟨_, rfl, .of_refusal (not_namesTracker_of_unrouted hrouted) (by decide)⟩
  · rw [if_neg hrouted]
    exact ⟨_, rfl, served_serveAsset segment⟩

/-- The short name with a letter in capital digits, and a way up that is written with digits too. -/
theorem only_tracker_served_encoded : ∃ (s : Service) (r climbing : Request)
    (response refusal : Response),
    r = ⟨"GET", ⟨"/static/p.%6As".toList, some "v=1".toList⟩, [], ""⟩ ∧
    climbing = ⟨"GET", ⟨"/static/..%2Fstatic%2Fp.js".toList, none⟩, [], ""⟩ ∧
    s.handle 7 r = (s, some ⟨response, []⟩) ∧ response.status = 200 ∧ response.body = tracker ∧
    s.handle 8 climbing = (s, some ⟨refusal, []⟩) ∧ refusal.status ≠ 200 := by
  have hcapacity : (⟨4, 9, 60⟩ : Writer.Policy).capacity ≤ Writer.Policy.maxSlots := by decide
  obtain ⟨start, -⟩ := Writer.State.exists_spawn? (α := Pageview) hcapacity
  let s : Service := ⟨fun _ => .ok true, start⟩
  let r : Request := ⟨"GET", ⟨"/static/p.%6As".toList, some "v=1".toList⟩, [], ""⟩
  let climbing : Request := ⟨"GET", ⟨"/static/..%2Fstatic%2Fp.js".toList, none⟩, [], ""⟩
  have hspells : Url.Encodes "p.%6As".toList (Text.utf8 "p.js".toList) :=
    .plain (by decide) (.plain (by decide) (.byte (i := 6) (j := 10) ⟨by decide, .inl rfl⟩
      ⟨by decide, .inr rfl⟩ (.plain (by decide) .nil)))
  have hpath : r.target.path = "/static/".toList ++ "p.%6As".toList := rfl
  have hclimbing : climbing.target.path = "/static/".toList ++ "..%2Fstatic%2Fp.js".toList := rfl
  obtain ⟨response, hresponse, hserved⟩ := only_tracker_served s 7 rfl hpath
  obtain ⟨refusal, hrefusal, hclimbs⟩ := only_tracker_served s 8 rfl hclimbing
  have hstatus : response.status = 200 := hserved.named.mpr ⟨"p.js", by decide, hspells⟩
  have hrefused : refusal.status ≠ 200 := by
    have hother : ∀ name ∈ ["prisme.js", "p.js"],
        Url.percentDecode "..%2Fstatic%2Fp.js".toList ≠ Text.utf8 name.toList := by decide
    intro h200
    obtain ⟨name, hname, hspells⟩ := hclimbs.named.mp h200
    exact hother name hname hspells.percentDecode_eq
  exact ⟨s, r, climbing, response, refusal, rfl, rfl, hresponse, hstatus,
    (hserved.served hstatus).1, hrefusal, hrefused⟩

end Pageviews.Http
