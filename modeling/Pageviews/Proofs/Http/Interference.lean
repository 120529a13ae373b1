import Pageviews.Proofs.Http.Decision
import Pageviews.Proofs.Writer.Parametric

/-! What of a report matters. Main statement: two reports whose four headers say the same get the
same answer, and record the same but for the time. -/
namespace Pageviews

def Pageview.undated (p : Pageview) : Pageview := { p with time := 0 }

namespace Http

open Writer (Policy Serving State Step)

def readHeaders : List String :=
  ["x-prisme-referrer", "referer", "x-prisme-document-referrer", "user-agent"]

/-- Two requests say the same in the headers that a report is read from. -/
def Request.Matches (r other : Request) : Prop :=
  ∀ name ∈ readHeaders, ∀ value, r.Says name value ↔ other.Says name value

theorem Request.matches_iff {r other : Request} :
    r.Matches other ↔ ∀ name ∈ readHeaders, r.header? name = other.header? name := by
  have hsays (name : String) : (∀ value, r.Says name value ↔ other.Says name value) ↔
      r.header? name = other.header? name := by
    simp only [← header?_eq_some_iff]
    exact Option.ext_iff.symm
  simp only [Matches, hsays]

/-- Results with the same image are the same error, or values with the same image. -/
theorem error_or_ok_of_map_eq_map {ε α β : Type} {f : α → β} {x y : Except ε α}
    (h : x.map f = y.map f) :
    (∃ e, x = .error e ∧ y = .error e) ∨ ∃ a b, x = .ok a ∧ y = .ok b ∧ f a = f b := by
  cases x with
  | error e =>
    cases y with
    | error e' =>
      cases h
      exact .inl ⟨e, rfl, rfl⟩
    | ok b => cases h
  | ok a =>
    cases y with
    | error e => cases h
    | ok b => exact .inr ⟨a, b, rfl, rfl, Except.ok.inj h⟩

namespace Visit

def undated (v : Visit) : Visit := { v with pageview := v.pageview.undated }

theorem ofRequest_eq_of_matches {r other : Request} (h : r.Matches other) (lookup : Lookup)
    (time : Nat) : ofRequest lookup time r = ofRequest lookup time other := by
  have hsame := Request.matches_iff.mp h
  have hurl : pageUrl? r = pageUrl? other := by
    rw [pageUrl?, pageUrl?, hsame "x-prisme-referrer" (by decide), hsame "referer" (by decide)]
  rw [ofRequest, ofRequest, hurl, hsame "x-prisme-document-referrer" (by decide),
    hsame "user-agent" (by decide)]

/-- The time of a request goes into its pageview and nowhere else. -/
theorem map_undated_ofRequest (lookup : Lookup) (time : Nat) (r : Request) :
    (ofRequest lookup time r).map undated = ofRequest lookup 0 r := by
  unfold ofRequest
  cases pageUrl? r with
  | none => rfl
  | some raw =>
    dsimp only
    cases Url.parse raw with
    | error cause => rfl
    | ok page =>
      dsimp only
      cases Referrer.parse ((r.header? "x-prisme-document-referrer").getD "") with
      | error cause => rfl
      | ok referrer =>
        simp only [Pageview.record_eq]
        cases Domain.parse (String.ofList page.hostText) with
        | error cause => rfl
        | ok domain =>
          simp only [Except.map]
          cases lookup domain with
          | error cause => rfl
          | ok listed => cases listed <;> rfl

/-- Two reports that say the same are refused for the same reason, or are of the same visit. -/
theorem ofRequest_alike {r other : Request} (h : r.Matches other) (lookup : Lookup)
    (time time' : Nat) :
    (∃ rejection, ofRequest lookup time r = .error rejection ∧
      ofRequest lookup time' other = .error rejection) ∨
    ∃ visit visit', ofRequest lookup time r = .ok visit ∧
      ofRequest lookup time' other = .ok visit' ∧ visit.undated = visit'.undated := by
  apply error_or_ok_of_map_eq_map
  rw [map_undated_ofRequest, map_undated_ofRequest, ofRequest_eq_of_matches h]

end Visit

namespace Service

variable {writer writer' : State Pageview} {visit visit' : Visit}

/-- An answer tells nothing of the times of pageviews. -/
theorem reply?_undated (writer : State Pageview) (id : Nat) (visit : Visit) :
    reply? (writer.map Pageview.undated) id visit.undated = reply? writer id visit := rfl

theorem reply?_eq_of_undated (hw : writer.map Pageview.undated = writer'.map Pageview.undated)
    (hv : visit.undated = visit'.undated) (id : Nat) :
    reply? writer id visit = reply? writer' id visit' := by
  rw [← reply?_undated, hw, hv, reply?_undated]

/-- What steps make of a writer, but for the times of its pageviews, and what has been answered to a
visit after each of them. -/
def replies? (writer : State Pageview) (id : Nat) (visit : Visit) (steps : List (Step Pageview)) :
    Option (List (State Pageview × Option Answer)) :=
  (writer.run? steps).map (List.map fun w => (w.map Pageview.undated, reply? w id visit))

theorem replies?_eq (writer : State Pageview) (id : Nat) (visit : Visit)
    (steps : List (Step Pageview)) :
    replies? writer id visit steps =
      ((writer.map Pageview.undated).run? (steps.map (Step.map Pageview.undated))).map
        (List.map fun w => (w, reply? w id visit.undated)) := by
  rw [← State.map_run?, Option.map_map]
  simp only [Function.comp_def, List.map_map, reply?_undated]
  rfl

theorem replies?_eq_of_undated (hw : writer.map Pageview.undated = writer'.map Pageview.undated)
    (hv : visit.undated = visit'.undated) (id : Nat) (steps : List (Step Pageview)) :
    replies? writer id visit steps = replies? writer' id visit' steps := by
  rw [replies?_eq, hw, hv, ← replies?_eq]

end Service

/-- What two reports come to that differ in nothing but their time. -/
inductive Alike (s : Service) : Service × Option Answer → Service × Option Answer → Prop where
  /-- Both are refused for the same reason, and nothing changes. -/
  | refused (rejection : Rejection) :
      Alike s (s, some rejection.answer) (s, some rejection.answer)
  /-- Both are offered to the writer, and answered alike at once or, if they have to wait, later. -/
  | offered {visit visit' : Visit} {writer writer' : State Pageview} (answer? : Option Answer)
      (same : visit.undated = visit'.undated)
      (first : writer = (s.writer.offer visit.pageview).1)
      (second : writer' = (s.writer.offer visit'.pageview).1)
      (writers : writer.map Pageview.undated = writer'.map Pageview.undated)
      (later : ∀ steps, Service.replies? writer s.writer.spawned visit steps =
        Service.replies? writer' s.writer.spawned visit' steps) :
      Alike s (⟨s.lookup, writer⟩, answer?) (⟨s.lookup, writer'⟩, answer?)

theorem Service.alike_store (s : Service) {visit visit' : Visit}
    (h : visit.undated = visit'.undated) : Alike s (s.store visit) (s.store visit') := by
  have hrow : visit.pageview.undated = visit'.pageview.undated := congrArg Visit.pageview h
  have hwriters : (s.writer.offer visit.pageview).1.map Pageview.undated =
      (s.writer.offer visit'.pageview).1.map Pageview.undated := by
    have hfirst := s.writer.offer_map Pageview.undated visit.pageview
    rw [hrow, State.offer_map] at hfirst
    exact (congrArg Prod.fst hfirst).symm
  rw [store_eq, store_eq, reply?_eq_of_undated hwriters h]
  exact .offered _ h rfl rfl hwriters (replies?_eq_of_undated hwriters h _)

/-- Two reports whose four headers say the same, whatever else is in them, come to the same at the
same time, and at two times to what differs in nothing but these. -/
theorem answered_alike (s : Service) {r other : Request} (hr : r.isReport = true)
    (ho : other.isReport = true) (h : r.Matches other) (time time' : Nat) :
    s.handle time r = s.handle time other ∧
      Alike s (s.handle time r) (s.handle time' other) := by
  rw [s.handle_of_isReport time hr, s.handle_of_isReport time ho, s.handle_of_isReport time' ho]
  refine ⟨?_, ?_⟩
  · rw [Service.ingest, Service.ingest, Visit.ofRequest_eq_of_matches h]
  · unfold Service.ingest
    rcases Visit.ofRequest_alike h s.lookup time time' with
      ⟨rejection, hfirst, hsecond⟩ | ⟨visit, visit', hfirst, hsecond, hsame⟩
    · rw [hfirst, hsecond]
      exact .refused rejection
    · rw [hfirst, hsecond]
      exact s.alike_store hsame

/-- A report of a page with a query, a body, and headers that are not read: one that no route reads,
one that cannot be read, and further values. -/
def Request.embellished (page : String) : Request :=
  ⟨"POST", ⟨"/api/v1/events/pageviews".toList, some "page=2".toList⟩,
    [("origin", "https://shop.example"), ("x-prisme-referrer", "https://caf\u00e9.example/"),
      ("referer", page), ("referer", "https://shop.example/"),
      ("x-prisme-referrer", "https://shop.example/")], "\x7b\x7d"⟩

theorem answered_alike_embellished : ∃ (start : State Pageview) (s t u : Service)
    (answer : Answer) (p q : Pageview),
    State.spawn? ⟨4, 9, 60⟩ = some start ∧
    s = ⟨.ofRegistry (.ofList [⟨"blog.example"⟩]), start⟩ ∧
    s.handle 5 (.report "https://Blog.example/post") = (t, some answer) ∧
    s.handle 9 (.embellished "https://Blog.example/post") = (u, some answer) ∧
    answer.response.status = 200 ∧ t.writer.acceptedRows = [p] ∧ u.writer.acceptedRows = [q] ∧
    p.undated = q.undated := by
  have hcapacity : (⟨4, 9, 60⟩ : Policy).capacity ≤ Policy.maxSlots := by decide
  obtain ⟨start, hs⟩ := State.exists_spawn? (α := Pageview) hcapacity
  let s : Service := ⟨.ofRegistry (.ofList [⟨"blog.example"⟩]), start⟩
  have hmatches : (Request.report "https://Blog.example/post").Matches
      (.embellished "https://Blog.example/post") :=
    Request.matches_iff.mpr (by decide)
  have hstatus : ∃ answer, (s.handle 5 (.report "https://Blog.example/post")).2 = some answer ∧
      answer.response.status = 200 := by
    obtain ⟨visit, hvisit⟩ : ∃ visit, Visit.ofRequest s.lookup 5
        (.report "https://Blog.example/post") = .ok visit := ⟨_, rfl⟩
    obtain ⟨-, hended⟩ := (Serving.of_spawn? hs).offer hs visit.pageview
    rw [Service.handle_of_isReport _ _ (by decide), Service.ingest, hvisit]
    exact ⟨_, congrArg (Option.map _) hended, rfl⟩
  obtain ⟨-, halike⟩ := answered_alike s (by decide) (by decide) hmatches 5 9
  obtain ⟨answer, hanswer, hok⟩ := hstatus
  generalize hfirst : s.handle 5 (.report "https://Blog.example/post") = first at halike hanswer
  generalize hsecond : s.handle 9 (.embellished "https://Blog.example/post") = second at halike
  cases halike with
  | refused rejection =>
    cases hanswer
    exact absurd hok rejection.status_ne
  | @offered visit visit' writer writer' answer? same hwriter hwriter' =>
    cases hanswer
    have haccepted := ((Serving.of_spawn? hs).offer hs visit.pageview).1.accepted
    have haccepted' := ((Serving.of_spawn? hs).offer hs visit'.pageview).1.accepted
    exact ⟨start, s, _, _, answer, visit.pageview, visit'.pageview, hs, rfl, hfirst, hsecond, hok,
      hwriter ▸ haccepted, hwriter' ▸ haccepted', congrArg Visit.pageview same⟩

end Http
end Pageviews
