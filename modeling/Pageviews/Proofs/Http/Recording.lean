import Mathlib.Data.List.Forall2
import Pageviews.Http.Service
import Pageviews.Proofs.Http.Visit
import Pageviews.Proofs.Writer.Acceptance

/-! What a service records. Main statement: the store has one pageview for each report of a
registered site that was answered with success, in the order of the requests, and nothing else. -/
namespace Pageviews.Http

open Writer (Policy Serving)

/-- A request, the clock reading that dates it, and the time since the one before. -/
structure Arrival where
  request : Request
  time : Nat
  wait : Nat

def Request.isReport (r : Request) : Bool :=
  r.method = "POST" && r.target.path = "/api/v1/events/pageviews".toList

/-- The pageview that a request reports, by the page and the client that it names. -/
def Arrival.Reports (a : Arrival) (p : Pageview) : Prop :=
  ∃ raw page, pageUrl? a.request = some raw ∧ Url.parse raw = .ok page ∧
    Pageview.record a.time page (Client.ofUserAgent ((a.request.header? "user-agent").getD "")) =
      .ok p

def Arrival.isRecorded (a : Arrival) (answer : Answer) : Bool :=
  a.request.isReport && answer.response.status = 200

namespace Service

def serve (s : Service) (a : Arrival) : Service × Option Answer :=
  ({ s with writer := s.writer.take (.advance a.wait) } : Service).handle a.time a.request

/-- Answer requests that come one after the other, each when the one before has its answer. -/
def serveAll? (s : Service) : List Arrival → Option (Service × List Answer)
  | [] => some (s, [])
  | a :: arrivals =>
    match s.serve a with
    | (_, none) => none
    | (t, some answer) => do
      let (last, answers) ← t.serveAll? arrivals
      return (last, answer :: answers)

end Service

theorem Route.path_eq {path : List Char} (h : Route.ofPath? path = some .pageviews) :
    path = "/api/v1/events/pageviews".toList := by
  unfold Route.ofPath? at h
  split at h
  · cases h
  · split at h
    · next hpath => exact hpath
    · split at h
      · split at h <;> cases h
      · cases h

theorem Route.ofPath?_pageviews :
    Route.ofPath? "/api/v1/events/pageviews".toList = some .pageviews := by decide

theorem Rejection.status_ne (r : Rejection) : r.status ≠ 200 := by
  cases r <;> simp [status]

theorem Rejection.status_answer (r : Rejection) : r.answer.response.status = r.status := rfl

/-- A visit is one to a page that the lookup knows. -/
theorem Visit.reports {lookup : Lookup} {a : Arrival} {visit : Visit}
    (h : Visit.ofRequest lookup a.time a.request = .ok visit) :
    a.Reports visit.pageview ∧ lookup visit.pageview.domain = .ok true := by
  have hreading := Visit.reading lookup a.time a.request
  rw [h] at hreading
  cases hreading with
  | @visit raw page _ _ hnames hdomain hlookup =>
    refine ⟨⟨raw, page, hnames.url, hnames.page, ?_⟩, hlookup⟩
    rw [Pageview.record_eq, hdomain]
    rfl

namespace Service

variable {start : Writer.State Pageview} {rows : List Pageview} {policy : Policy}

/-- Nothing but a report changes the service. -/
theorem handle_of_not_isReport (s : Service) (time : Nat) {r : Request}
    (h : r.isReport = false) : ∃ answer, s.handle time r = (s, some answer) := by
  unfold handle
  cases hroute : Route.ofPath? r.target.path with
  | none => exact ⟨_, rfl⟩
  | some route =>
    cases route with
    | health | asset => exact ⟨_, rfl⟩
    | pageviews =>
      have hmethod : r.method ≠ "POST" := by
        intro hm
        simp [Request.isReport, hm, Route.path_eq hroute] at h
      simp only [if_neg hmethod]
      split
      · exact ⟨_, rfl⟩
      · exact ⟨_, rfl⟩

theorem handle_of_isReport (s : Service) (time : Nat) {r : Request} (h : r.isReport = true) :
    s.handle time r = s.ingest time r := by
  rw [Request.isReport, Bool.and_eq_true, decide_eq_true_eq, decide_eq_true_eq] at h
  unfold handle
  rw [h.2, Route.ofPath?_pageviews]
  exact if_pos h.1

/-- The pageviews that a request adds to those that the writer has accepted. -/
inductive Adds (s : Service) (a : Arrival) (answer : Answer) : List Pageview → Prop where
  | nothing (h : a.isRecorded answer = false) : Adds s a answer []
  | pageview {p : Pageview} (h : a.isRecorded answer = true) (hp : a.Reports p)
      (hl : s.lookup p.domain = .ok true) : Adds s a answer [p]

theorem Adds.of_lookup {s t : Service} {a : Arrival} {answer : Answer} {more : List Pageview}
    (h : t.Adds a answer more) (hlookup : s.lookup = t.lookup) : s.Adds a answer more := by
  cases h with
  | nothing hn => exact .nothing hn
  | pageview hr hp hl => exact .pageview hr hp (hlookup ▸ hl)

/-- A service whose writer takes everything at once answers a request at once. -/
theorem exists_handle (hs : Writer.State.spawn? policy = some start) (s : Service)
    (h : Serving start s.writer rows) (a : Arrival) :
    ∃ (t : Service) (answer : Answer) (more : List Pageview),
      s.handle a.time a.request = (t, some answer) ∧ t.lookup = s.lookup ∧
      Serving start t.writer (rows ++ more) ∧ s.Adds a answer more := by
  cases hreport : a.request.isReport with
  | false =>
    obtain ⟨answer, hanswer⟩ := s.handle_of_not_isReport a.time hreport
    refine ⟨s, answer, [], hanswer, rfl, by rwa [List.append_nil], .nothing ?_⟩
    simp [Arrival.isRecorded, hreport]
  | true =>
    rw [s.handle_of_isReport a.time hreport]
    unfold ingest
    cases hvisit : Visit.ofRequest s.lookup a.time a.request with
    | error rejection =>
      refine ⟨s, rejection.answer, [], rfl, rfl, by rwa [List.append_nil], .nothing ?_⟩
      simp [Arrival.isRecorded, rejection.status_answer, rejection.status_ne]
    | ok visit =>
      obtain ⟨hserving, hended⟩ := h.offer hs visit.pageview
      obtain ⟨hreports, hlookup⟩ := Visit.reports hvisit
      refine ⟨{ s with writer := (s.writer.offer visit.pageview).1 },
        ⟨(Response.empty 200 []).withHeaders sharedHeaders, [visit.record]⟩, [visit.pageview],
        ?_, rfl, hserving, .pageview ?_ hreports hlookup⟩
      · simp [store, hended]
      · simp [Arrival.isRecorded, hreport, Response.withHeaders, Response.empty]

/-- Requests that come one after the other are all answered, and their pageviews are accepted in
their order. -/
theorem exists_serveAll? (hs : Writer.State.spawn? policy = some start) (s : Service)
    (h : Serving start s.writer rows) (arrivals : List Arrival) :
    ∃ (last : Service) (answers : List Answer) (added : List (List Pageview)),
      s.serveAll? arrivals = some (last, answers) ∧
      Serving start last.writer (rows ++ added.flatten) ∧
      List.Forall₂ (fun (x : Arrival × Answer) more => s.Adds x.1 x.2 more)
        (arrivals.zip answers) added ∧ answers.length = arrivals.length := by
  induction arrivals generalizing s rows with
  | nil => exact ⟨s, [], [], rfl, by simpa using h, .nil, rfl⟩
  | cons a arrivals ih =>
    have hwaited := h.advance hs a.wait
    obtain ⟨t, answer, more, hanswer, hlookup, hserving, hadds⟩ :=
      exists_handle hs { s with writer := s.writer.take (.advance a.wait) } hwaited a
    obtain ⟨last, answers, added, hall, hlast, hforall, hlength⟩ := ih t hserving
    refine ⟨last, answer :: answers, more :: added, ?_, ?_, ?_, ?_⟩
    · have hserve : s.serve a = (t, some answer) := hanswer
      simp [serveAll?, hserve, hall]
    · rw [List.flatten_cons, ← List.append_assoc]
      exact hlast
    · have hrest := hforall.imp fun x more hx => Adds.of_lookup (s := s) hx hlookup.symm
      exact .cons (hadds.of_lookup rfl) hrest
    · rw [List.length_cons, List.length_cons, hlength]

/-- Each of the recorded requests adds its pageview, and no other request adds any. -/
theorem forall₂_of_adds {s : Service} {exchanges : List (Arrival × Answer)}
    {added : List (List Pageview)}
    (h : List.Forall₂ (fun (x : Arrival × Answer) more => s.Adds x.1 x.2 more) exchanges added) :
    List.Forall₂ (fun (x : Arrival × Answer) p => x.1.Reports p ∧ s.lookup p.domain = .ok true)
      (exchanges.filter fun x => x.1.isRecorded x.2) added.flatten := by
  induction h with
  | nil => exact .nil
  | @cons x more exchanges added hx _ ih =>
    cases hx with
    | nothing hn =>
      rw [List.filter_cons_of_neg (by simp [hn])]
      exact ih
    | pageview hr hp hl =>
      rw [List.filter_cons_of_pos (by simp [hr])]
      exact .cons ⟨hp, hl⟩ ih

end Service

/-- Whatever is asked of a service, once its writer has been shut down the store has, in the order
of the requests, the pageview of each report that was answered with success, and no other. Each of
them is of a domain that the registry lists. -/
theorem stored_eq_recorded {policy : Policy} (hc : policy.capacity ≤ Policy.maxSlots)
    {sources : String} {domains : List Domain} (hd : Registry.parseList sources = .ok domains)
    (arrivals : List Arrival) :
    ∃ (writer : Writer.State Pageview) (last : Service) (answers : List Answer),
      Writer.State.spawn? policy = some writer ∧
      Service.serveAll? ⟨.ofRegistry (.ofList domains), writer⟩ arrivals = some (last, answers) ∧
      answers.length = arrivals.length ∧
      (last.writer.take .shutdown).phase = .ended none ∧
      List.Forall₂ (fun (x : Arrival × Answer) p => x.1.Reports p ∧
          ∃ entry ∈ Registry.entries sources, Domain.parse entry = .ok p.domain)
        ((arrivals.zip answers).filter fun x => x.1.isRecorded x.2)
        (last.writer.take .shutdown).store.sent.flatten := by
  obtain ⟨writer, hs⟩ := Writer.State.exists_spawn? (α := Pageview) hc
  obtain ⟨last, answers, added, hall, hserving, hadds, hlength⟩ :=
    Service.exists_serveAll? hs ⟨.ofRegistry (.ofList domains), writer⟩ (.of_spawn? hs) arrivals
  obtain ⟨hphase, hstored⟩ := hserving.shutdown hs
  refine ⟨writer, last, answers, hs, hall, hlength, hphase, ?_⟩
  rw [hstored, List.nil_append]
  refine (Service.forall₂_of_adds hadds).imp fun x p ⟨hreports, hlookup⟩ => ⟨hreports, ?_⟩
  have hmem : p.domain ∈ domains := Registry.isRegistered_ofList.mp (Except.ok.inj hlookup)
  exact (Registry.mem_of_parseList hd).mp hmem

def Request.report (page : String) : Request :=
  ⟨"POST", ⟨"/api/v1/events/pageviews".toList, none⟩, [("referer", page)], ""⟩

/-- Of two reports one is of a registered site: its pageview is all that is stored. -/
theorem stored_one_of_two :
    ∃ (writer : Writer.State Pageview) (last : Service) (first second : Answer) (p : Pageview),
      Writer.State.spawn? ⟨0, 9, 60⟩ = some writer ∧
      Service.serveAll? ⟨.ofRegistry (.ofList [⟨"blog.example"⟩]), writer⟩
          [⟨.report "https://other.example/", 0, 0⟩, ⟨.report "https://Blog.example/post", 1, 1⟩] =
        some (last, [first, second]) ∧
      (first.response.status, second.response.status) = (400, 200) ∧
      (last.writer.take .shutdown).store.sent.flatten = [p] ∧
      Arrival.Reports ⟨.report "https://Blog.example/post", 1, 1⟩ p ∧
      p.domain = ⟨"blog.example"⟩ := by
  have hcapacity : (⟨0, 9, 60⟩ : Policy).capacity ≤ Policy.maxSlots := by decide
  have hsources : Registry.parseList "Blog.example" = .ok [⟨"blog.example"⟩] := rfl
  obtain ⟨writer, last, answers, hs, hall, -, -, hstored⟩ :=
    stored_eq_recorded hcapacity hsources
      [⟨.report "https://other.example/", 0, 0⟩, ⟨.report "https://Blog.example/post", 1, 1⟩]
  have hfirst : Service.serve ⟨.ofRegistry (.ofList [⟨"blog.example"⟩]), writer⟩
      ⟨.report "https://other.example/", 0, 0⟩ =
        (⟨.ofRegistry (.ofList [⟨"blog.example"⟩]), writer.take (.advance 0)⟩,
          some (Rejection.unregistered ⟨"other.example"⟩).answer) := rfl
  obtain ⟨visit, hvisit⟩ : ∃ visit, Visit.ofRequest (.ofRegistry (.ofList [⟨"blog.example"⟩])) 1
      (.report "https://Blog.example/post") = .ok visit := ⟨_, rfl⟩
  obtain ⟨t, answer, hsecond, hstatus⟩ : ∃ t answer,
      Service.serve ⟨.ofRegistry (.ofList [⟨"blog.example"⟩]), writer.take (.advance 0)⟩
        ⟨.report "https://Blog.example/post", 1, 1⟩ = (t, some answer) ∧
      answer.response.status = 200 := by
    obtain ⟨-, hended⟩ :=
      (((Serving.of_spawn? hs).advance hs 0).advance hs 1).offer hs visit.pageview
    rw [Service.serve, Service.handle_of_isReport _ _ (by decide)]
    simp [Service.ingest, hvisit, Service.store, hended, Response.withHeaders, Response.empty]
  simp only [Service.serveAll?, hfirst, hsecond] at hall
  cases hall
  have hrejected : Arrival.isRecorded ⟨.report "https://other.example/", 0, 0⟩
      (Rejection.unregistered ⟨"other.example"⟩).answer = false := rfl
  have hrecorded :
      Arrival.isRecorded ⟨.report "https://Blog.example/post", 1, 1⟩ answer = true := by
    simp only [Arrival.isRecorded, hstatus]
    decide
  simp only [List.zip_cons_cons, List.zip_nil_left, List.filter_cons, hrejected, hrecorded,
    List.filter_nil] at hstored
  obtain ⟨p, rest, ⟨hreports, entry, hentry, hdomain⟩, hrest, hsent⟩ :=
    List.forall₂_cons_left_iff.mp hstored
  obtain rfl := List.forall₂_nil_left_iff.mp hrest
  have hentries : Registry.entries "Blog.example" = ["Blog.example"] := rfl
  rw [hentries, List.mem_singleton] at hentry
  subst entry
  refine ⟨writer, t, (Rejection.unregistered ⟨"other.example"⟩).answer, answer, p, hs, ?_, ?_,
    hsent, hreports, ?_⟩
  · simp only [Service.serveAll?, hfirst, hsecond]
    rfl
  · rw [hstatus]
    rfl
  · exact (Except.ok.inj hdomain).symm

end Pageviews.Http
