import Pageviews.Proofs.Http.Faults
import Pageviews.Proofs.Http.Recording
import Pageviews.Proofs.Json.Records
import Pageviews.Proofs.Writer.Offer

/-! How a report is answered. Main statement: with its first fault or with success, and nothing is
stored but the pageview of a report that is answered with success. -/
namespace Pageviews.Http

open Writer (Event Fate Offering Path Policy Sound)

/-- A body that is a JSON object with the single member `error`, which holds a message. -/
structure TellsError (body message : String) : Prop where
  text : body = Json.writeObject [("error", Json.writeString message)]
  read : Json.readRecord ["error".toList] body.toList = .ok ([message.toList], [])

theorem tellsError_error (status : Nat) (message : String) :
    TellsError (Response.error status message).body message := by
  refine ⟨rfl, ?_⟩
  have hnodup : ([("error", message)].map Prod.fst).Nodup := List.nodup_singleton _
  have hread := Json.readRecord_writeObject hnodup []
  rwa [List.append_nil] at hread

theorem Rejection.tellsError_answer (r : Rejection) :
    TellsError r.answer.response.body r.message :=
  tellsError_error r.status r.message

/-- The answer to a visit, once it is known whether its pageview was accepted. -/
def Visit.answer (v : Visit) (accepted : Bool) : Answer :=
  if accepted then ⟨(Response.empty 200 []).withHeaders sharedHeaders, [v.record]⟩
  else
    let refusal := (Rejection.closed Writer.closedMessage).answer
    { refusal with records := v.record :: refusal.records }

namespace Service

/-- What a report that is not answered with success leaves as it is. -/
structure Untouched (s t : Service) : Prop where
  lookup : t.lookup = s.lookup
  queue : t.writer.queue = s.writer.queue
  store : t.writer.store = s.writer.store
  accepted : t.writer.accepted = s.writer.accepted

theorem Untouched.refl (s : Service) : Untouched s s := ⟨rfl, rfl, rfl, rfl⟩

/-- The answer to a report whose producer has a number, in a later state of the writer. -/
def reply? (writer : Writer.State Pageview) (id : Nat) (visit : Visit) : Option Answer :=
  (writer.told? id).map visit.answer

theorem store_eq (s : Service) (visit : Visit) :
    s.store visit = ({ s with writer := (s.writer.offer visit.pageview).1 },
      reply? (s.writer.offer visit.pageview).1 s.writer.spawned visit) := by
  rw [reply?, Writer.State.told?, Option.map_map]
  rfl

end Service

/-- The answer to a report at some point after its pageview was offered: success if the pageview was
accepted, a failure if the writer was closed to it, and none while the queue is full. -/
inductive Reply (writer : Writer.State Pageview) (id : Nat) (p : Pageview) :
    Option Answer → Prop where
  | success {answer : Answer} (hstatus : answer.response.status = 200)
      (haccepted : writer.acceptedOf id = [p]) : Reply writer id p (some answer)
  | closed {answer : Answer} (hclosed : writer.isClosed = true)
      (hstatus : answer.response.status = 500)
      (hbody : TellsError answer.response.body "pageview writer is closed")
      (haccepted : writer.acceptedOf id = []) : Reply writer id p (some answer)
  | none (hopen : writer.isClosed = false) (hfull : writer.hasFreeSlot = false)
      (haccepted : writer.acceptedOf id = []) : Reply writer id p none

theorem Reply.of_fate {writer : Writer.State Pageview} {id : Nat} {visit : Visit}
    (h : Fate writer id visit.pageview) (hr : writer.IsAtRest) :
    Reply writer id visit.pageview (Service.reply? writer id visit) := by
  unfold Service.reply?
  cases htold : writer.told? id with
  | none =>
    obtain ⟨hopen, hfull, haccepted⟩ := h.pending htold hr
    exact .none hopen hfull haccepted
  | some accepted =>
    cases accepted with
    | true => exact .success rfl (h.taken htold)
    | false =>
      obtain ⟨hclosed, haccepted⟩ := h.refused htold
      exact .closed hclosed rfl (tellsError_error 500 _) haccepted

/-- How a report is answered, and what becomes of the service. -/
inductive Decision (s : Service) (a : Arrival) : Service × Option Answer → Prop where
  | refused {t : Service} {answer : Answer} {c : Complaint} (first : s.IsFirst a.request c)
      (status : answer.response.status = c.status)
      (body : TellsError answer.response.body c.message) (kept : s.Untouched t) :
      Decision s a (t, some answer)
  | recorded {t : Service} {answer : Answer} {p : Pageview} (sound : ∀ c, ¬ s.Fault a.request c)
      (free : s.writer.hasFreeSlot = true) (status : answer.response.status = 200)
      (reports : a.Reports p)
      (accepted : t.writer.accepted =
        s.writer.accepted ++ [⟨s.writer.now, s.writer.spawned, p⟩]) :
      Decision s a (t, some answer)
  | awaited {t : Service} {visit : Visit} (sound : ∀ c, ¬ s.Fault a.request c)
      (full : s.writer.hasFreeSlot = false) (kept : s.Untouched t)
      (reports : a.Reports visit.pageview)
      (later : ∀ events u, Path t.writer events u → u.IsAtRest →
        Reply u s.writer.spawned visit.pageview (Service.reply? u s.writer.spawned visit)) :
      Decision s a (t, none)

namespace Service

variable {s : Service} {a : Arrival}

theorem decision_store (hs : Sound s.writer) (hr : s.writer.IsAtRest) {visit : Visit}
    (hpasses : s.Passes a.request 6) (hreports : a.Reports visit.pageview) :
    Decision s a (s.store visit) := by
  rw [store_eq, reply?]
  cases hs.offering hr visit.pageview with
  | refused hc hq hstore ha ht =>
    rw [ht]
    exact .refused ⟨.closed hc, hpasses⟩ rfl (tellsError_error 500 _) ⟨rfl, hq, hstore, ha⟩
  | accepted hc hf ha ht =>
    rw [ht]
    exact .recorded (fun c => hpasses.sound hc) hf rfl hreports ha
  | waits hc hf hq hstore ha ht =>
    rw [ht]
    refine .awaited (fun c => hpasses.sound hc) hf ⟨rfl, hq, hstore, ha⟩ hreports ?_
    intro events u hp hrest
    exact .of_fate (hs.fate_of_offer visit.pageview hp) hrest

theorem decision_ingest (hs : Sound s.writer) (hr : s.writer.IsAtRest) :
    Decision s a (s.ingest a.time a.request) := by
  unfold ingest
  rcases s.refused_or_passes a.time a.request with
    ⟨rejection, c, hvisit, hfirst, htells⟩ | ⟨visit, hvisit, hpasses⟩
  · rw [hvisit]
    exact .refused hfirst htells.status (htells.message ▸ rejection.tellsError_answer) (.refl s)
  · rw [hvisit]
    exact decision_store hs hr hpasses (Visit.reports hvisit).1

end Service

/-- Every report gets the answer of its first fault, of which there is only one, or success if it
has none; while the queue is full it has to wait for that. Only a report that is answered with
success changes what is queued or stored. -/
theorem report_decided {policy : Policy} {start : Writer.State Pageview}
    {events : List (Event Pageview)} (hs : Writer.State.spawn? policy = some start) (s : Service)
    (hp : Path start events s.writer) (hr : s.writer.IsAtRest) (a : Arrival)
    (hreport : a.request.isReport = true) :
    (∀ c d, s.IsFirst a.request c → s.IsFirst a.request d → c = d) ∧
      Decision s a (s.handle a.time a.request) := by
  refine ⟨fun c d hc hd => hc.unique hd, ?_⟩
  rw [s.handle_of_isReport a.time hreport]
  exact Service.decision_ingest ((Sound.of_spawn? hs).path hp) hr

/-- A report with a bad referrer, to a service whose lookup fails and whose writer is closed: the
referrer comes first. -/
theorem report_decided_by_referrer : ∃ (start : Writer.State Pageview) (s t : Service)
    (r : Request) (answer : Answer),
    Writer.State.spawn? ⟨0, 9, 60⟩ = some start ∧
    s = ⟨fun _ => .error "down", start.take .shutdown⟩ ∧
    r = ⟨"POST", ⟨"/api/v1/events/pageviews".toList, none⟩,
      [("referer", "https://shop.example/"), ("x-prisme-document-referrer", "nowhere")], ""⟩ ∧
    s.Fault r ⟨4, 500, "failed to check source registration"⟩ ∧
    s.Fault r ⟨6, 500, "pageview writer is closed"⟩ ∧
    s.handle 7 r = (t, some answer) ∧ answer.response.status = 400 ∧
    TellsError answer.response.body
      "invalid document referrer: invalid referrer: relative URL without a base" ∧
    s.Untouched t := by
  have hcapacity : (⟨0, 9, 60⟩ : Policy).capacity ≤ Policy.maxSlots := by decide
  obtain ⟨start, hs⟩ := Writer.State.exists_spawn? (α := Pageview) hcapacity
  have hstep : start.step? .shutdown = some (start.take .shutdown) := by
    rw [Writer.State.eq_fresh hs]
    rfl
  have hclosed : (start.take .shutdown).isClosed = true := by
    rw [Writer.State.eq_fresh hs]
    cbv
  obtain ⟨hrest, events, hp, -⟩ :=
    Writer.State.exists_path_of_step? (Writer.State.isAtRest_of_spawn? hs) hstep
  let s : Service := ⟨fun _ => .error "down", start.take .shutdown⟩
  let r : Request := ⟨"POST", ⟨"/api/v1/events/pageviews".toList, none⟩,
    [("referer", "https://shop.example/"), ("x-prisme-document-referrer", "nowhere")], ""⟩
  have hraw : r.NamesPage "https://shop.example/" := Request.namesPage_iff.mpr rfl
  obtain ⟨page, hpage, hdomain⟩ : ∃ page, Url.parse "https://shop.example/" = .ok page ∧
      Domain.parse (String.ofList page.hostText) = .ok ⟨"shop.example"⟩ := ⟨_, rfl, rfl⟩
  have hsite : r.NamesSite ⟨"shop.example"⟩ := ⟨_, page, hraw, hpage, hdomain⟩
  have hreferrer : Referrer.parse "nowhere" = .error (.invalidUrl .relative) := rfl
  have hfault : s.Fault r ⟨2, 400,
      "invalid document referrer: invalid referrer: relative URL without a base"⟩ :=
    .badReferrer (Request.header?_eq_some_iff.mp rfl) (by decide) hreferrer
  have hfirst := Service.IsFirst.mk hfault
    (((Service.Passes.zero s r).named hraw (by decide)).parsed hraw hpage)
  obtain ⟨hunique, hdecision⟩ := report_decided hs s hp hrest ⟨r, 7, 0⟩ rfl
  generalize hresult : s.handle 7 r = result at hdecision
  cases hdecision with
  | @refused t answer c first status body kept =>
    obtain rfl := hunique _ _ first hfirst
    exact ⟨_, s, t, r, answer, hs, rfl, rfl, .lookupFailed hsite rfl, .closed hclosed, hresult,
      status, body, kept⟩
  | recorded sound | awaited sound => exact absurd hfault (sound _)

end Pageviews.Http
