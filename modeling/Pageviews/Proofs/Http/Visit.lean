import Pageviews.Http.Ingestion

/-! How a request is read. Main statement: a rule for each way in which a visit is found, or not. -/
namespace Pageviews

theorem Pageview.record_eq (time : Nat) (page : Url) (client : Client) :
    record time page client = (Domain.parse (String.ofList page.hostText)).map
      fun domain => ⟨time, domain, String.ofList page.path, client⟩ := by
  unfold record
  cases Domain.parse (String.ofList page.hostText) <;> rfl

namespace Http

/-- What the headers of a request tell of page and referrer. -/
structure Request.Names (r : Request) (raw : String) (page : Url) (referrer : Referrer) : Prop where
  url : pageUrl? r = some raw
  page : Url.parse raw = .ok page
  referrer : Referrer.parse ((r.header? "x-prisme-document-referrer").getD "") = .ok referrer

/-- How a request is read, with all that has been found before it is refused. -/
inductive Reading (lookup : Lookup) (time : Nat) (r : Request) : Except Rejection Visit → Prop where
  | missing (hurl : pageUrl? r = none) : Reading lookup time r (.error .missingUrl)
  | unparsed {raw : String} {cause : Url.ParseError} (hurl : pageUrl? r = some raw)
      (hpage : Url.parse raw = .error cause) :
      Reading lookup time r (.error (.invalidUrl raw cause))
  | misreferred {raw : String} {page : Url} {cause : ReferrerError} (hurl : pageUrl? r = some raw)
      (hpage : Url.parse raw = .ok page)
      (hreferrer : Referrer.parse ((r.header? "x-prisme-document-referrer").getD "") = .error cause) :
      Reading lookup time r (.error (.invalidReferrer cause))
  | unhosted {raw : String} {page : Url} {referrer : Referrer} {cause : InvalidDomain}
      (hnames : r.Names raw page referrer)
      (hdomain : Domain.parse (String.ofList page.hostText) = .error cause) :
      Reading lookup time r (.error (.invalidDomain page cause))
  | unanswered {raw : String} {page : Url} {referrer : Referrer} {domain : Domain} {cause : String}
      (hnames : r.Names raw page referrer)
      (hdomain : Domain.parse (String.ofList page.hostText) = .ok domain)
      (hlookup : lookup domain = .error cause) :
      Reading lookup time r (.error (.lookupFailed domain cause))
  | unlisted {raw : String} {page : Url} {referrer : Referrer} {domain : Domain}
      (hnames : r.Names raw page referrer)
      (hdomain : Domain.parse (String.ofList page.hostText) = .ok domain)
      (hlookup : lookup domain = .ok false) :
      Reading lookup time r (.error (.unregistered domain))
  | visit {raw : String} {page : Url} {referrer : Referrer} {domain : Domain}
      (hnames : r.Names raw page referrer)
      (hdomain : Domain.parse (String.ofList page.hostText) = .ok domain)
      (hlookup : lookup domain = .ok true) :
      Reading lookup time r (.ok
        ⟨⟨time, domain, String.ofList page.path,
          Client.ofUserAgent ((r.header? "user-agent").getD "")⟩, referrer⟩)

theorem Visit.reading (lookup : Lookup) (time : Nat) (r : Request) :
    Reading lookup time r (ofRequest lookup time r) := by
  unfold ofRequest
  split
  · next hurl => exact .missing hurl
  · next raw hurl =>
    split
    · next cause hpage => exact .unparsed hurl hpage
    · next page hpage =>
      split
      · next cause hreferrer => exact .misreferred hurl hpage hreferrer
      · next referrer hreferrer =>
        have hnames : r.Names raw page referrer := ⟨hurl, hpage, hreferrer⟩
        simp only [Pageview.record_eq]
        cases hdomain : Domain.parse (String.ofList page.hostText) with
        | error cause => exact .unhosted hnames hdomain
        | ok domain =>
          simp only [Except.map]
          split
          · next cause hlookup => exact .unanswered hnames hdomain hlookup
          · next hlookup => exact .unlisted hnames hdomain hlookup
          · next hlookup => exact .visit hnames hdomain hlookup

end Http
end Pageviews
