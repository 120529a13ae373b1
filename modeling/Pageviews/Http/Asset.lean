/-! The files that are served: the tracker, a script that pages load to report their visits. -/
namespace Pageviews.Http

def trackerLines : List String := [
  "(function () \x7b",
  "  var script = document.currentScript",
  "  var dataset = script.dataset",
  "  var api = dataset.prismeApi || new URL(script.src).origin.concat(\"/api/v1\")",
  "  var domain = dataset.domain || location.host",
  "  var referrer = document.referrer.replace(location.host, domain)",
  "",
  "  function pageUrl() \x7b",
  "    return location.toString().replace(location.host, domain)",
  "  \x7d",
  "",
  "  function pageview() \x7b",
  "    var url = pageUrl()",
  "",
  "    fetch(api.concat(\"/events/pageviews\"), \x7b",
  "      method: \"POST\",",
  "      headers: \x7b",
  "        \"Access-Control-Max-Age\": 3600,",
  "        \"X-Prisme-Referrer\": url,",
  "        \"X-Prisme-Document-Referrer\": referrer",
  "      \x7d,",
  "      keepalive: true,",
  "      referrerPolicy: \"no-referrer-when-downgrade\"",
  "    \x7d)",
  "",
  "    referrer = url",
  "  \x7d",
  "",
  "  pageview()",
  "",
  "  if (window.history) \x7b",
  "    var pushState = window.history.pushState",
  "    window.history.pushState = function () \x7b",
  "      pushState.apply(window.history, arguments)",
  "      pageview()",
  "    \x7d",
  "    window.addEventListener(\"popstate\", pageview)",
  "  \x7d",
  "\x7d)()"]

def tracker : String := String.join (trackerLines.map (· ++ "\n"))

structure Asset where
  contentType : String
  text : String
  deriving DecidableEq

def asset? (name : String) : Option Asset :=
  if name = "prisme.js" ∨ name = "p.js" then some ⟨"text/javascript", tracker⟩ else none

end Pageviews.Http
