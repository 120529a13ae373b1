import Pageviews.Client.Appliance
import Pageviews.Client.Browser
import Pageviews.Client.Crawler
import Pageviews.Client.Telephone

/-! What a user agent text gives away: the first kind of client that recognizes it wins. -/
namespace Pageviews.Client

/-- The finding of a text in which nothing but a crawler or a browser is looked for first. -/
def findingAfterBrowser? (text : List Char) : Option Finding :=
  (telephone? text .start).or <|
  ((firstMatch? applianceRules text).map Finding.start.populate).or <|
  match system text .start with
  | (f, true) => some f
  | (f, false) => rareCase? text f

/-- What is found out from a text; a text that says nothing is recognized as just that. -/
def finding? (text : List Char) : Option Finding :=
  if text = [] ∨ text = ['-'] then some .start
  else match crawler? text with
    | some product => some (Finding.start.populate product)
    | none => match browser? text .start with
      | some f => some (system text f).1
      | none => findingAfterBrowser? text

end Pageviews.Client
