import Pageviews.Client.Finding

/-! Consoles and television sets, readers of news, program libraries, and what else is left. -/
namespace Pageviews.Client

open Text (has leads)

/-- Consoles, television sets and readers that name themselves, in the order of the search. -/
def applianceRules : List (Clue × Product) :=
  [(.holds "PSP (PlayStation Portable)", .psp),
    (.holds "PlayStation Vita", .psVita),
    (.oneOf ["PLAYSTATION 3 ", "PLAYSTATION 3;"], .ps3),
    (.holds "PlayStation 4 ", .ps4),
    (.holds "Nintendo 3DS;", .nintendo3DS),
    (.holds "Nintendo DSi;", .nintendoDSi),
    (.holds "Nintendo Wii;", .nintendoWii),
    (.holds "(Nintendo WiiU)", .nintendoWiiU),
    (.holds "InettvBrowser/", .digitalTV),
    (.holds "AppleSyndication/", .safariRSSReader),
    (.holds "compatible; Google Desktop/", .googleDesktop),
    (.holds "Windows-RSS-Platform", .windowsRSSReader)]

/-- Networked applications of one Apple library run on its telephones. -/
def networkLibrary? (text : List Char) (f : Finding) : Option Finding :=
  if has "CFNetwork/" text then
    some { f with system := Product.ios.entry.name, category := some .smartphone }
  else none

/-- A browser that tells only its own name runs on the system it was made for. -/
def lesserBrowser? (text : List Char) (f : Finding) : Option Finding :=
  if has "Sleipnir/" text then
    some ((f.isProduct .sleipnir (versionOr (versionAfter "Sleipnir/" text))).runs .win)
  else none

private def aheadOneOf (words : List String) (ahead : List Char) : Option (List Char) :=
  words.findSome? fun word => Text.after? word.toList ahead

private def isJava (text : List Char) : Bool :=
  (aheadOneOf ["Apache-HttpClient/", "Jakarta Commons-HttpClient/", "Java/"] text).isSome ||
  (Text.search (fun ahead => do
    let rest ← aheadOneOf ["-HttpClient", " HttpClient"] ahead
    if rest = [] ∨ rest.head? = some '/' then some () else none) text).isSome ||
  has "Java(TM) 2 Runtime Environment," text

private def isPhp (text : List Char) : Bool :=
  (do
    let rest ← aheadOneOf ["PHP", "WordPress", "CakePHP", "PukiWiki", "PECL::HTTP"] text
    if rest = [] ∨ rest.head? = some '/' ∨ rest.head? = some ' ' then some () else none).isSome ||
  (Text.search (fun ahead => do
    let rest ← Text.after? "HTTP_Request".toList ahead
    aheadOneOf [" class", "2"] rest) text).isSome

/-- The program library that sent the request, by the name of its language or tool. -/
private def library? (text : List Char) : Option String :=
  if isJava text then some "Java"
  else if leads "Wget/" text then some "wget"
  else if ["libwww-perl", "WWW-Mechanize", "LWP::Simple", "LWP ", "lwp-trivial"].any (leads · text)
  then some "perl"
  else if ["Ruby", "feedzirra", "Typhoeus"].any (leads · text) then some "ruby"
  else if ["Python-urllib/", "Twisted "].any (leads · text) then some "python"
  else if isPhp text then some "php"
  else if leads "curl/" text then some "curl"
  else none

/-- The capitals of ASCII, the long s and the sign for kelvin as small letters. -/
private def foldCase (c : Char) : Char :=
  if c = '\u017f' then 's' else if c = '\u212a' then 'k' else c.toLower

private def isFeedReader (text : List Char) : Bool :=
  (Text.search (fun ahead => do
    let rest ← Text.after? "rss".toList ahead
    if (aheadOneOf ["reader", "bar"] rest).isSome then some ()
    else if rest.head?.any ("-_ /;()".toList.contains ·) then some ()
    else if (rest.dropWhile (fun c => c = ' ' || c = '+')).head? = some '/' then some ()
    else none) (text.map foldCase)).isSome ||
  has "headline-reader" (text.map Char.toLower) || has "cococ/" text

private def isLesserCrawler (text : List Char) : Bool :=
  let folded := text.map foldCase
  (Text.search (fun ahead => do
    let rest ← aheadOneOf ["bot", "crawler", "spider"] ahead
    if rest = [] ∨ rest.head?.any ("-_ ./;@()".toList.contains ·) then some () else none)
    folded).isSome ||
  ["Rome Client ", "UnwindFetchor/", "ia_archiver ", "Summify ", "PostRank/",
    "ASP-Ranker Feed Crawler"].any (has · text) ||
  ["feedparser", "feed parser", "webparser", "web parser", "watchdog", "watch dog"].any (has · folded)

/-- What is left: applications, libraries, readers of news and crawlers that do not say so. -/
def rareCase? (text : List Char) (f : Finding) : Option Finding :=
  (networkLibrary? text f).or <| (lesserBrowser? text f).or <|
  match library? text with
  | some library => some (f.isProduct .httpLibrary library.toList)
  | none =>
    if isFeedReader text then some (f.populate .variousRSSReader)
    else if isLesserCrawler text then some (f.populate .variousCrawler)
    else none

end Pageviews.Client
