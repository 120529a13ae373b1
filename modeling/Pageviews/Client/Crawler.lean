import Pageviews.Client.Finding

/-! Crawlers that name themselves, in the order in which they are looked for. -/
namespace Pageviews.Client

private def googleRules : List (Clue × Product) :=
  [(.holds "compatible; Googlebot-Mobile", .googleBotMobile),
    (.holds "compatible; Googlebot", .googleBot),
    (.holds "compatible; AdsBot-Google-Mobile;", .adsBotGoogleMobile),
    (.begins "AdsBot-Google", .adsBotGoogle),
    (.holds "Googlebot-Image/", .googleBot),
    (.holds "compatible; Mediapartners-Google", .googleMediaPartners),
    (.equals "Mediapartners-Google", .googleMediaPartners),
    (.holds "Feedfetcher-Google;", .googleFeedFetcher),
    (.holds "AppEngine-Google", .googleAppEngine),
    (.holds "Google Web Preview", .googleWebPreview)]

/-- Some crawlers are looked for only in texts that name the company or its pages. -/
private def yahooClue : Clue :=
  .oneOf ["Yahoo", "help.yahoo.co.jp/help/jp/", "listing.yahoo.co.jp/support/faq/"]

private def yahooRules : List (Clue × Product) :=
  [(.holds "compatible; Yahoo! Slurp", .yahooSlurp),
    (.both yahooClue (.oneOf
      ["YahooFeedSeekerJp", "YahooFeedSeekerBetaJp",
        "crawler (http://listing.yahoo.co.jp/support/faq/",
        "crawler (http://help.yahoo.co.jp/help/jp/",
        "Y!J-BRZ/YATSHA crawler", "Y!J-BRY/YATSH crawler"]), .yahooJP),
    (.holds "Yahoo Pipes", .yahooPipes)]

private def otherRules : List (Clue × Product) :=
  [(.holds "msnbot", .msnbot),
    (.holds "compatible; bingbot", .bingbot),
    (.holds "BingPreview", .bingPreview),
    (.oneOf ["compatible; Baiduspider", "Baiduspider+", "Baiduspider-image+"], .baiduspider),
    (.both (.holds "Yeti") (.oneOf
      ["http://help.naver.com/robots", "http://help.naver.com/support/robots.html",
        "http://naver.me/bot"]), .yeti),
    (.holds "FeedBurner/", .feedBurner),
    (.holds "facebookexternalhit", .facebook),
    (.holds "Twitterbot/", .twitter),
    (.both (.holds "ichiro") (.oneOf
      ["http://help.goo.ne.jp/door/crawler.html", "compatible; ichiro/mobile goo;"]), .goo),
    (.holds "gooblogsearch/", .goo),
    (.holds "Apple-PubSub", .applePubSub),
    (.holds "(www.radian6.com/crawler)", .radian6),
    (.holds "Genieo/", .genieo),
    (.holds "labs.topsy.com/butterfly/", .topsyButterfly),
    (.holds "rogerbot/1.0 (http://www.seomoz.org/dp/rogerbot", .rogerbot),
    (.holds "compatible; AhrefsBot/", .ahrefsBot),
    (.oneOf ["livedoor FeedFetcher", "Fastladder FeedFetcher"], .livedoorFeedFetcher),
    (.oneOf ["Hatena Antenna", "Hatena Pagetitle Agent", "Hatena Diary RSS"], .hatena),
    (.oneOf ["mixi-check", "mixi-crawler", "mixi-news-crawler"], .mixi),
    (.holds "compatible; Indy Library", .indyLibrary),
    (.holds "trendictionbot", .trendictionbot)]

def crawler? (text : List Char) : Option Product :=
  firstMatch? (googleRules ++ yahooRules ++ otherRules) text

end Pageviews.Client
