/-! The known products: browsers, systems, devices and crawlers, with what is on record of each. -/
namespace Pageviews.Client

inductive Category where
  | pc
  | smartphone
  | mobilePhone
  | appliance
  | misc
  | crawler
  deriving DecidableEq

/-- What is on record of a product; a browser fixes neither a category nor a system. -/
structure Entry where
  name : String
  category : Option Category
  system : Option String

inductive Product where
  | msie
  | edge
  | chrome
  | safari
  | firefox
  | opera
  | vivaldi
  | sleipnir
  | gsa
  | webview
  | yaBrowser
  | samsungBrowser
  | win
  | win10
  | win8Point1
  | win8
  | win7
  | winVista
  | winXP
  | win2000
  | winNT4
  | winMe
  | win98
  | win95
  | winPhone
  | winCE
  | osx
  | macOS
  | linux
  | bsd
  | chromeOS
  | android
  | iPhone
  | iPad
  | iPod
  | ios
  | firefoxOS
  | blackBerry
  | blackBerry10
  | docomo
  | au
  | softBank
  | willcom
  | jig
  | emobile
  | symbianOS
  | mobileTranscoder
  | nintendo3DS
  | nintendoDSi
  | nintendoWii
  | nintendoWiiU
  | psp
  | psVita
  | ps3
  | ps4
  | xbox360
  | xboxOne
  | digitalTV
  | safariRSSReader
  | googleDesktop
  | windowsRSSReader
  | variousRSSReader
  | httpLibrary
  | googleBot
  | googleBotMobile
  | googleMediaPartners
  | googleFeedFetcher
  | googleAppEngine
  | googleWebPreview
  | yahooSlurp
  | yahooJP
  | yahooPipes
  | baiduspider
  | msnbot
  | bingbot
  | bingPreview
  | yeti
  | feedBurner
  | facebook
  | twitter
  | trendictionbot
  | mixi
  | indyLibrary
  | applePubSub
  | genieo
  | topsyButterfly
  | rogerbot
  | ahrefsBot
  | radian6
  | hatena
  | goo
  | livedoorFeedFetcher
  | variousCrawler
  | adsBotGoogleMobile
  | adsBotGoogle
  deriving DecidableEq

def Product.entry : Product → Entry
  | .msie => ⟨"Internet Explorer", none, none⟩
  | .edge => ⟨"Edge", none, none⟩
  | .chrome => ⟨"Chrome", none, none⟩
  | .safari => ⟨"Safari", none, none⟩
  | .firefox => ⟨"Firefox", none, none⟩
  | .opera => ⟨"Opera", none, none⟩
  | .vivaldi => ⟨"Vivaldi", none, none⟩
  | .sleipnir => ⟨"Sleipnir", none, none⟩
  | .gsa => ⟨"Google Search App", none, none⟩
  | .webview => ⟨"Webview", none, none⟩
  | .yaBrowser => ⟨"Yandex Browser", none, none⟩
  | .samsungBrowser => ⟨"SamsungBrowser", none, none⟩
  | .win => ⟨"Windows UNKNOWN Ver", some .pc, none⟩
  | .win10 => ⟨"Windows 10", some .pc, none⟩
  | .win8Point1 => ⟨"Windows 8.1", some .pc, none⟩
  | .win8 => ⟨"Windows 8", some .pc, none⟩
  | .win7 => ⟨"Windows 7", some .pc, none⟩
  | .winVista => ⟨"Windows Vista", some .pc, none⟩
  | .winXP => ⟨"Windows XP", some .pc, none⟩
  | .win2000 => ⟨"Windows 2000", some .pc, none⟩
  | .winNT4 => ⟨"Windows NT 4.0", some .pc, none⟩
  | .winMe => ⟨"Windows Me", some .pc, none⟩
  | .win98 => ⟨"Windows 98", some .pc, none⟩
  | .win95 => ⟨"Windows 95", some .pc, none⟩
  | .winPhone => ⟨"Windows Phone OS", some .smartphone, none⟩
  | .winCE => ⟨"Windows CE", some .smartphone, none⟩
  | .osx => ⟨"Mac OSX", some .pc, none⟩
  | .macOS => ⟨"Mac OS Classic", some .pc, none⟩
  | .linux => ⟨"Linux", some .pc, none⟩
  | .bsd => ⟨"BSD", some .pc, none⟩
  | .chromeOS => ⟨"ChromeOS", some .pc, none⟩
  | .android => ⟨"Android", some .smartphone, none⟩
  | .iPhone => ⟨"iPhone", some .smartphone, none⟩
  | .iPad => ⟨"iPad", some .smartphone, none⟩
  | .iPod => ⟨"iPod", some .smartphone, none⟩
  | .ios => ⟨"iOS", some .smartphone, none⟩
  | .firefoxOS => ⟨"Firefox OS", some .smartphone, none⟩
  | .blackBerry => ⟨"BlackBerry", some .smartphone, none⟩
  | .blackBerry10 => ⟨"BlackBerry 10", some .smartphone, none⟩
  | .docomo => ⟨"docomo", some .mobilePhone, some "docomo"⟩
  | .au => ⟨"au by KDDI", some .mobilePhone, some "au"⟩
  | .softBank => ⟨"SoftBank Mobile", some .mobilePhone, some "SoftBank"⟩
  | .willcom => ⟨"WILLCOM", some .mobilePhone, some "WILLCOM"⟩
  | .jig => ⟨"jig browser", some .mobilePhone, some "jig"⟩
  | .emobile => ⟨"emobile", some .mobilePhone, some "emobile"⟩
  | .symbianOS => ⟨"SymbianOS", some .mobilePhone, some "SymbianOS"⟩
  | .mobileTranscoder => ⟨"Mobile Transcoder", some .mobilePhone, some "Mobile Transcoder"⟩
  | .nintendo3DS => ⟨"Nintendo 3DS", some .appliance, some "Nintendo 3DS"⟩
  | .nintendoDSi => ⟨"Nintendo DSi", some .appliance, some "Nintendo DSi"⟩
  | .nintendoWii => ⟨"Nintendo Wii", some .appliance, some "Nintendo Wii"⟩
  | .nintendoWiiU => ⟨"Nintendo Wii U", some .appliance, some "Nintendo Wii U"⟩
  | .psp => ⟨"PlayStation Portable", some .appliance, some "PlayStation Portable"⟩
  | .psVita => ⟨"PlayStation Vita", some .appliance, some "PlayStation Vita"⟩
  | .ps3 => ⟨"PlayStation 3", some .appliance, some "PlayStation 3"⟩
  | .ps4 => ⟨"PlayStation 4", some .appliance, some "PlayStation 4"⟩
  | .xbox360 => ⟨"Xbox 360", some .appliance, some "Xbox 360"⟩
  | .xboxOne => ⟨"Xbox One", some .appliance, some "Xbox One"⟩
  | .digitalTV => ⟨"InternetTVBrowser", some .appliance, some "DigitalTV"⟩
  | .safariRSSReader => ⟨"Safari RSSReader", some .misc, none⟩
  | .googleDesktop => ⟨"Google Desktop", some .misc, none⟩
  | .windowsRSSReader => ⟨"Windows RSSReader", some .misc, none⟩
  | .variousRSSReader => ⟨"RSSReader", some .misc, none⟩
  | .httpLibrary => ⟨"HTTP Library", some .misc, none⟩
  | .googleBot => ⟨"Googlebot", some .crawler, none⟩
  | .googleBotMobile => ⟨"Googlebot Mobile", some .crawler, none⟩
  | .googleMediaPartners => ⟨"Google Mediapartners", some .crawler, none⟩
  | .googleFeedFetcher => ⟨"Google Feedfetcher", some .crawler, none⟩
  | .googleAppEngine => ⟨"Google AppEngine", some .crawler, none⟩
  | .googleWebPreview => ⟨"Google Web Preview", some .crawler, none⟩
  | .yahooSlurp => ⟨"Yahoo! Slurp", some .crawler, none⟩
  | .yahooJP => ⟨"Yahoo! Japan", some .crawler, none⟩
  | .yahooPipes => ⟨"Yahoo! Pipes", some .crawler, none⟩
  | .baiduspider => ⟨"Baiduspider", some .crawler, none⟩
  | .msnbot => ⟨"msnbot", some .crawler, none⟩
  | .bingbot => ⟨"bingbot", some .crawler, none⟩
  | .bingPreview => ⟨"BingPreview", some .crawler, none⟩
  | .yeti => ⟨"Naver Yeti", some .crawler, none⟩
  | .feedBurner => ⟨"Google FeedBurner", some .crawler, none⟩
  | .facebook => ⟨"facebook", some .crawler, none⟩
  | .twitter => ⟨"twitter", some .crawler, none⟩
  | .trendictionbot => ⟨"trendiction", some .crawler, none⟩
  | .mixi => ⟨"mixi", some .crawler, none⟩
  | .indyLibrary => ⟨"Indy Library", some .crawler, none⟩
  | .applePubSub => ⟨"Apple iCloud", some .crawler, none⟩
  | .genieo => ⟨"Genieo Web Filter", some .crawler, none⟩
  | .topsyButterfly => ⟨"topsy Butterfly", some .crawler, none⟩
  | .rogerbot => ⟨"SeoMoz rogerbot", some .crawler, none⟩
  | .ahrefsBot => ⟨"ahref AhrefsBot", some .crawler, none⟩
  | .radian6 => ⟨"salesforce radian6", some .crawler, none⟩
  | .hatena => ⟨"Hatena", some .crawler, none⟩
  | .goo => ⟨"goo", some .crawler, none⟩
  | .livedoorFeedFetcher => ⟨"livedoor FeedFetcher", some .crawler, none⟩
  | .variousCrawler => ⟨"misc crawler", some .crawler, none⟩
  | .adsBotGoogleMobile => ⟨"AdsBot-Google-Mobile", some .crawler, none⟩
  | .adsBotGoogle => ⟨"AdsBot-Google", some .crawler, none⟩

end Pageviews.Client
