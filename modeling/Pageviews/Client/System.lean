import Pageviews.Client.Finding

/-! Operating systems, in the order in which they are looked for. -/
namespace Pageviews.Client

open Text (has)

private def isWindowsNameChar (c : Char) : Bool :=
  c = ' ' || c = '.' || c.isAlpha || c.isDigit

/-- The name of a Windows version, up to the mark that closes it. -/
private def windowsName? (text : List Char) : Option (List Char) :=
  Text.search (fun ahead => do
    let rest ← Text.after? "Windows ".toList ahead
    let (name, rest) ← Text.run? isWindowsNameChar rest
    match rest.head? with
    | some c => if c = ';' ∨ c = '\\' ∨ c = ')' then some name else none
    | none => none) text

private def isWindowsPhone (name : List Char) : Bool :=
  let rest := (Text.after? "Phone OS ".toList name).or (Text.after? "Phone ".toList name)
  ((rest.bind (Text.run? isVersionChar ·))).isSome

def windowsVersion? (name : List Char) : Option Product :=
  match String.ofList name with
  | "NT 10.0" => some .win10
  | "NT 6.3" => some .win8Point1
  | "NT 6.2" => some .win8
  | "NT 6.1" => some .win7
  | "NT 6.0" => some .winVista
  | "NT 5.1" => some .winXP
  | "NT 5.0" => some .win2000
  | "NT 4.0" => some .winNT4
  | "98" => some .win98
  | "95" => some .win95
  | "CE" => some .winCE
  | _ => if isWindowsPhone name then some .winPhone else none

/-- A system of the family of desktops, or the console of the same maker. -/
def windows? (text : List Char) (f : Finding) : Option Finding :=
  if has "Windows" text then
    if has "Xbox" text then
      some (f.populate (if has "Xbox; Xbox One)" text then .xboxOne else .xbox360))
    else match windowsName? text with
      | none => some (f.runs .win)
      | some name => (windowsVersion? name).map f.runs
  else none

/-- A system of a computer, telephone, tablet or player whose text names its kernel. -/
def apple? (text : List Char) (f : Finding) : Option Finding :=
  if has "Mac OS X" text then
    some (f.runs (
      if has "like Mac OS X" text then
        if has "iPhone;" text then .iPhone
        else if has "iPad;" text then .iPad
        else if has "iPod" text then .iPod
        else .osx
      else .osx))
  else none

/-- A free system, or the one for telephones that is built on it. -/
def linux? (text : List Char) (f : Finding) : Option Finding :=
  if has "Linux" text then some (f.runs (if has "Android" text then .android else .linux)) else none

/-- Systems of telephones, tablets and players that name themselves, in the order of the search. -/
def smartphoneRules : List (Clue × Product) :=
  [(.holds "iPhone", .iPhone), (.holds "iPad", .iPad), (.holds "iPod", .iPod),
    (.holds "Android", .android), (.holds "CFNetwork", .ios), (.holds "BB10", .blackBerry10),
    (.holds "BlackBerry", .blackBerry)]

/-- The end of a Firefox text, from the version of its engine on. -/
private def endsAsFirefox (text : List Char) : Bool :=
  (do
    let rest ← Text.after? " rv:".toList text
    let (_, rest) ← Text.run? isVersionChar rest
    let rest ← Text.after? ") Gecko/".toList rest
    let (_, rest) ← Text.run? isVersionChar rest
    let rest ← Text.after? " Firefox/".toList rest
    let (_, rest) ← Text.run? isVersionChar rest
    if rest = [] then some () else none).isSome

/-- Whether the end of a Firefox text follows some later semicolon of the line. -/
private def endsAsFirefoxLater : List Char → Bool
  | [] => false
  | c :: rest =>
    if c = '\n' then false
    else if c = ';' ∧ endsAsFirefox rest then true
    else endsAsFirefoxLater rest

/-- Whether the text is that of a Firefox whose platform is just a telephone or tablet. -/
private def isFirefoxPlatform (text : List Char) : Bool :=
  (do
    let rest ← Text.after? "Mozilla/".toList text
    let (_, rest) ← Text.run? isVersionChar rest
    let rest ← Text.after? " (".toList rest
    let rest ← (Text.after? "Mobile;".toList rest).or (Text.after? "Tablet;".toList rest)
    if endsAsFirefox rest || endsAsFirefoxLater rest then some () else none).isSome

/-- A system of a telephone. One browser runs on a system of its own, which its platform tells. -/
def smartphone? (text : List Char) (f : Finding) : Option Finding :=
  let found := firstMatch? smartphoneRules text
  let f := if found = some .blackBerry10 then { f with version := unknown } else f
  if f.name = Product.firefox.entry.name ∧ isFirefoxPlatform text then some (f.runs .firefoxOS)
  else found.map f.runs

private def isModelChar (stops : String) (c : Char) : Bool := !stops.toList.contains c

/-- The telephone model after the mark of one Japanese network. -/
def kddiModel? (text : List Char) : Option (List Char) :=
  Text.search (fun ahead => do
    let rest ← Text.after? "KDDI-".toList ahead
    return (← Text.run? (isModelChar "- /;()\"'") rest).1) text

/-- The telephone model after the marks of another Japanese network. -/
def willcomModel? (text : List Char) : Option (List Char) :=
  Text.search (fun ahead => do
    let rest ← (Text.after? "WILLCOM;".toList ahead).or (Text.after? "DDIPOCKET;".toList ahead)
    let (_, rest) ← Text.run? (· ≠ '/') rest
    let rest ← Text.after? ['/'] rest
    return (← Text.run? (isModelChar " /;()") rest).1) text

def isWillcom (text : List Char) : Bool := has "WILLCOM" text || has "DDIPOCKET" text

def network? (text : List Char) (f : Finding) : Option Finding :=
  match (if has "KDDI-" text then kddiModel? text else none) with
  | some model => some { f.runsSystemOf .au with version := String.ofList model }
  | none => match (if isWillcom text then willcomModel? text else none) with
    | some model => some { f.runsSystemOf .willcom with version := String.ofList model }
    | none => if has "SymbianOS" text then some (f.runsSystemOf .symbianOS) else none

/-- A gateway that turns pages into ones for telephones tells nothing of the system behind it. -/
def transcoded (text : List Char) (f : Finding) : Finding :=
  let f := if has "Google Wireless Transcoder" text then
    f.isProduct .mobileTranscoder "Google".toList else f
  if has "Naver Transcoder" text then f.isProduct .mobileTranscoder "Naver".toList else f

def console? (text : List Char) (f : Finding) : Option Finding :=
  if has "Nintendo DSi;" text then some (f.runsSystemOf .nintendoDSi)
  else if has "Nintendo Wii;" text then some (f.runsSystemOf .nintendoWii)
  else none

def desktopRules : List (Clue × Product) :=
  [(.holds "(Win98;", .win98), (.oneOf ["Macintosh; U; PPC;", "Mac_PowerPC"], .macOS),
    (.holds "X11; FreeBSD ", .bsd), (.holds "X11; CrOS ", .chromeOS)]

/-- What a text says of the system, and whether that is a system at all. -/
def system (text : List Char) (f : Finding) : Finding × Bool :=
  match (windows? text f).or <| (apple? text f).or <| (linux? text f).or <|
      (smartphone? text f).or (network? text f) with
  | some f => (f, true)
  | none =>
    let f := transcoded text f
    match (console? text f).or ((firstMatch? desktopRules text).map f.runs) with
    | some f => (f, true)
    | none => (f, false)

end Pageviews.Client
