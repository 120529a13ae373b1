import Pageviews.Client.Finding
import Pageviews.Unicode.Digit

/-! Browsers and their versions, in the order in which they are looked for. -/
namespace Pageviews.Client

open Text (has)

abbrev Versioned := Product × List Char

private def internetExplorer? (text : List Char) : Option Versioned :=
  if has "compatible; MSIE" text || has "Trident/" text || has "IEMobile" text then
    some (.msie, match versionBetween "MSIE " ';' text with
      | some version => version
      | none => match versionBetween "Trident/" ';' text with
        | some _ => versionOr (versionAfter " rv:" text)
        | none => versionOr (versionBetween "IEMobile/" ';' text))
  else none

def versionAfterAny (words : List String) (text : List Char) : Option (List Char) :=
  Text.search (fun ahead => words.findSome? fun word => do
    let rest ← Text.after? word.toList ahead
    return (← Text.run? isVersionChar rest).1) text

private def edge? (text : List Char) : Option Versioned :=
  (versionAfterAny ["Edge/", "Edg/", "EdgiOS/", "EdgA/"] text).map (.edge, ·)

/-- Numbers separated by full stops, `dots` of them, at the start of a text. -/
private def dotted (dots : Nat) (text : List Char) : Option (List Char) := do
  let (number, rest) ← Text.run? Unicode.isDecimalDigit text
  match dots, rest with
  | 0, _ => some number
  | dots + 1, '.' :: rest => return number ++ '.' :: (← dotted dots rest)
  | _, _ => none

private def yaBrowser? (text : List Char) : Option Versioned :=
  (Text.search (fun ahead => do dotted 3 (← Text.after? "YaBrowser/".toList ahead)) text).map
    (.yaBrowser, ·)

private def samsungBrowser? (text : List Char) : Option Versioned :=
  if has "SamsungBrowser/" text then
    some (.samsungBrowser, versionOr (versionAfter "SamsungBrowser/" text))
  else none

/-- Whether the text is from a view embedded in an application. -/
private def isEmbedded (text : List Char) : Bool := has "Chrome" text && has "wv" text

private def safariLike? (text : List Char) : Option Versioned :=
  if !isEmbedded text && has "Safari/" text then
    some (match versionAfterAny ["Chrome/", "CrMo/", "CriOS/"] text with
      | some chrome => match versionAfter "OPR/" text with
        | some opera => (.opera, opera)
        | none => (.chrome, chrome)
      | none => match versionAfter "GSA/" text with
        | some version => (.gsa, version)
        | none => (.safari, versionOr (versionAfter "Version/" text)))
  else none

private def firefox? (text : List Char) : Option Versioned :=
  if has "Firefox/" text then some (.firefox, versionOr (versionAfter "Firefox/" text)) else none

private def opera? (text : List Char) : Option Versioned :=
  if has "Opera" text then
    some (.opera, versionOr ((versionAfter "Version/" text).or
      (versionAfterAny ["Opera/", "Opera "] text)))
  else none

/-- Whether the text is from an Apple telephone or tablet, all on one line. -/
private def isAppleMobile (text : List Char) : Bool :=
  (Text.search (fun ahead => do
    let rest ← ["iPhone; ", "iPad; ", "iPod "].findSome? fun word => Text.after? word.toList ahead
    if has "like Mac OS X" (rest.takeWhile (· ≠ '\n')) then some () else none) text).isSome

private def webview? (text : List Char) : Option (Product × Option (List Char)) :=
  if isEmbedded text then some (.webview, some (versionOr (versionAfter "Version/" text)))
  else if isAppleMobile text && !has "Safari/" text then
    some (.webview, versionAfter "Version/" text)
  else none

def browser? (text : List Char) (f : Finding) : Option Finding :=
  let versioned := (internetExplorer? text).or <| (edge? text).or <|
    ((versionAfter "Vivaldi/" text).map (.vivaldi, ·)).or <|
    ((versionAfter "FxiOS/" text).map (.firefox, ·)).or <|
    (yaBrowser? text).or <| (samsungBrowser? text).or <| (safariLike? text).or <|
    (firefox? text).or <| opera? text
  match versioned with
  | some (product, version) => some (f.isProduct product version)
  | none => match webview? text with
    | some (product, some version) => some (f.isProduct product version)
    | some (product, none) => some (f.populate product)
    | none => none

end Pageviews.Client
