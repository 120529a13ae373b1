import Pageviews.Client.System

/-! Telephones of the networks that came before smartphones, with their models. -/
namespace Pageviews.Client

open Text (has)

private def docomoModel? (text : List Char) : Option (List Char) :=
  (Text.search (fun ahead => do
    let rest ← Text.after? "DoCoMo/".toList ahead
    let (_, rest) ← Text.run? isVersionChar rest
    let rest ← (Text.after? [' '] rest).or (Text.after? ['/'] rest)
    let isModelChar := fun c => !"- /;()\"'".toList.contains c
    return (← Text.run? isModelChar rest).1) text).or
  (Text.search (fun ahead => do
    let rest ← Text.after? ['('] ahead
    let (model, rest) ← Text.run? (fun c => c ≠ ';' && c ≠ ')') rest
    let _ ← Text.after? ";FOMA;".toList rest
    return model) text)

private def softBankModel? (text : List Char) : Option (List Char) :=
  Text.search (fun ahead => do
    let rest ← ["SoftBank/", "Vodafone/", "J-PHONE/"].findSome? fun word =>
      Text.after? word.toList ahead
    let (_, rest) ← Text.run? isVersionChar rest
    let rest ← Text.after? ['/'] rest
    return (← Text.run? (fun c => !" /;()".toList.contains c) rest).1) text

private def jigModel? (text : List Char) : Option (List Char) :=
  Text.search (fun ahead => do
    let rest ← Text.after? "jig browser".toList ahead
    let (_, rest) ← Text.run? (· ≠ ';') rest
    let rest ← Text.after? "; ".toList rest
    return (← Text.run? (fun c => c ≠ ')' && c ≠ ';') rest).1) text

def telephone? (text : List Char) (f : Finding) : Option Finding :=
  if has "DoCoMo" text || has ";FOMA;" text then
    some (f.isProduct .docomo (versionOr (docomoModel? text)))
  else if has "KDDI-" text then some (f.isProduct .au (versionOr (kddiModel? text)))
  else if has "SoftBank" text || has "Vodafone" text || has "J-PHONE" text then
    some (f.isProduct .softBank (versionOr (softBankModel? text)))
  else if isWillcom text then some (f.isProduct .willcom (versionOr (willcomModel? text)))
  else if has "jig browser" text then
    some (match jigModel? text with
      | some model => f.isProduct .jig model
      | none => f.populate .jig)
  else if has "emobile/" text || has "OpenBrowser" text || has "Browser/Obigo-Browser" text then
    some (f.populate .emobile)
  else if has "SymbianOS" text then some (f.populate .symbianOS)
  else if has "Hatena-Mobile-Gateway/" text then
    some (f.isProduct .mobileTranscoder "Hatena".toList)
  else if has "livedoor-Mobile-Gateway/" text then
    some (f.isProduct .mobileTranscoder "livedoor".toList)
  else none

end Pageviews.Client
