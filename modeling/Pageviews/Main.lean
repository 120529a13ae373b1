import Pageviews.CommandLine.Classify

/-! The command that tells the clients of user agents. -/
namespace Pageviews.CommandLine

def readText (path : String) : IO (Option String) := do
  try
    return some (← IO.FS.readFile path)
  catch _ =>
    return none

end Pageviews.CommandLine

open Pageviews.CommandLine

def main (arguments : List String) : IO UInt32 := do
  let file? := match Arguments.parse arguments with
    | .ok a => a.file
    | .error _ => none
  let text? ← match file? with
    | some path => readText path
    | none => pure none
  let outcome := classify (fun _ => text?) arguments
  IO.print outcome.output
  if outcome.complaint ≠ "" then IO.eprintln outcome.complaint
  return UInt32.ofNat outcome.code
