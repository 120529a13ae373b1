import Pageviews.Url.Percent
import Pageviews.Text.Search

/-! Paths: segments are encoded, and those of dots go to the same or the parent directory. -/
namespace Pageviews.Url

def isSingleDot (segment : List Char) : Bool :=
  segment.map Char.toLower = ['.'] || segment.map Char.toLower = ['%', '2', 'e']

def isDoubleDot (segment : List Char) : Bool :=
  ["..", ".%2e", "%2e.", "%2e%2e"].any fun dots => dots.toList = segment.map Char.toLower

/-- A letter and a colon or bar: what begins like the name of a drive. -/
def leadsAsDrive : List Char → Bool
  | a :: b :: rest => a.isAlpha && (b = ':' || b = '|') && (rest = [] || rest.head? = some '\\')
  | _ => false

def isDrive (segment : List Char) : Bool := segment.length = 2 && leadsAsDrive segment

/-- The directories of a path, innermost first, and whether a drive has been named. -/
structure Directory where
  names : List (List Char)
  onDrive : Bool

namespace Directory

def root : Directory := ⟨[], false⟩

/-- The parent directory; nothing leads out of a drive or above the root. -/
def up (d : Directory) : Directory :=
  match d.names with
  | [] => d
  | name :: outer => if leadsAsDrive name then d else { d with names := outer }

/-- A name in the directory; in the root of a file system a drive is written with a colon. -/
def enter (isFile : Bool) (d : Directory) (segment : List Char) : Directory :=
  if isFile ∧ d.names = [] ∧ isDrive segment then ⟨[segment.take 1 ++ [':']], true⟩
  else { d with names := segment :: d.names }

/-- Follow the segments of a path; the last one may be empty, which leaves a directory. -/
def follow (isFile : Bool) (d : Directory) : List (List Char) → Directory
  | [] => d
  | segment :: rest =>
    if isDoubleDot segment then
      let d := d.up
      if rest = [] then { d with names := [] :: d.names } else follow isFile d rest
    else if isSingleDot segment then
      if rest = [] then { d with names := [] :: d.names } else follow isFile d rest
    else follow isFile (d.enter isFile segment) rest

end Directory

/-- The segments of a path, without the separator that may begin it. -/
def segments (special : Bool) (path : List Char) : List (List Char) :=
  Text.split '/' (if special then path.map fun c => if c = '\\' then '/' else c else path)

def followPath (isFile special : Bool) (path : List Char) : Directory :=
  Directory.root.follow isFile ((segments special path).map (percentEncode encodesInPath))

def Directory.toText (d : Directory) : List Char := d.names.reverse.flatMap ('/' :: ·)

/-- The text of a path in a file system, which begins with one separator. -/
def Directory.toFileText (d : Directory) : List Char := '/' :: d.toText.dropWhile (· = '/')

end Pageviews.Url
