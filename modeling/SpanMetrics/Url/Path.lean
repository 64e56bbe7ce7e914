import SpanMetrics.Url.Percent

/-!
# SpanMetrics.Url.Path — paths

A path is a list of segments, from which `.` and `..` are resolved as they are read, or a rootless
text in a URL such as `mailto:a`. In a file URL a first segment such as `C:` is never dropped.
-/

namespace SpanMetrics.Url

/-- The path of a URL. -/
inductive Path where
  | segments (list : List (List Char))
  | rootless (text : List Char)
deriving DecidableEq, Repr

namespace Path

/-- The dot as a character or as an escape, at the start of a text. -/
def afterDot? : List Char → Option (List Char)
  | '.' :: cs => some cs
  | '%' :: '2' :: 'e' :: cs => some cs
  | '%' :: '2' :: 'E' :: cs => some cs
  | _ => none

/-- The segment stands for the place where it is. -/
def isDot (segment : List Char) : Bool :=
  afterDot? segment == some []

/-- The segment stands for the place above. -/
def isDoubleDot (segment : List Char) : Bool :=
  (afterDot? segment).bind afterDot? == some []

/-- A letter with a colon or a bar. -/
def isDrive : List Char → Bool
  | [letter, mark] => letter.isAlpha && (mark == ':' || mark == '|')
  | _ => false

/-- The text starts with a letter and a colon. -/
def startsWithDrive : List Char → Bool
  | letter :: mark :: _ => letter.isAlpha && mark == ':'
  | _ => false

/-- The segments read so far, last first, without the last one. In a file URL a single segment stays
if it starts with a drive, whatever follows the colon. -/
def shorten (file : Bool) : List (List Char) → List (List Char)
  | [] => []
  | [segment] => if file && startsWithDrive segment then [segment] else []
  | _ :: above => above

/-- A segment as it is kept: escaped, and with a colon behind a drive letter that comes first. -/
def kept (file : Bool) (above : List (List Char)) (segment : List Char) : List Char :=
  if file && above.isEmpty && isDrive segment then segment.take 1 ++ [':']
  else percentEncode inPathSet segment

/-- The segments read so far, last first, after one more segment. A dot segment at the very end
leaves an empty one behind. -/
def extend (file last : Bool) (above : List (List Char)) (segment : List Char) : List (List Char) :=
  if isDoubleDot segment then if last then [] :: shorten file above else shorten file above
  else if isDot segment then if last then [] :: above else above
  else kept file above segment :: above

/-- Reads segments on top of those read so far, last first. -/
def resolve (file : Bool) : List (List Char) → List (List Char) → List (List Char)
  | above, [] => above
  | above, [segment] => extend file true above segment
  | above, segment :: more => resolve file (extend file false above segment) more

/-- Reads a path whose segments end where `ends` says. -/
def ofText (file : Bool) (ends : Char → Bool) (cs : List Char) : Path :=
  .segments (resolve file [] (cs.splitOnP ends)).reverse

/-- A path in writing. -/
def text : Path → List Char
  | .segments list => list.flatMap ('/' :: ·)
  | .rootless text => text

end Path

end SpanMetrics.Url
