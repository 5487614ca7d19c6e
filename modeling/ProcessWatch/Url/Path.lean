import ProcessWatch.Url.Percent

/-!
# Paths

The path of an address is a row of segments, all but the last of which name directories. Segments
are followed one after the other: a dot stays where it is, two dots lead to the directory above. The
drives of some file systems are directories that nothing lies above.
-/

namespace ProcessWatch.Url

inductive Path where
  /-- Segments, each behind a slash. -/
  | segments (segments : List String)
  /-- A text whose meaning is left to the scheme. Nothing lies below it. -/
  | plain (text : String)
deriving Repr, DecidableEq

def segmentsText (path : List String) : String := String.join (path.map ("/" ++ ·))

def Path.text : Path → String
  | segments path => segmentsText path
  | plain text => text

/-! ## Drives -/

/-- Whether a text starts with a segment that names a drive: a letter, and a colon or a bar. -/
def startsWithDrive : List Char → Bool
  | letter :: mark :: rest =>
    letter.isAlpha && mark ∈ [':', '|'] && rest.head?.all (· ∈ ['/', '\\', '?', '#'])
  | _ => false

/-- Whether a segment names a drive. -/
def isDrive (segment : String) : Bool := segment.length = 2 && startsWithDrive segment.toList

def driveName (segment : String) : String :=
  String.ofList (segment.toList.take 1 ++ [':'])

/-- A segment as it is put into a directory; `drives` says whether the first one may name a
drive. -/
def settled (drives : Bool) (directory : List String) (segment : String) : String :=
  if drives && directory.isEmpty && isDrive segment then driveName segment else segment

/-! ## Following segments -/

/-- Whether a segment stands for the directory itself. -/
def isSelf (segment : String) : Bool := segment.map Char.toLower ∈ [".", "%2e"]

/-- Whether a segment stands for the directory above. -/
def isAbove (segment : String) : Bool :=
  segment.map Char.toLower ∈ ["..", ".%2e", "%2e.", "%2e%2e"]

/-- The directory above another one. -/
def above (directory : List String) : List String :=
  -- nothing lies above a drive
  if directory.getLast?.any fun last => startsWithDrive last.toList then directory
  else directory.dropLast

/-- The directory that a segment leads to. -/
def enter (drives : Bool) (directory : List String) (segment : String) : List String :=
  if isAbove segment then above directory
  else if isSelf segment then directory
  else directory ++ [settled drives directory segment]

/-- Follows segments from a directory, given as its segments. The last segment ends the path, and
if it stands for a directory the path ends with an empty one. -/
def follow (drives : Bool) : List String → List String → List String
  | directory, [] => directory
  | directory, [last] =>
    if isAbove last || isSelf last then enter drives directory last ++ [""]
    else enter drives directory last
  | directory, segment :: rest => follow drives (enter drives directory segment) rest

/-- A path without the empty segments that it begins with; the last segment stays. -/
def dropEmpty : List String → List String
  | "" :: next :: rest => dropEmpty (next :: rest)
  | path => path

/-- A path that ends as that of a directory does. -/
def closed (drives : Bool) (path : List String) : List String :=
  if path.getLast? = some "" then path
  else
    match path with
    | first :: rest => settled drives [] first :: rest ++ [""]
    | [] => [""]

end ProcessWatch.Url
