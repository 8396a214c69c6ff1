import ConnectorProfiles.Text.Pieces
import ConnectorProfiles.Url.Percent

/-!
# Paths

A path is a list of segments, each after a slash, or a literal text in an address without slash
after its scheme. Dot segments are resolved while the path is read: one dot stands for no segment,
two dots take the segment before them away, unless that is a drive letter.
-/

namespace ConnectorProfiles.Url

/-- The path of an address. -/
inductive Path where
  | segments (list : List String)
  | literal (text : String)
  deriving DecidableEq

/-- The text of a path. -/
def Path.render : Path → String
  | .segments list => String.join (list.map ("/" ++ ·))
  | .literal text => text

/-- The segment with percent-encoded dots as dots. -/
private def plainDots : List Char → List Char
  | [] => []
  | '%' :: '2' :: 'e' :: rest | '%' :: '2' :: 'E' :: rest => '.' :: plainDots rest
  | c :: rest => c :: plainDots rest

/-- A segment that stands for no segment. -/
def isSingleDot (segment : List Char) : Bool := plainDots segment = ['.']

/-- A segment that takes the segment before it away. -/
def isDoubleDot (segment : List Char) : Bool := plainDots segment = ['.', '.']

/-- A letter and a colon or bar. -/
def isDriveLetter : List Char → Bool
  | [letter, mark] => letter.isAlpha && (mark = ':' || mark = '|')
  | _ => false

/-- Takes the last of the segments away, unless it is a drive letter. The segments stand in
reverse order. -/
def dropSegment : List String → List String
  | [] => []
  | last :: before => if isDriveLetter last.toList then last :: before else before

/-- Resolves dot segments from left to right; the segments so far stand in reverse order. -/
def resolve : List String → List (List Char) → List String
  | done, [] => done.reverse
  | done, [last] =>
    if isDoubleDot last then ("" :: dropSegment done).reverse
    else if isSingleDot last then ("" :: done).reverse
    else (String.ofList last :: done).reverse
  | done, segment :: rest =>
    if isDoubleDot segment then resolve (dropSegment done) rest
    else if isSingleDot segment then resolve done rest
    else resolve (String.ofList segment :: done) rest

/-- Reads the text after the first slash of a path. -/
def Path.parse (isSlash : Char → Bool) (cs : List Char) : Path :=
  .segments (resolve [] ((Text.pieces isSlash cs).map (percentEncode pathSet)))

/-- Takes empty segments away from the front, but never the last segment. -/
def Path.dropLeadingEmpty : Path → Path
  | .segments list =>
    match list.dropWhile (·.isEmpty) with
    | [] => .segments (list.take 1)
    | rest => .segments rest
  | path => path

end ConnectorProfiles.Url
