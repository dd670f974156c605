import PubSub.Url.Form
import PubSub.Url.Percent

/-!
# Paths

The path of a URL is a list of segments with slashes before them. A segment of one dot is left out, one of two dots
takes the segment before it away. Where the segments may name a drive, a drive stays: a letter with a colon or a bar.

* `Path.Segments`, `Path.read`: a path read from a text.
* `Path.text`: a path as a text.
* `Path.fileBytes`: the name of a file that a path stands for.
-/

namespace PubSub.Url.Path

/-- Whether a segment names a drive. -/
def isDrive : List Char → Bool
  | [a, b] => a.isAlpha && (b == ':' || b == '|')
  | _ => false

/-- Whether a segment is a dot, percent-encoded or not. -/
def isSingleDot (s : List Char) : Bool :=
  let t := s.map Char.toLower
  t == ['.'] || t == ['%', '2', 'e']

/-- Whether a segment is two dots, percent-encoded or not. -/
def isDoubleDot (s : List Char) : Bool :=
  let t := s.map Char.toLower
  t == ['.', '.'] || t == ['%', '2', 'e', '.'] || t == ['.', '%', '2', 'e'] ||
    t == ['%', '2', 'e', '%', '2', 'e']

/-- The segments of a path, as they come in. -/
structure Segments where
  /-- The segments with a slash behind them, the last one first. -/
  closed : List (List Char) := []
  /-- The segment behind the last slash. -/
  last : List Char := []
  /-- Whether the first segment names a drive, so that no host goes with it. -/
  drive : Bool := false

/-- Adds a segment, which has a slash behind it if `slash`. Drives matter where `drives`. -/
def Segments.add (drives : Bool) (p : Segments) (slash : Bool) (raw : List Char) : Segments :=
  let s := percentEncode isPathEncoded raw
  if isDoubleDot s then
    match p.closed with
    | [] => p
    | t :: rest => if isDrive t then p else { p with closed := rest }
  else if isSingleDot s then p
  else
    let first := drives && p.closed.isEmpty && isDrive s
    let s := if first then s.take 1 ++ [':'] else s
    let p := { p with drive := p.drive || first }
    if slash then { p with closed := s :: p.closed } else { p with last := s }

/-- Adds segments, of which all but the last have a slash behind them. -/
def Segments.addAll (drives : Bool) (p : Segments) : List (List Char) → Segments
  | [] => p
  | [s] => p.add drives false s
  | s :: t :: rest => Segments.addAll drives (p.add drives true s) (t :: rest)

/-- Reads a path from the text behind its first slash. -/
def read (drives : Bool) (cs : List Char) : Segments :=
  Segments.addAll drives {} (splitOn '/' cs)

/-- All segments, in order. -/
def Segments.toList (p : Segments) : List (List Char) := p.closed.reverse ++ [p.last]

/-- Segments with a slash before each. -/
def join (segments : List (List Char)) : List Char := segments.flatMap fun s => '/' :: s

/-- The path as a text. -/
def text (p : Segments) : List Char := join p.toList

/-- The path as a text, with one slash at its start where there are more. -/
def fileText (p : Segments) : List Char := '/' :: (text p).dropWhile (· == '/')

/-- The name of the file that the path `path` stands for: the bytes that it encodes. A drive at the end has a slash
behind it. -/
def fileBytes (path : List Char) : List UInt8 :=
  let bytes := percentDecode (bytesOf path)
  match bytes.reverse with
  | b :: a :: _ :: _ =>
    if (58 == b || 124 == b) && ((65 ≤ a && a ≤ 90) || (97 ≤ a && a ≤ 122)) then bytes ++ [47] else bytes
  | _ => bytes

end PubSub.Url.Path
