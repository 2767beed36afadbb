/-
Module: TaintFlow.Text.Lines
Purpose: Blanks and line boundaries. Text read from a file first has its line ends unified; a list of
  lines is then cut at every line boundary, and blanks are trimmed from both ends of a line.
Main exports: Text.isBlank, Text.trim, Text.isLineBoundary, Text.unifyLineEnds, Text.lines
-/

namespace TaintFlow.Text

/-- White space in the Unicode sense. -/
def isBlank (c : Char) : Bool :=
  let n := c.toNat
  (9 ≤ n && n ≤ 13) || (28 ≤ n && n ≤ 32) || n == 0x85 || n == 0xa0 || n == 0x1680 ||
    (0x2000 ≤ n && n ≤ 0x200a) || n == 0x2028 || n == 0x2029 || n == 0x202f || n == 0x205f ||
    n == 0x3000

/-- Drop the characters that satisfy `p` from both ends. -/
def trimBy (p : Char → Bool) (s : List Char) : List Char :=
  ((s.dropWhile p).reverse.dropWhile p).reverse

/-- Drop blanks from both ends. -/
def trim (s : String) : String := String.ofList (trimBy isBlank s.toList)

/-- Characters that end a line. -/
def isLineBoundary (c : Char) : Bool :=
  let n := c.toNat
  (10 ≤ n && n ≤ 13) || (28 ≤ n && n ≤ 30) || n == 0x85 || n == 0x2028 || n == 0x2029

/-- Write every line end as a single line feed: a carriage return with the line feed after it, if
    there is one, becomes a line feed. `done` holds the characters before, last first. -/
def unifyFrom (done : List Char) : List Char → List Char
  | [] => done.reverse
  | '\r' :: '\n' :: rest => unifyFrom ('\n' :: done) rest
  | '\r' :: rest => unifyFrom ('\n' :: done) rest
  | c :: rest => unifyFrom (c :: done) rest

/-- Text with every line end written as a line feed. -/
def unifyLineEnds (s : String) : String := String.ofList (unifyFrom [] s.toList)

/-- Cut text into lines; `current` holds the characters of the line being read, last first. A final
    boundary opens no further line. -/
def cutLines (current : List Char) : List Char → List String
  | [] => if current.isEmpty then [] else [String.ofList current.reverse]
  | c :: rest =>
      if isLineBoundary c then String.ofList current.reverse :: cutLines [] rest
      else cutLines (c :: current) rest

/-- The lines of a text whose line ends are already unified. -/
def lines (s : String) : List String := cutLines [] s.toList

end TaintFlow.Text
