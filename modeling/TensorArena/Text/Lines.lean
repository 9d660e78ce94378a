/-!
The lines of a text.

A line ends at a line feed, which is not part of it, and a carriage return just before the
line feed is not part of it either. What follows the last line feed is a line if there is
anything, and keeps its carriage returns.
-/

namespace TensorArena.Text

/-- A line, given backwards, without the carriage return at its end. -/
def endLine : List Char → List Char
  | '\r' :: line => line.reverse
  | line => line.reverse

/-- The lines of a text whose first line begins with `line`, given backwards. -/
def linesAfter (line : List Char) : List Char → List (List Char)
  | [] => if line.isEmpty then [] else [line.reverse]
  | c :: rest => if c = '\n' then endLine line :: linesAfter [] rest else linesAfter (c :: line) rest

/-- The lines of a text. -/
def lines (s : String) : List String := (linesAfter [] s.toList).map String.ofList

/-- One line set in by four spaces; an empty line stays empty. -/
def indentLine (line : String) : String := if line = "" then "" else "    " ++ line

/-- The lines of a text, each set in by four spaces and ended by a line feed. -/
def indent (s : String) : String := String.join ((lines s).map fun line => indentLine line ++ "\n")

end TensorArena.Text
