/-
  Text/Lines.lean --- a text cut into lines.

  WHAT THIS FILE FIXES.  A line ends with a line feed, which may have a carriage
  return in front; neither belongs to the line.  What stands behind the last line
  feed is a line too, unless it is empty.
-/

set_option autoImplicit false

namespace VesselWatch.Text

/-- A line, its characters last one first, without the carriage return at its end. -/
def closeLine (back : List Char) : List Char :=
  match back with
  | '\r' :: rest => rest.reverse
  | _ => back.reverse

/-- The lines of `cs`, where `back` holds the characters of the first one that have been passed,
last one first. -/
def linesFrom (back : List Char) : List Char → List (List Char)
  | [] => if back.isEmpty then [] else [back.reverse]
  | c :: cs => if c == '\n' then closeLine back :: linesFrom [] cs else linesFrom (c :: back) cs

/-- The lines of a text. -/
def lines (s : String) : List String := (linesFrom [] s.toList).map String.ofList

/-- A line as it was read, its end included, without that end. -/
def chomp (s : String) : String :=
  match s.toList.reverse with
  | '\n' :: back => String.ofList (closeLine back)
  | _ => s

end VesselWatch.Text
