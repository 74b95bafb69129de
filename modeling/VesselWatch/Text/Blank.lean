/-
  Text/Blank.lean --- white space, and cutting it off the ends of a text.

  WHAT THIS FILE FIXES.  `isBlank` is the `White_Space` property of the Unicode
  standard, twenty-five characters.  `trim` drops them at both ends; a text is
  `blank` when nothing is left.  Every comparison in the library that forgives
  surrounding space uses this one class.
-/

set_option autoImplicit false

namespace VesselWatch.Text

/-- The character has the Unicode property `White_Space`. -/
def isBlank (c : Char) : Bool :=
  let n := c.toNat
  (9 ≤ n && n ≤ 13) || n == 0x20 || n == 0x85 || n == 0xA0 || n == 0x1680 ||
  (0x2000 ≤ n && n ≤ 0x200A) || n == 0x2028 || n == 0x2029 || n == 0x202F ||
  n == 0x205F || n == 0x3000

/-- Drops the blanks at the front. -/
def trimStart (cs : List Char) : List Char := cs.dropWhile isBlank

/-- Drops the blanks at the end. -/
def trimEnd (cs : List Char) : List Char := (cs.reverse.dropWhile isBlank).reverse

/-- Drops the blanks at both ends. -/
def trim (cs : List Char) : List Char := trimEnd (trimStart cs)

/-- The text without the blanks at its ends. -/
def trimmed (s : String) : String := String.ofList (trim s.toList)

/-- The text holds nothing but blanks. -/
def blank (s : String) : Bool := s.toList.all isBlank

/-- Cuts at the first `sep`: what stands before it and what stands after it. -/
def splitOnce (sep : Char) : List Char → Option (List Char × List Char)
  | [] => none
  | c :: cs =>
    if c == sep then some ([], cs)
    else (splitOnce sep cs).map fun (a, b) => (c :: a, b)

/-- Some run of characters of `cs` is `part`. -/
def containsRun (part : List Char) : List Char → Bool
  | [] => part.isEmpty
  | c :: cs => part.isPrefixOf (c :: cs) || containsRun part cs

end VesselWatch.Text
