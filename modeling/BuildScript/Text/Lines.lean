import BuildScript.Text.Ranges

/-!
Lines. A text is cut after every line break: the line feed, the carriage return (with a line feed
behind it one break), the vertical tab, the form feed, the three largest ASCII separators, and the
Unicode next-line, line and paragraph separators. A break at the very end opens no further line.
-/

namespace BuildScript.Text

/-- The ranges of the characters that end a line. -/
def lineBreakRanges : Ranges := [(10, 13), (28, 30), (133, 133), (8232, 8233)]

/-- Whether the character ends a line. -/
def isLineBreak (c : Char) : Bool := lineBreakRanges.contains c

/-- A line and the break that ended it; only the last line may have none. -/
structure Line where
  body : List Char
  ending : List Char
  deriving Repr, DecidableEq

namespace Line

/-- The characters of the line, its break included. -/
def chars (l : Line) : List Char := l.body ++ l.ending

/-- The line with one more character in front. -/
def cons (c : Char) (l : Line) : Line := { l with body := c :: l.body }

end Line

/-- The lines of a text. -/
def lines : List Char → List Line
  | [] => []
  | '\x0d' :: '\n' :: rest => ⟨[], ['\x0d', '\n']⟩ :: lines rest
  | c :: rest =>
    if isLineBreak c then ⟨[], [c]⟩ :: lines rest
    else match lines rest with
      | [] => [⟨[c], []⟩]
      | l :: ls => l.cons c :: ls

/-- The pieces between the separators; there is one more of them than separators. -/
def splitAtChar (sep : Char) : List Char → List (List Char)
  | [] => [[]]
  | c :: rest =>
    if c = sep then [] :: splitAtChar sep rest
    else match splitAtChar sep rest with
      | [] => [[c]]
      | p :: ps => (c :: p) :: ps

/-- The pieces of a text between line feeds. -/
def splitLineFeeds (s : String) : List String := (splitAtChar '\n' s.toList).map String.ofList

/-- Makes every carriage return, with the line feed behind it if there is one, a line feed. -/
def plainBreaks : List Char → List Char
  | [] => []
  | '\x0d' :: '\n' :: rest => '\n' :: plainBreaks rest
  | c :: rest => (if c = '\x0d' then '\n' else c) :: plainBreaks rest

/-- Cutting loses nothing: the lines with their breaks make up the text. -/
theorem flatten_lines (cs : List Char) : ((lines cs).map Line.chars).flatten = cs := by
  fun_induction lines cs <;> simp_all [Line.chars, Line.cons]

theorem not_mem_plainBreaks (cs : List Char) : '\x0d' ∉ plainBreaks cs := by
  fun_induction plainBreaks cs with
  | case1 => simp
  | case2 rest ih => simpa using ih
  | case3 c rest _ ih =>
    by_cases h : c = '\x0d'
    · simpa [h] using ih
    · simpa [h] using ⟨fun e => h e.symm, ih⟩

theorem splitAtChar_ne_nil (sep : Char) (cs : List Char) : splitAtChar sep cs ≠ [] := by
  cases cs with
  | nil => simp [splitAtChar]
  | cons c rest =>
    simp only [splitAtChar]
    split
    · simp
    · split <;> simp

end BuildScript.Text
