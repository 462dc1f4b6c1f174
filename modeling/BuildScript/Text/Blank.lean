import BuildScript.Text.Ranges

/-!
Blank characters: the spaces and line ends of every script, with the four ASCII separators from file
to unit. `strip` takes them off both ends and `words` cuts a text at them.
-/

namespace BuildScript.Text

/-- The ranges of the blank characters. -/
def blankRanges : Ranges :=
  [(9, 13), (28, 32), (133, 133), (160, 160), (5760, 5760), (8192, 8202), (8232, 8233),
   (8239, 8239), (8287, 8287), (12288, 12288)]

/-- Whether the character is blank. -/
def isBlank (c : Char) : Bool := blankRanges.contains c

/-- The characters without the blanks in front. -/
def stripLeft (cs : List Char) : List Char := cs.dropWhile isBlank

/-- The characters without the blanks at the end. -/
def stripRight (cs : List Char) : List Char := (cs.reverse.dropWhile isBlank).reverse

/-- The characters without the blanks at either end. -/
def strip (cs : List Char) : List Char := stripRight (stripLeft cs)

/-- Whether there are only blanks, or nothing. -/
def allBlank (cs : List Char) : Bool := cs.all isBlank

/-- The pieces between blanks, the empty ones left out. -/
def words : List Char → List (List Char)
  | [] => []
  | c :: rest =>
    if isBlank c then words rest
    else match rest with
      | [] => [[c]]
      | d :: _ =>
        if isBlank d then [c] :: words rest
        else match words rest with
          | [] => [[c]]
          | w :: ws => (c :: w) :: ws

/-- The words of a text, one space between them. -/
def collapse (s : String) : String :=
  " ".intercalate ((words s.toList).map String.ofList)

theorem isBlank_space : isBlank ' ' = true := by decide

end BuildScript.Text
