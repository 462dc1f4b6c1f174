import BuildScript.Text.Blank
import BuildScript.Text.Digit
import BuildScript.Text.WordChar

/-!
Chunks: the pieces of a paragraph between which a line may be broken. A chunk is a run of spaces, a
dash of two or more hyphens between words, or a word; a word ends at a space, before such a dash, and
after the hyphen of a compound such as `state-of-`. Main statement: the chunks make up the text
(`flatten_chunks`), and none of them is empty.
-/

namespace BuildScript.Text

/-- The ASCII spaces, at which lines are broken. -/
def isSpace (c : Char) : Bool :=
  c = ' ' || c = '\t' || c = '\n' || c = '\x0b' || c = '\x0c' || c = '\x0d'

/-- A word character that is not a digit. -/
def isLetter (c : Char) : Bool := isWordChar c && !isDigit c

/-- The characters that a dash may follow. -/
def endsWord (c : Char) : Bool := isWordChar c || "!\"'&.,?".toList.contains c

/-- Whether the text starts with two or more hyphens and a word character behind them. -/
def startsDash (cs : List Char) : Bool :=
  decide (2 ≤ (cs.takeWhile (· = '-')).length)
    && (cs.dropWhile (· = '-')).head?.any isWordChar

/-- Whether the text before a hyphen (nearest first) ends in two letters, or in two letters with a
hyphen between them. -/
def compoundBefore : List Char → Bool
  | a :: b :: rest =>
    isLetter a && (isLetter b || (b = '-' && rest.head?.any isLetter))
  | _ => false

/-- Whether the text after a hyphen starts with two letters, or with two letters and a hyphen between
them. -/
def compoundAfter : List Char → Bool
  | a :: b :: rest =>
    isLetter a && (isLetter b || (b = '-' && rest.head?.any isLetter))
  | _ => false

/-- Whether a word may be broken after the hyphen that the text starts with. -/
def startsCompoundHyphen (before : List Char) : List Char → Bool
  | c :: rest => c = '-' && compoundBefore before && compoundAfter rest
  | [] => false

/-- Whether a word ends between `before` (nearest first) and the text: at a space, at the end, or
before a dash. -/
def wordEnds (before : List Char) : List Char → Bool
  | [] => true
  | c :: rest => isSpace c || (before.head?.any endsWord && startsDash (c :: rest))

/-- Cuts a word of at least one character off the text that follows `before` (nearest first). -/
def cutWord (before : List Char) : List Char → List Char × List Char
  | [] => ([], [])
  | c :: rest =>
    if startsCompoundHyphen (c :: before) rest then
      (c :: rest.take 1, rest.drop 1)
    else if wordEnds (c :: before) rest then ([c], rest)
    else
      let cut := cutWord (c :: before) rest
      (c :: cut.1, cut.2)

/-- Cuts the first chunk off the text that follows `before` (nearest first). -/
def cutChunk (before : List Char) : List Char → List Char × List Char
  | [] => ([], [])
  | c :: rest =>
    if isSpace c then (c :: rest.takeWhile isSpace, rest.dropWhile isSpace)
    else if before.head?.any endsWord && startsDash (c :: rest) then
      (c :: rest.takeWhile (· = '-'), rest.dropWhile (· = '-'))
    else cutWord before (c :: rest)

theorem cutWord_append (before cs : List Char) : (cutWord before cs).1 ++ (cutWord before cs).2 = cs := by
  induction cs generalizing before with
  | nil => rfl
  | cons c rest ih =>
    simp only [cutWord]
    split
    · exact congrArg (c :: ·) (List.take_append_drop 1 rest)
    · split
      · simp
      · simp [ih]

theorem cutWord_ne_nil (before : List Char) (c : Char) (rest : List Char) :
    (cutWord before (c :: rest)).1 ≠ [] := by
  simp only [cutWord]
  split
  · simp
  · split <;> simp

theorem cutChunk_append (before cs : List Char) :
    (cutChunk before cs).1 ++ (cutChunk before cs).2 = cs := by
  cases cs with
  | nil => rfl
  | cons c rest =>
    simp only [cutChunk]
    split
    · simp [List.takeWhile_append_dropWhile]
    · split
      · simp [List.takeWhile_append_dropWhile]
      · exact cutWord_append before (c :: rest)

theorem cutChunk_ne_nil (before : List Char) (c : Char) (rest : List Char) :
    (cutChunk before (c :: rest)).1 ≠ [] := by
  simp only [cutChunk]
  split
  · simp
  · split
    · simp
    · exact cutWord_ne_nil before c rest

theorem length_cutChunk_lt (before : List Char) (c : Char) (rest : List Char) :
    (cutChunk before (c :: rest)).2.length < (c :: rest).length := by
  have h := congrArg List.length (cutChunk_append before (c :: rest))
  have h0 : 0 < (cutChunk before (c :: rest)).1.length :=
    List.length_pos_iff.2 (cutChunk_ne_nil before c rest)
  rw [List.length_append] at h
  omega

/-- The chunks of the text that follows `before` (nearest first). -/
def chunksFrom (before : List Char) : List Char → List (List Char)
  | [] => []
  | c :: rest =>
    let cut := cutChunk before (c :: rest)
    cut.1 :: chunksFrom (cut.1.reverse ++ before) cut.2
termination_by cs => cs.length
decreasing_by exact length_cutChunk_lt before c rest

/-- The chunks of a text. -/
def chunks (cs : List Char) : List (List Char) := chunksFrom [] cs

theorem flatten_chunksFrom (before cs : List Char) : (chunksFrom before cs).flatten = cs := by
  fun_induction chunksFrom before cs with
  | case1 => rfl
  | case2 before c rest cut ih => rw [List.flatten_cons, ih, cutChunk_append]

/-- The chunks make up the text. -/
theorem flatten_chunks (cs : List Char) : (chunks cs).flatten = cs := flatten_chunksFrom [] cs

theorem ne_nil_of_mem_chunksFrom {before cs : List Char} :
    ∀ chunk ∈ chunksFrom before cs, chunk ≠ [] := by
  fun_induction chunksFrom before cs with
  | case1 => simp
  | case2 before c rest cut ih =>
    intro chunk h
    rcases List.mem_cons.1 h with rfl | h
    · exact cutChunk_ne_nil before c rest
    · exact ih chunk h

end BuildScript.Text
