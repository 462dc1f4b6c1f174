import BuildScript.Text.Case

/-!
Globs: patterns in which a star stands for any text, a question mark for any character, and square
brackets for one of the characters in them, or, with an exclamation mark in front, for one that is not
in them. A hyphen between two characters makes a range of them; a range whose end is before its start
is left out with both. A bracket that is never closed is a character.
-/

namespace BuildScript

/-- A part of a glob: any text, or one character that is in one of the ranges, or in none of them if the
part is negated. -/
inductive GlobPart where
  | star
  | oneOf (negated : Bool) (ranges : List (Char × Char))
  deriving Repr, DecidableEq

namespace GlobPart

/-- The part for any character. -/
def anyChar : GlobPart := oneOf true []

/-- The part for one character. -/
def char (c : Char) : GlobPart := oneOf false [(c, c)]

end GlobPart

/-- What stands in brackets: a character, or the hyphen of a range. -/
inductive BracketItem where
  | char (c : Char)
  | hyphen
  deriving Repr, DecidableEq

namespace Glob

/-- How many characters behind an opening bracket do not close it, whatever they are. -/
def bracketFront : List Char → Nat
  | '!' :: ']' :: _ => 2
  | ']' :: _ => 1
  | _ => 0

/-- Cuts off what stands in brackets, the opening one having been taken. -/
def cutBrackets? (cs : List Char) : Option (List Char × List Char) :=
  let front := bracketFront cs
  match (cs.drop front).dropWhile (· ≠ ']') with
  | _ :: behind => some (cs.take front ++ (cs.drop front).takeWhile (· ≠ ']'), behind)
  | [] => none

/-- Cuts a text at the hyphens of ranges. The next `skipped` characters are not such hyphens. -/
def cutAtHyphens (skipped : Nat) (taken : List Char) : List Char → List (List Char)
  | [] => [taken.reverse]
  | c :: rest =>
    match skipped with
    | skipped + 1 => cutAtHyphens skipped (c :: taken) rest
    | 0 =>
      if c = '-' then taken.reverse :: cutAtHyphens 2 [] rest
      else cutAtHyphens 0 (c :: taken) rest

/-- Takes a hyphen at the very end back into the chunk in front of it. -/
def keepLastHyphen : List (List Char) → List (List Char)
  | [] => []
  | [c] => [c]
  | [c, []] => [c ++ ['-']]
  | c :: rest => c :: keepLastHyphen rest

/-- Leaves out the ranges whose end is before their start. -/
def dropBackward : List (List Char) → List (List Char)
  | [] => []
  | c :: rest =>
    match dropBackward rest with
    | [] => [c]
    | d :: more =>
      match c.getLast?, d.head? with
      | some a, some b => if b < a then (c.dropLast ++ d.drop 1) :: more else c :: d :: more
      | _, _ => c :: d :: more

/-- What stands in brackets. -/
def items (cs : List Char) : List BracketItem :=
  let start := if cs.head? = some '!' then 2 else 1
  let chunks := dropBackward (keepLastHyphen (cutAtHyphens start [] cs))
  [BracketItem.hyphen].intercalate (chunks.map fun c => c.map .char)

/-- The ranges of characters among items. -/
def ranges : List BracketItem → List (Char × Char)
  | [] => []
  | .char a :: .hyphen :: .char b :: rest => (a, b) :: ranges rest
  | .char a :: rest => (a, a) :: ranges rest
  | .hyphen :: rest => ('-', '-') :: ranges rest

/-- The part for what stands in brackets. -/
def bracketPart (cs : List Char) : GlobPart :=
  match items cs with
  | .char '!' :: rest => .oneOf true (ranges rest)
  | all => .oneOf false (ranges all)

theorem length_cutBrackets? {cs inside behind : List Char}
    (h : cutBrackets? cs = some (inside, behind)) : behind.length < cs.length := by
  simp only [cutBrackets?] at h
  split at h
  · rename_i c rest e
    simp only [Option.some.injEq, Prod.mk.injEq] at h
    have := (List.dropWhile_sublist (l := cs.drop (bracketFront cs)) (· ≠ ']')).length_le
    rw [e, List.length_cons, List.length_drop, h.2] at this
    omega
  · simp at h

/-- The parts of a glob. -/
def parts (cs : List Char) : List GlobPart :=
  match cs with
  | [] => []
  | c :: rest =>
    if c = '*' then .star :: parts rest
    else if c = '?' then .anyChar :: parts rest
    else if c = '[' then
      match h : cutBrackets? rest with
      | some (inside, behind) =>
        have := length_cutBrackets? h
        bracketPart inside :: parts behind
      | none => .char c :: parts rest
    else .char c :: parts rest
termination_by cs.length
decreasing_by all_goals simp only [List.length_cons]; omega

end Glob

namespace GlobPart

/-- Whether a character is among the ranges, or among none of them. -/
def accepts (negated : Bool) (ranges : List (Char × Char)) (c : Char) : Bool :=
  (ranges.any fun r => r.1 ≤ c && c ≤ r.2) != negated

/-- Whether a text is what the parts stand for. -/
def matchesAll : List GlobPart → List Char → Bool
  | [], cs => cs.isEmpty
  | .star :: rest, [] => matchesAll rest []
  | .star :: rest, c :: cs => matchesAll rest (c :: cs) || matchesAll (.star :: rest) cs
  | .oneOf _ _ :: _, [] => false
  | .oneOf negated ranges :: rest, c :: cs => accepts negated ranges c && matchesAll rest cs
termination_by ps cs => (ps.length, cs.length)

end GlobPart

/-- Whether a glob stands for a text. -/
def globMatches (glob text : String) : Bool :=
  GlobPart.matchesAll (Glob.parts glob.toList) text.toList

end BuildScript
