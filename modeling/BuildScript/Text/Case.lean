import BuildScript.Text.CaseTable

/-!
Letter case: `lower`, `upper` and `title` of a text. A form may be longer than the letter (`ß` has
the upper case form `SS`), and a capital sigma that ends a word has the lower case form `ς`.
-/

namespace BuildScript.Text

/-- Whether the run holds the code point. -/
def CaseRun.holds (n : Nat) (r : CaseRun) : Bool :=
  decide (r.1 ≤ n) && decide (n ≤ r.2.1) && decide ((n - r.1) % r.2.2.1 = 0)

/-- The form of a character: its expansion if it has one, else the character its run leads to, else
the character itself. -/
def caseForm (runs : List CaseRun) (expansions : List (Nat × String)) (c : Char) : List Char :=
  match expansions.find? fun e => e.1 = c.toNat with
  | some e => e.2.toList
  | none =>
    match runs.find? (CaseRun.holds c.toNat) with
    | some r => [Char.ofNat (c.toNat + r.2.2.2).toNat]
    | none => [c]

/-- The lower case form of a character that stands alone. -/
def lowerForm (c : Char) : List Char := caseForm lowerRuns lowerExpansions c

/-- The upper case form of a character. -/
def upperForm (c : Char) : List Char := caseForm upperRuns upperExpansions c

/-- The title case form of a character. -/
def titleForm (c : Char) : List Char := caseForm titleRuns titleExpansions c

/-- Whether the character is a letter with case. -/
def isCased (c : Char) : Bool := casedRanges.contains c

/-- Whether the character is passed over when a neighbouring letter is looked for. -/
def isCaseIgnorable (c : Char) : Bool := caseIgnorableRanges.contains c

/-- Whether the first character that is not passed over is a letter with case. -/
def leadsToCased (cs : List Char) : Bool :=
  match cs.dropWhile isCaseIgnorable with
  | [] => false
  | c :: _ => isCased c

/-- The lower case form of a character between `before` (nearest first) and `after`: a capital sigma
with a letter before it and none after it is a final sigma. -/
def lowerFormAt (before : List Char) (c : Char) (after : List Char) : List Char :=
  if c = 'Σ' then
    if leadsToCased before && !leadsToCased after then ['ς'] else ['σ']
  else lowerForm c

/-- The lower case form of characters that follow `before` (nearest first). -/
def lowerFrom (before : List Char) : List Char → List Char
  | [] => []
  | c :: rest => lowerFormAt before c rest ++ lowerFrom (c :: before) rest

/-- The title case form of characters that follow `before` (nearest first): the first letter of each
run of letters has its title case form, the others their lower case form. -/
def titleFrom (before : List Char) : List Char → List Char
  | [] => []
  | c :: rest =>
    (if before.head?.any isCased then lowerFormAt before c rest else titleForm c)
      ++ titleFrom (c :: before) rest

/-- The lower case form of a text. -/
def lower (s : String) : String := String.ofList (lowerFrom [] s.toList)

/-- The upper case form of a text. -/
def upper (s : String) : String := String.ofList (s.toList.flatMap upperForm)

/-- The title case form of a text. -/
def title (s : String) : String := String.ofList (titleFrom [] s.toList)

end BuildScript.Text
