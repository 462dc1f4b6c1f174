import BuildScript.Yaml.Construction
import Mathlib.Tactic.Common

/-!
The tokens of lines on which a word stands for the value of another. Plain text goes on over solid characters,
whatever is around them (`scanPlain_solid`), so a word is read as a whole. A line is read in three steps, up to its
key, up to the mark of its value and up to the next line (`Lexer.run_line`); the first line opens the mapping, and
the end of the text closes it. Main statement: `tokens_lines`, for any number of lines.
-/

namespace BuildScript.Yaml

open Text (Point)

/-! ## Plain text -/

/-- A character that plain text goes on with, whatever is around it. -/
def isSolid (c : Char) : Bool := !isBlankOrEnd c && c ≠ ':' && c ≠ '\ufeff'

section Solid

variable {cs : List Char} (hcs : ∀ c ∈ cs, isSolid c = true) (tail : List Char)

include hcs

theorem Cursor.skip_solid (index line column : Nat) :
    Cursor.skip ⟨cs ++ tail, index, line, column⟩ cs.length =
      ⟨tail, index + cs.length, line, column + cs.length⟩ := by
  induction cs generalizing index column with
  | nil => rfl
  | cons c cs ih =>
    obtain ⟨hc, hrest⟩ := List.forall_mem_cons.mp hcs
    simp only [isSolid, isBlankOrEnd, isSpaceOrEnd, endsLine, Bool.and_eq_true, Bool.not_eq_true',
      Bool.or_eq_false_iff, decide_eq_true_eq] at hc
    obtain ⟨⟨⟨-, -, -, hbreak⟩, -⟩, hmark⟩ := hc
    rw [List.length_cons, Cursor.skip, List.cons_append, Cursor.next]
    simp only [hbreak, Bool.false_and, Bool.false_eq_true, if_false, if_neg hmark]
    rw [ih hrest, Nat.add_right_comm index, Nat.add_right_comm column]
    rfl

theorem plainLength_solid :
    plainLength false (cs ++ tail) = cs.length + plainLength false tail := by
  induction cs with
  | nil => exact (Nat.zero_add _).symm
  | cons c cs ih =>
    obtain ⟨hc, hrest⟩ := List.forall_mem_cons.mp hcs
    simp only [isSolid, Bool.and_eq_true, Bool.not_eq_true', decide_eq_true_eq] at hc
    obtain ⟨⟨hblank, hcolon⟩, -⟩ := hc
    rw [List.cons_append, plainLength]
    simp only [hblank, hcolon, decide_false, Bool.false_and, Bool.or_false, Bool.false_eq_true,
      if_false]
    rw [ih hrest, List.length_cons, Nat.add_right_comm]

/-- Solid characters are read as one piece, if plain text ends behind them: nothing stands between it and what
follows, or what follows is not indented. -/
theorem scanPlain_solid {indent : Int} {index line column : Nat} {space : Pieces} {place : Cursor}
    {ended : Bool} (hne : cs ≠ []) (hhash : cs.head? ≠ some '#') (hend : plainLength false tail = 0)
    (hspace : plainSpace ⟨tail, index + cs.length, line, column + cs.length⟩ = (space, place, ended))
    (hstop : space = [] ∨ (place.column : Int) ≤ indent) :
    scanPlain false indent ⟨cs ++ tail, index, line, column⟩ = (String.ofList cs, place, ended) := by
  obtain ⟨c, rest, rfl⟩ := List.exists_cons_of_ne_nil hne
  have hlength := plainLength_solid hcs tail
  have hfirst : c ≠ '#' := fun h => hhash (by rw [List.head?_cons, h])
  rw [hend, Nat.add_zero] at hlength
  have hhalt : (space.isEmpty || decide (place.peek = '#')
      || (!false && decide ((place.column : Int) < indent + 1))) = true := by
    rcases hstop with rfl | hcolumn
    · rfl
    · simp [Int.lt_add_one_iff.mpr hcolumn]
  unfold scanPlain plainRest
  simp only [hlength, Cursor.skip_solid hcs, hspace, hhalt, if_true, List.nil_append,
    List.take_left]
  simp [Cursor.peek, hfirst]

end Solid

/-! ## Words -/

section Alphanumeric

variable {c : Char} (hc : c.isAlphanum = true)

include hc

theorem ne_of_isAlphanum {x : Char} (hx : x.isAlphanum = false) : c ≠ x := by
  rintro rfl
  rw [hc] at hx
  cases hx

theorem isBreak_of_isAlphanum : isBreak c = false := by
  simp [isBreak, ne_of_isAlphanum hc]

theorem isBlankOrEnd_of_isAlphanum : isBlankOrEnd c = false := by
  simp [isBlankOrEnd, isSpaceOrEnd, endsLine, isBreak_of_isAlphanum hc, ne_of_isAlphanum hc]

variable (rest : List Char) (index line column : Nat)

theorem Cursor.lineBreak_word :
    Cursor.lineBreak ⟨c :: rest, index, line, column⟩ = ([], ⟨c :: rest, index, line, column⟩) := by
  simp [Cursor.lineBreak, ne_of_isAlphanum hc, isBreak_of_isAlphanum hc]

theorem Cursor.skipSpaces_word :
    Cursor.skipSpaces ⟨c :: rest, index, line, column⟩ = ⟨c :: rest, index, line, column⟩ := by
  simp [Cursor.skipSpaces, Cursor.skipWhile, Cursor.span, ne_of_isAlphanum hc, Cursor.skip]

theorem Cursor.atDocumentMark_word :
    Cursor.atDocumentMark ⟨c :: rest, index, line, column⟩ = false := by
  simp [Cursor.atDocumentMark, ne_of_isAlphanum hc]

/-- A line break behind plain text is passed over up to the word on the next line. -/
theorem plainSpace_lineBreak : plainSpace ⟨'\n' :: c :: rest, index, line, column⟩ =
    ([[' ']], ⟨c :: rest, index + 1, line + 1, 0⟩, true) := by
  have hbreaks : plainBreaks ((c :: rest).length + 1) ⟨c :: rest, index + 1, line + 1, 0⟩ =
      (some [], ⟨c :: rest, index + 1, line + 1, 0⟩) := by
    rw [plainBreaks, Cursor.atDocumentMark_word hc, Cursor.skipSpaces_word hc,
      Cursor.lineBreak_word hc]
    rfl
  have hspan : Cursor.span ⟨'\n' :: c :: rest, index, line, column⟩ (· = ' ') =
      ([], ⟨'\n' :: c :: rest, index, line, column⟩) := rfl
  have hline : Cursor.lineBreak ⟨'\n' :: c :: rest, index, line, column⟩ =
      (['\n'], ⟨c :: rest, index + 1, line + 1, 0⟩) := rfl
  simp only [plainSpace, hspan, hline, hbreaks]
  rfl

end Alphanumeric

/-- A word that stands for itself: it begins with a letter or a digit, plain text goes on with the rest
of it, and it may stand in a text. -/
structure IsPlainWord (w : List Char) : Prop where
  opens : ∃ c rest, w = c :: rest ∧ c.isAlphanum = true
  solid : ∀ c ∈ w, isSolid c = true
  printable : ∀ c ∈ w, isPrintable c = true

theorem isPlainWord_cons {c : Char} {rest : List Char} (hc : c.isAlphanum = true)
    (h : (c :: rest).all (fun c => isSolid c && isPrintable c) = true) : IsPlainWord (c :: rest) where
  opens := ⟨c, rest, rfl, hc⟩
  solid x hx := (Bool.and_eq_true_iff.mp (List.all_eq_true.mp h x hx)).1
  printable x hx := (Bool.and_eq_true_iff.mp (List.all_eq_true.mp h x hx)).2

/-- What a word is as a plain scalar. -/
def plainScalar (w : List Char) : Token := .scalar (Point.ofText (String.ofList w)) true

/-- A word is read up to where plain text ends. -/
theorem IsPlainWord.scanPlain_eq {w tail : List Char} {indent : Int} {index line column : Nat}
    {space : Pieces} {place : Cursor} {ended : Bool} (hw : IsPlainWord w)
    (hend : plainLength false tail = 0)
    (hspace : plainSpace ⟨tail, index + w.length, line, column + w.length⟩ = (space, place, ended))
    (hstop : space = [] ∨ (place.column : Int) ≤ indent) :
    scanPlain false indent ⟨w ++ tail, index, line, column⟩ = (String.ofList w, place, ended) := by
  obtain ⟨c, more, rfl, hc⟩ := hw.opens
  have hhash : (c :: more).head? ≠ some '#' := by
    simp [ne_of_isAlphanum hc]
  exact scanPlain_solid hw.solid tail (List.cons_ne_nil c more) hhash hend hspace hstop

/-! ## Steps -/

theorem insertIdx_append (xs ys : List Token) (t : Token) :
    (xs ++ ys).toArray.insertIdxIfInBounds xs.length t = (xs ++ t :: ys).toArray := by
  have hlist : (xs ++ ys).insertIdx xs.length t = xs ++ t :: ys := by
    induction xs with
    | nil => rfl
    | cons x xs ih =>
      rw [List.cons_append, List.length_cons, List.insertIdx_succ_cons, ih]
      rfl
  rw [Array.insertIdxIfInBounds, dif_pos (by simp), List.insertIdx_toArray, hlist]

namespace Lexer

variable {l : Lexer}

theorem unwind_of_le {column : Int} (h : l.indent ≤ column) : l.unwind column = l := by
  unfold unwind
  split
  · cases l.indents with
    | nil => rfl
    | cons outer more => rw [unwindFrom, if_neg (Int.not_lt.mpr h)]
  · rfl

theorem dropStale_of_nil (h : l.keys = []) : l.dropStale = .ok l := by
  obtain ⟨cursor, ts, flow, indent, indents, allowed, keys, done⟩ := l
  subst h
  rfl

theorem dropStale_of_fresh {k : SimpleKey} (hkeys : l.keys = [(0, k)])
    (h : l.isStale k = false) : l.dropStale = .ok l := by
  obtain ⟨cursor, ts, flow, indent, indents, allowed, keys, done⟩ := l
  subst hkeys
  simp [dropStale, h]

theorem run_of_step {next : Lexer} (hdone : l.done = false) (h : l.step = .ok next) (fuel : Nat) :
    run (fuel + 1) l = run fuel next := by
  rw [run, if_neg (by simp [hdone]), h]

section Word

variable {c : Char} (hc : c.isAlphanum = true) {rest : List Char}

include hc

/-- Nothing is passed over in front of a word. -/
theorem skipBlanks_word (hl : l.cursor.rest = c :: rest) (fuel : Nat) :
    skipBlanks (fuel + 1) l = l := by
  obtain ⟨⟨_, index, line, column⟩, ts, flow, indent, indents, allowed, keys, done⟩ := l
  subst hl
  have hhash : c ≠ '#' := ne_of_isAlphanum hc (by decide)
  simp [skipBlanks, Cursor.skipSpaces_word hc, Cursor.lineBreak_word hc, Cursor.peek, hhash]

/-- One space in front of a word is passed over. -/
theorem skipBlanks_space (hl : l.cursor.rest = ' ' :: c :: rest) (fuel : Nat) :
    skipBlanks (fuel + 1) l = { l with cursor := l.cursor.next } := by
  obtain ⟨⟨_, index, line, column⟩, ts, flow, indent, indents, allowed, keys, done⟩ := l
  subst hl
  have hspace : c ≠ ' ' := ne_of_isAlphanum hc (by decide)
  have hhash : c ≠ '#' := ne_of_isAlphanum hc (by decide)
  have hskip : Cursor.skipSpaces ⟨' ' :: c :: rest, index, line, column⟩ =
      ⟨c :: rest, index + 1, line, column + 1⟩ := by
    simp only [Cursor.skipSpaces, Cursor.skipWhile, Cursor.span, List.takeWhile_cons, hspace,
      decide_true, decide_false, if_true, Bool.false_eq_true, if_false]
    rfl
  simp only [skipBlanks, hskip, Cursor.lineBreak_word hc, Cursor.peek, List.headD_cons, hhash,
    if_false, List.isEmpty_nil, if_true]
  rfl

/-- Where a word begins, plain text is read. -/
theorem step_word {start : Lexer} (hl : l.cursor.rest = c :: rest)
    (hskip : skipBlanks (start.cursor.rest.length + 1) start = l) (hstale : l.dropStale = .ok l)
    (hunwind : l.unwind l.cursor.column = l) : start.step = l.plain := by
  have hpeek : l.cursor.peek = c := by rw [Cursor.peek, hl, List.headD_cons]
  have hne {x : Char} (hx : x.isAlphanum = false) : c ≠ x := ne_of_isAlphanum hc hx
  have hmark : l.cursor.atDocumentMark = false := by
    simp [Cursor.atDocumentMark, hl, hne]
  have hplain : l.startsPlain = true := by
    have hopens : "-?:,[]\x7b\x7d#&*!|>'\"%@`".toList.contains c = false := by
      simp [hne]
    simp only [startsPlain, hpeek, isBlankOrEnd_of_isAlphanum hc, hopens, Bool.or_false,
      Bool.not_false, Bool.true_or]
  unfold step
  rw [hskip, hstale]
  simp only [bind, Except.bind, hunwind, hpeek]
  split
  -- the characters that have branches of their own are no letters or digits
  all_goals first
    | exact absurd hc (by decide)
    | skip
  simp [hne, hmark, hplain]

end Word

/-- The lexer at the front of a line, some tokens behind. -/
def front (ts : List Token) (indent : Int) (indents : List Int) (rest : List Char)
    (index line : Nat) : Lexer :=
  { cursor := ⟨rest, index, line, 0⟩, tokens := ts.toArray, indent, indents }

/-- The lexer behind a word that stands at the front of a line and may be a key. -/
def behindKey (ts : List Token) (indent : Int) (indents : List Int) (w rest : List Char)
    (index line : Nat) : Lexer :=
  { cursor := ⟨rest, index + w.length, line, w.length⟩, tokens := (ts ++ [plainScalar w]).toArray
    indent, indents, keyAllowed := false
    keys := [(0, ⟨ts.length, decide (indent = 0), index, line, 0⟩)] }

/-- The lexer inside a mapping at the front of its lines. -/
def inside (ts : List Token) (indents : List Int) (cursor : Cursor) (allowed : Bool) : Lexer :=
  { cursor, tokens := ts.toArray, indent := 0, indents, keyAllowed := allowed }

/-- What stands in front of the first entry of a mapping, with the indentation outside of it. -/
def opening (indent : Int) : List Token := if indent < 0 then [.blockMappingStart] else []

/-- The indentations outside of a mapping at the front of its lines. -/
def outside (indent : Int) (indents : List Int) : List Int :=
  if indent < 0 then indent :: indents else indents

variable {ts : List Token} {indent : Int} {indents : List Int} {w rest tail : List Char}
  {index line column : Nat}

/-- A word at the front of a line may be a key. -/
theorem step_front (hw : IsPlainWord w) (hindent : indent ≤ 0) :
    (front ts indent indents (w ++ ':' :: ' ' :: rest) index line).step =
      .ok (behindKey ts indent indents w (':' :: ' ' :: rest) index line) := by
  have hend : plainLength false (':' :: ' ' :: rest) = 0 := rfl
  have hspace : plainSpace ⟨':' :: ' ' :: rest, index + w.length, line, 0 + w.length⟩ =
      ([], ⟨':' :: ' ' :: rest, index + w.length, line, 0 + w.length⟩, false) := rfl
  have hscan : scanPlain (decide (0 < 0)) indent ⟨w ++ ':' :: ' ' :: rest, index, line, 0⟩ =
      (String.ofList w, _, false) := hw.scanPlain_eq hend hspace (.inl rfl)
  obtain ⟨c, more, rfl, hc⟩ := hw.opens
  have hrest : (front ts indent indents (c :: more ++ ':' :: ' ' :: rest) index line).cursor.rest =
      c :: (more ++ ':' :: ' ' :: rest) := rfl
  rw [step_word hc hrest (skipBlanks_word hc hrest _) (dropStale_of_nil rfl) (unwind_of_le hindent)]
  unfold plain front
  simp only [hscan, saveKey, bind, Except.bind, dropKey, List.lookup_nil]
  simp [behindKey, plainScalar, push, pure, Except.pure]

theorem openBlock_front {more : List Token} (hflow : l.flow = 0) (hindent : l.indent ≤ 0)
    (htokens : l.tokens = (ts ++ more).toArray) :
    l.openBlock 0 .blockMappingStart ts.length =
      { l with
        tokens := (ts ++ opening l.indent ++ more).toArray, indent := 0
        indents := outside l.indent l.indents } := by
  obtain ⟨cursor, tokens, flow, indent, indents, allowed, keys, done⟩ := l
  subst hflow htokens
  by_cases hopen : indent < 0
  · rw [openBlock, if_pos ⟨rfl, hopen⟩]
    simp only [opening, outside, if_pos hopen, insertIdx_append, List.append_assoc,
      List.singleton_append]
    rfl
  · obtain rfl : indent = 0 := Int.le_antisymm hindent (Int.not_lt.mp hopen)
    simp [openBlock, opening, outside]

theorem valueMark_behindKey (ts : List Token) (indents : List Int) (w rest : List Char)
    (index line : Nat) (hindent : indent ≤ 0) :
    (behindKey ts indent indents w (':' :: ' ' :: rest) index line).valueMark =
      .ok (inside (ts ++ opening indent ++ [.key, plainScalar w, .value]) (outside indent indents)
        ⟨' ' :: rest, index + w.length + 1, line, w.length + 1⟩ false) := by
  have hmark : (behindKey ts indent indents w (':' :: ' ' :: rest) index line).valueMark =
      .ok ({ openBlock
        ⟨⟨':' :: ' ' :: rest, index + w.length, line, w.length⟩, (ts ++ [Token.key, plainScalar w]).toArray,
          0, indent, indents, false, [], false⟩ 0 .blockMappingStart ts.length with
        keyAllowed := false }.take .value 1) := by
    rw [← insertIdx_append ts [plainScalar w] .key]
    rfl
  rw [hmark, openBlock_front rfl hindent rfl]
  simp [take, inside, Cursor.skip, Cursor.next, isBreak]

/-- Behind a key that is not too long stands the mark of its value. -/
theorem step_behindKey (hlength : w.length ≤ maxKeyLength) (hindent : indent ≤ 0) :
    (behindKey ts indent indents w (':' :: ' ' :: rest) index line).step =
      .ok (inside (ts ++ opening indent ++ [.key, plainScalar w, .value]) (outside indent indents)
        ⟨' ' :: rest, index + w.length + 1, line, w.length + 1⟩ false) := by
  have hmark := valueMark_behindKey ts indents w rest index line hindent
  generalize hl : behindKey ts indent indents w (':' :: ' ' :: rest) index line = l at hmark ⊢
  have hcursor : l.cursor = ⟨':' :: ' ' :: rest, index + w.length, line, w.length⟩ := hl ▸ rfl
  have hfresh : l.dropStale = .ok l := by
    subst hl
    refine dropStale_of_fresh rfl ?_
    simp [isStale, behindKey, hlength]
  have hunwind : l.unwind l.cursor.column = l := by
    subst hl
    exact unwind_of_le (Int.le_trans hindent (Int.natCast_nonneg _))
  have hskip : skipBlanks (l.cursor.rest.length + 1) l = l := by
    subst hl
    rfl
  have hpeek : l.cursor.peek = ':' := by rw [hcursor]; rfl
  have hblank : isBlankOrEnd (l.cursor.peekAt 1) = true := by rw [hcursor]; rfl
  have hdocument : l.cursor.atDocumentMark = false := by rw [hcursor]; rfl
  unfold step
  rw [hskip, hfresh]
  simp only [bind, Except.bind, hunwind, hpeek, hblank, hdocument]
  simp [hmark]

/-- A word behind the mark of a value is the value. -/
theorem step_inside {space : Pieces} {place : Cursor} {ended : Bool} (hw : IsPlainWord w)
    (hend : plainLength false tail = 0)
    (hspace : plainSpace ⟨tail, index + 1 + w.length, line, column + 1 + w.length⟩ =
      (space, place, ended))
    (hstop : space = [] ∨ place.column = 0) :
    (inside ts indents ⟨' ' :: (w ++ tail), index, line, column⟩ false).step =
      .ok (inside (ts ++ [plainScalar w]) indents place ended) := by
  have hscan : scanPlain (decide (0 < 0)) 0 ⟨w ++ tail, index + 1, line, column + 1⟩ =
      (String.ofList w, place, ended) :=
    hw.scanPlain_eq hend hspace (hstop.imp_right fun h => by rw [h]; exact Int.le_refl 0)
  obtain ⟨c, more, rfl, hc⟩ := hw.opens
  have hskip := skipBlanks_space (l := inside ts indents ⟨' ' :: (c :: more ++ tail), index, line, column⟩
    false) hc rfl (' ' :: (c :: more ++ tail)).length
  rw [step_word hc rfl hskip (dropStale_of_nil rfl) (unwind_of_le (Int.natCast_nonneg _))]
  have hnext : Cursor.next ⟨' ' :: (c :: more ++ tail), index, line, column⟩ =
      ⟨c :: more ++ tail, index + 1, line, column + 1⟩ := rfl
  unfold plain inside
  simp only [hnext, hscan, saveKey, bind, Except.bind]
  simp [plainScalar, push, pure, Except.pure]

/-- At the end of the text the mapping is closed. -/
theorem run_end (allowed : Bool) (fuel : Nat) :
    run (fuel + 2) (inside ts [-1] ⟨[], index, line, column⟩ allowed) =
      (ts ++ [Token.blockEnd, .streamEnd]).toArray := by
  have hunwind : (inside ts [-1] ⟨[], index, line, column⟩ allowed).unwind column =
      inside ts [-1] ⟨[], index, line, column⟩ allowed := unwind_of_le (Int.natCast_nonneg column)
  have hstep : (inside ts [-1] ⟨[], index, line, column⟩ allowed).step =
      .ok ⟨⟨[], index, line, column⟩, (ts.toArray.push .blockEnd).push .streamEnd, 0, -1, [], false,
        [], true⟩ := by
    generalize hl : inside ts [-1] ⟨[], index, line, column⟩ allowed = l at hunwind ⊢
    have hskip : skipBlanks (l.cursor.rest.length + 1) l = l := by
      subst hl
      rfl
    have hstale : l.dropStale = .ok l := by
      subst hl
      rfl
    have hcolumn : l.cursor.column = column := hl ▸ rfl
    unfold step
    rw [hskip, hstale]
    simp only [bind, Except.bind, hcolumn, hunwind]
    subst hl
    rfl
  rw [run_of_step rfl hstep, run, if_pos rfl]
  simp

end Lexer

/-! ## Lines -/

/-- A word that is a scalar under the tag that its form asks for. -/
structure Reads (w : List Char) (x : Scalar) : Prop where
  isScalar : shapeOfTag? (plainTag (String.ofList w)) = none
  reads : ∀ id, Scalar.ofTag? (plainTag (String.ofList w)) id (Point.ofText (String.ofList w)) =
    some (.ok x)

/-- A word whose form asks for nothing else is a text. -/
theorem reads_text {w : List Char} (h : plainTag (String.ofList w) = textTag) :
    Reads w (.plain (.text (String.ofList w))) where
  isScalar := by
    rw [h]
    decide
  reads id := by
    simp [h, Scalar.ofTag?, Scalar.ofPoints, Point.text?_ofText]

/-- A line on which a word stands for the value of another: the key is a text, not too long, and the value is
a scalar. -/
structure Line where
  key : List Char
  value : List Char
  scalar : Scalar
  isKey : IsPlainWord key
  isText : plainTag (String.ofList key) = textTag
  short : key.length ≤ maxKeyLength
  isValue : IsPlainWord value
  reads : Reads value scalar

namespace Line

/-- The characters of a line. -/
def chars (s : Line) : List Char := s.key ++ ':' :: ' ' :: s.value

/-- The tokens of a line. -/
def tokens (s : Line) : List Token := [.key, plainScalar s.key, .value, plainScalar s.value]

/-- The characters of a line and of the lines below it. -/
def text (s : Line) : List Line → List Char
  | [] => s.chars
  | next :: more => s.chars ++ '\n' :: text next more

theorem text_opens (s : Line) (more : List Line) :
    ∃ c rest, s.text more = c :: rest ∧ c.isAlphanum = true := by
  obtain ⟨c, rest, hkey, hc⟩ := s.isKey.opens
  cases more with
  | nil => exact ⟨c, _, by rw [text, chars, hkey]; rfl, hc⟩
  | cons next more => exact ⟨c, _, by rw [text, chars, hkey]; rfl, hc⟩

theorem length_text (s : Line) (more : List Line) :
    3 * (more.length + 1) ≤ (s.text more).length := by
  have hchars (s : Line) : 3 ≤ s.chars.length := by
    obtain ⟨c, rest, hkey, -⟩ := s.isKey.opens
    simp only [chars, hkey, List.length_append, List.length_cons]
    omega
  induction more generalizing s with
  | nil => exact hchars s
  | cons next more ih =>
    have hs := hchars s
    have hnext := ih next
    simp only [text, List.length_append, List.length_cons]
    omega

end Line

namespace Lexer

/-- A line is read in three steps. -/
theorem run_line (s : Line) (ts : List Token) (indents : List Int) {indent : Int}
    {tail : List Char} {index line : Nat} {space : Pieces} {place : Cursor} {ended : Bool} (hindent : indent ≤ 0)
    (hend : plainLength false tail = 0)
    (hspace : plainSpace ⟨tail, index + s.chars.length, line, s.chars.length⟩ = (space, place, ended))
    (hstop : space = [] ∨ place.column = 0) (fuel : Nat) :
    run (fuel + 3) (front ts indent indents (s.chars ++ tail) index line) =
      run fuel (inside (ts ++ opening indent ++ s.tokens) (outside indent indents) place ended) := by
  have hchars : s.chars ++ tail = s.key ++ ':' :: ' ' :: (s.value ++ tail) := by simp [Line.chars]
  have hlength : s.chars.length = s.key.length + 1 + 1 + s.value.length := by
    simp only [Line.chars, List.length_append, List.length_cons]
    omega
  rw [hlength, ← Nat.add_assoc, ← Nat.add_assoc, ← Nat.add_assoc] at hspace
  rw [hchars, run_of_step rfl (step_front s.isKey hindent),
    run_of_step rfl (step_behindKey s.short hindent),
    run_of_step rfl (step_inside s.isValue hend hspace hstop), List.append_assoc]
  rfl

/-- Lines are read one after the other, and the mapping is closed behind the last. -/
theorem run_lines (s : Line) (more : List Line) (ts : List Token) {indent : Int}
    {indents : List Int} (hindent : indent ≤ 0) (houtside : outside indent indents = [-1]) (index line fuel : Nat) :
    run (fuel + 3 * (more.length + 1) + 2) (front ts indent indents (s.text more) index line) =
      (ts ++ opening indent ++ (s :: more).flatMap Line.tokens ++ [Token.blockEnd, .streamEnd]).toArray := by
  induction more generalizing s ts indent indents index line with
  | nil =>
    have hspace : plainSpace ⟨[], index + s.chars.length, line, s.chars.length⟩ =
        ([], ⟨[], index + s.chars.length, line, s.chars.length⟩, false) := rfl
    have hline := run_line s ts indents hindent rfl hspace (.inl rfl) (fuel + 2)
    rw [List.append_nil, houtside] at hline
    rw [Line.text, List.flatMap_singleton]
    exact hline.trans (run_end false fuel)
  | cons next more ih =>
    obtain ⟨c, rest, htext, hc⟩ := next.text_opens more
    have hspace := plainSpace_lineBreak hc rest (index + s.chars.length) line s.chars.length
    rw [← htext] at hspace
    have hline := run_line s ts indents hindent rfl hspace (.inr rfl)
      (fuel + 3 * (more.length + 1) + 2)
    rw [houtside] at hline
    have hnext := ih next (ts ++ opening indent ++ s.tokens) (Int.le_refl 0) rfl
      (index + s.chars.length + 1) (line + 1)
    -- behind the line the lexer is at the front of the next, inside the mapping
    have hfront := hline.trans hnext
    rw [Line.text, List.flatMap_cons]
    refine Eq.trans ?_ (hfront.trans ?_)
    · rfl
    · simp [opening]

end Lexer

/-- The tokens of lines are those of one mapping, with an entry for each of them. -/
theorem tokens_lines (s : Line) (more : List Line) : Yaml.tokens (s.text more) =
    .blockMappingStart :: (s :: more).flatMap Line.tokens ++ [.blockEnd, .streamEnd] := by
  obtain ⟨c, rest, htext, hc⟩ := s.text_opens more
  have hmark : (s.text more).head? ≠ some '\ufeff' := by
    rw [htext, List.head?_cons]
    exact fun h => ne_of_isAlphanum hc (by decide) (Option.some.inj h)
  have hlength := s.length_text more
  obtain ⟨fuel, hfuel⟩ : ∃ fuel, (s.text more).length + 2 = fuel + 3 * (more.length + 1) + 2 :=
    ⟨(s.text more).length - 3 * (more.length + 1), by omega⟩
  have hrun := Lexer.run_lines s more [] (by decide) (rfl : Lexer.outside (-1) [] = [-1]) 0 0 fuel
  unfold tokens
  simp only [if_neg hmark, hfuel]
  exact congrArg Array.toList hrun

end BuildScript.Yaml
