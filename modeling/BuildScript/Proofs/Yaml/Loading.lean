import BuildScript.Number.Numeral
import BuildScript.Proofs.Traversal
import BuildScript.Proofs.Yaml.Lines
import Mathlib.Data.List.TakeDrop
import Mathlib.Data.List.TakeWhile

/-!
What lines of words are read as. The tokens of lines make one mapping, whose nodes are numbered in the order of the
words (`blockEntries_lines`, `ofTokens_lines`). Nothing is merged into it and each node is met once, so its entries
are made one after the other (`Construction.mapM_entries`). A word may be a text, or an integer in base sixteen
(`reads_sixteen`). Main statement: `load_lines`.
-/

namespace BuildScript

open Text (Point)

namespace Yaml

/-! ## The document -/

/-- The node of a word. -/
def wordNode (w : List Char) : Node :=
  ⟨plainTag (String.ofList w), .scalar (Point.ofText (String.ofList w))⟩

namespace Line

/-- The nodes of a line. -/
def nodes (s : Line) : List Node := [wordNode s.key, wordNode s.value]

/-- The entries of a mapping that lines make, whose nodes are numbered from a number on. -/
def entries (id : Nat) : List Line → List (Nat × Nat)
  | [] => []
  | _ :: more => (id, id + 1) :: entries (id + 2) more

end Line

namespace Reader

variable {rest : List Token} {ns : Array Node} {anchors : Table String Nat} {handles : Table String String}

theorem node_word (w : List Char) (block indentless : Bool) (fuel : Nat) :
    (node block indentless (fuel + 1)).run ⟨plainScalar w :: rest, ns, anchors, handles⟩ =
      .ok (ns.size, ⟨rest, ns.push (wordNode w), anchors, handles⟩) := by
  have htag : scalarTag none (Point.ofText (String.ofList w)) true = plainTag (String.ofList w) := by
    simp [scalarTag, Point.text?_ofText]
  unfold wordNode
  rw [← htag]
  rfl

theorem blockPart_word (w : List Char) (fuel : Nat) :
    (blockPart (fuel + 2)).run ⟨plainScalar w :: rest, ns, anchors, handles⟩ =
      .ok (ns.size, ⟨rest, ns.push (wordNode w), anchors, handles⟩) :=
  node_word w true true fuel

theorem blockValue_word (w : List Char) (fuel : Nat) :
    (blockValue (fuel + 3)).run ⟨.value :: plainScalar w :: rest, ns, anchors, handles⟩ =
      .ok (ns.size, ⟨rest, ns.push (wordNode w), anchors, handles⟩) :=
  blockPart_word w fuel

/-- The entry of a line is read, and what is behind it is read as the other entries. -/
theorem blockEntries_line (s : Line) (fuel : Nat) :
    (blockEntries (fuel + 4)).run ⟨s.tokens ++ rest, ns, anchors, handles⟩ =
      ((blockEntries (fuel + 3)).run
        ⟨rest, (ns.push (wordNode s.key)).push (wordNode s.value), anchors, handles⟩).map
        fun r => ((ns.size, ns.size + 1) :: r.1, r.2) := by
  have hentry : (blockEntries (fuel + 4)).run ⟨s.tokens ++ rest, ns, anchors, handles⟩ =
      (do
        let key ← blockPart (fuel + 3)
        let value ← blockValue (fuel + 3)
        return (key, value) :: (← blockEntries (fuel + 3))).run
        ⟨plainScalar s.key :: .value :: plainScalar s.value :: rest, ns, anchors, handles⟩ := rfl
  rw [hentry, run_step_of_ok (blockPart_word s.key (fuel + 1)),
    run_step_of_ok (blockValue_word s.value fuel), Array.size_push, StateT.run_bind]
  cases (blockEntries (fuel + 3)).run
    ⟨rest, (ns.push (wordNode s.key)).push (wordNode s.value), anchors, handles⟩ <;> rfl

/-- The entries of lines are read up to the end of the mapping. -/
theorem blockEntries_lines (lines : List Line) (ns : Array Node) (fuel : Nat) :
    (blockEntries (fuel + lines.length + 4)).run
        ⟨lines.flatMap Line.tokens ++ .blockEnd :: rest, ns, anchors, handles⟩ =
      .ok (Line.entries ns.size lines,
        ⟨rest, ns ++ (lines.flatMap Line.nodes).toArray, anchors, handles⟩) := by
  induction lines generalizing ns with
  | nil =>
    rw [List.flatMap_nil, List.flatMap_nil, Array.append_empty]
    rfl
  | cons s more ih =>
    have hmore := ih ((ns.push (wordNode s.key)).push (wordNode s.value))
    rw [Array.size_push, Array.size_push] at hmore
    rw [List.flatMap_cons, List.append_assoc, List.length_cons, ← Nat.add_assoc,
      blockEntries_line s (fuel + more.length + 1), hmore]
    simp [Except.map, Line.entries, Line.nodes]

theorem node_mapping {ts : List Token} {es : List (Nat × Nat)} {r : Reader} {fuel : Nat}
    (ns : Array Node)
    (h : (blockEntries fuel).run ⟨ts, ns.push ⟨mappingTag, .mapping []⟩, anchors, handles⟩ =
      .ok (es, r)) :
    (node true false (fuel + 1)).run ⟨.blockMappingStart :: ts, ns, anchors, handles⟩ =
      .ok (ns.size, { r with
        nodes := r.nodes.modify ns.size fun n => { n with content := .mapping es } }) := by
  have hnode : (node true false (fuel + 1)).run ⟨.blockMappingStart :: ts, ns, anchors, handles⟩ =
      (do
        let es ← blockEntries fuel
        fill ns.size (.mapping es)
        return ns.size).run ⟨ts, ns.push ⟨mappingTag, .mapping []⟩, anchors, handles⟩ := rfl
  rw [hnode, run_step_of_ok h]
  rfl

/-- A text that is one mapping is its document. -/
theorem only_mapping {ts : List Token} {es : List (Nat × Nat)} {ns : Array Node} {fuel : Nat}
    (h : (blockEntries fuel).run ⟨ts, #[⟨mappingTag, .mapping []⟩], .empty, withCommon .empty⟩ =
      .ok (es, ⟨[.streamEnd], ns, .empty, withCommon .empty⟩)) :
    (only (fuel + 1)).run { tokens := .blockMappingStart :: ts } =
      .ok (some 0, ⟨[.streamEnd], ns.modify 0 fun n => { n with content := .mapping es }, .empty,
        withCommon .empty⟩) := by
  have hroot := node_mapping #[] h
  have hhead : head.run { tokens := .blockMappingStart :: ts } =
      .ok (.blockMappingStart, { tokens := .blockMappingStart :: ts }) := rfl
  have hdirectives : (directives false 1).run { tokens := .blockMappingStart :: ts } =
      .ok ((), ⟨.blockMappingStart :: ts, #[], .empty, withCommon .empty⟩) := rfl
  unfold only
  rw [run_step_of_ok hhead, if_neg (by decide), if_neg (by decide), run_step_of_ok hdirectives,
    run_step_of_ok hroot]
  rfl

end Reader

/-- The document of lines: a mapping whose entries are the lines. -/
def Line.document (lines : List Line) : Document :=
  { nodes := (⟨mappingTag, .mapping (Line.entries 1 lines)⟩ :: lines.flatMap Line.nodes).toArray
    root := 0 }

theorem Line.length_tokens (lines : List Line) : (lines.flatMap Line.tokens).length = 4 * lines.length := by
  induction lines with
  | nil => rfl
  | cons s more ih =>
    rw [List.flatMap_cons, List.length_append, ih, Line.tokens]
    simp only [List.length_cons, List.length_nil]
    omega

theorem ofTokens_lines (lines : List Line) :
    Document.ofTokens (.blockMappingStart :: lines.flatMap Line.tokens ++ [.blockEnd, .streamEnd]) =
      .ok (some (Line.document lines)) := by
  obtain ⟨fuel, hfuel⟩ : ∃ fuel, 3 * (Token.blockMappingStart :: lines.flatMap Line.tokens
      ++ [Token.blockEnd, .streamEnd]).length + 10 = fuel + lines.length + 5 :=
    ⟨11 * lines.length + 14, by
      rw [List.length_append, List.length_cons, Line.length_tokens]
      simp only [List.length_cons, List.length_nil]
      omega⟩
  have honly := Reader.only_mapping
    (Reader.blockEntries_lines lines #[⟨mappingTag, .mapping []⟩] fuel)
  rw [Document.ofTokens, hfuel, List.cons_append, honly, List.append_toArray, List.modify_toArray]
  rfl

/-! ## Data -/

/-- Whether a tag is one of scalars does not depend on the text. -/
theorem Scalar.isSome_ofTag? (tag : String) (id : Nat) (ps ps' : List Point) :
    (ofTag? tag id ps).isSome = (ofTag? tag id ps').isSome := by
  unfold ofTag?
  split_ifs <;> rfl

theorem Document.scalar_word {d : Document} {id : Nat} {w : List Char} {x : Scalar}
    (hnode : d.node id = wordNode w) (h : Reads w x) : d.scalar id = .ok x := by
  have hsome := Scalar.isSome_ofTag? (d.tag id) id [] (Point.ofText (String.ofList w))
  have hreads := h.reads id
  have htag : d.tag id = plainTag (String.ofList w) := by rw [Document.tag, hnode]; rfl
  have htext : d.scalarText d.depth id = .ok (Point.ofText (String.ofList w)) := by
    simp [Document.depth, Document.scalarText, hnode, wordNode]
  rw [← htag] at hreads
  rw [hreads, Option.isSome_some, Option.isSome_iff_exists] at hsome
  obtain ⟨y, hy⟩ := hsome
  unfold Document.scalar
  simp [hy, htext, hreads, hnode, wordNode, bind, Except.bind]

namespace Construction

variable {c : Construction} {id : Nat} {w : List Char} {x : Scalar}

theorem datum_word (hnode : c.document.node id = wordNode w) (hnew : c.data.getD id none = none)
    (h : Reads w x) : (datum id).run c =
      .ok (.scalar x, { c with data := c.data.setIfInBounds id (some (.scalar x)) }) := by
  have hget : (get : Constructing Construction).run c = .ok (c, c) := rfl
  have hshape : shapeOfTag? (c.document.tag id) = none := by
    rw [Document.tag, hnode]
    exact h.isScalar
  unfold datum
  rw [run_step_of_ok hget]
  simp only [hnew, hshape, Document.scalar_word hnode h]
  rfl

theorem key_word (hnode : c.document.node id = wordNode w) (hnew : c.data.getD id none = none)
    (h : Reads w x) : (key id).run c =
      .ok (x, { c with data := c.data.setIfInBounds id (some (.scalar x)) }) := by
  unfold key
  rw [run_step_of_ok (datum_word hnode hnew h)]
  rfl

end Construction

/-- The entry that a line gives a mapping. -/
def Line.entry (s : Line) : Scalar × Datum := (.plain (.text (String.ofList s.key)), .scalar s.scalar)

/-- The nodes of the lines are those of the document from a number on. -/
inductive Document.HasLines (d : Document) : Nat → List Line → Prop where
  | nil {id : Nat} : d.HasLines id []
  | cons {id : Nat} {s : Line} {more : List Line} (hkey : d.node id = wordNode s.key)
      (hvalue : d.node (id + 1) = wordNode s.value) (hmore : d.HasLines (id + 2) more) :
      d.HasLines id (s :: more)

theorem Document.hasLines_of_drop {d : Document} {id : Nat} {lines : List Line}
    (h : d.nodes.toList.drop id = lines.flatMap Line.nodes) : d.HasLines id lines := by
  induction lines generalizing id with
  | nil => exact .nil
  | cons s more ih =>
    have hnode {i : Nat} {n : Node} {ns : List Node} (h : d.nodes.toList.drop i = n :: ns) :
        d.node i = n ∧ d.nodes.toList.drop (i + 1) = ns := by
      constructor
      · have hi : d.nodes.toList[i]? = some n := by
          rw [← Nat.add_zero i, ← List.getElem?_drop, h]
          rfl
        rw [Document.node, Array.getD_eq_getD_getElem?, ← Array.getElem?_toList, hi]
        rfl
      · rw [← List.drop_drop, h]
        rfl
    obtain ⟨hkey, hrest⟩ := hnode h
    obtain ⟨hvalue, hmore⟩ := hnode hrest
    exact .cons hkey hvalue (ih hmore)

namespace Construction

variable {c : Construction} {id : Nat}

/-- Makes the entry of a mapping. -/
def made (e : Nat × Nat) : Constructing (Scalar × Datum) := do return (← key e.1, ← datum e.2)

/-- The entries of lines are made one after the other, if nothing has been made of their nodes. -/
theorem mapM_entries {d : Document} {lines : List Line} (hlines : d.HasLines id lines)
    (hd : c.document = d) (hnew : ∀ i, id ≤ i → c.data.getD i none = none) :
    ∃ data, ((Line.entries id lines).mapM made).run c =
      .ok (lines.map Line.entry, { c with data }) := by
  induction hlines generalizing c with
  | nil => exact ⟨c.data, rfl⟩
  | @cons id s more hkey hvalue hmore ih =>
    have hlater {data : Array (Option Datum)} {j i : Nat} (x : Option Datum) (hi : j < i)
        (h : data.getD i none = none) : (data.setIfInBounds j x).getD i none = none := by
      rw [Array.getD_eq_getD_getElem?, Array.getElem?_setIfInBounds_ne (Nat.ne_of_lt hi),
        ← Array.getD_eq_getD_getElem?, h]
    subst hd
    have hfirst := key_word hkey (hnew id (Nat.le_refl id)) (reads_text s.isText)
    generalize some (Datum.scalar (.plain (.text (String.ofList s.key)))) = x at hfirst
    have hsecond := datum_word (c := { c with data := c.data.setIfInBounds id x }) hvalue
      (hlater x (Nat.lt_succ_self id) (hnew (id + 1) (Nat.le_succ id))) s.reads
    generalize some (Datum.scalar s.scalar) = y at hsecond
    obtain ⟨data, hrest⟩ := ih (c := { c with
      data := (c.data.setIfInBounds id x).setIfInBounds (id + 1) y }) rfl fun i hi =>
        hlater y (by omega) (hlater x (by omega) (hnew i (by omega)))
    have hmade : (made (id, id + 1)).run c = .ok (s.entry, { c with
        data := (c.data.setIfInBounds id x).setIfInBounds (id + 1) y }) := by
      unfold made
      rw [run_step_of_ok hfirst, run_step_of_ok hsecond]
      rfl
    refine ⟨data, ?_⟩
    rw [Line.entries, List.mapM_cons, run_step_of_ok hmade, run_step_of_ok hrest]
    rfl

end Construction

namespace Document

variable {d : Document} {id : Nat} {lines : List Line}

theorem HasLines.tag_of_mem (h : d.HasLines id lines) :
    ∀ e ∈ Line.entries id lines, d.tag e.1 = textTag := by
  induction h with
  | nil => exact fun e he => absurd he List.not_mem_nil
  | @cons id s more hkey hvalue hmore ih =>
    refine List.forall_mem_cons.mpr ⟨?_, ih⟩
    rw [tag, hkey]
    exact s.isText

/-- Lines have nothing to be merged and no key that stands for the value of a mapping. -/
theorem flatten_lines (h : d.HasLines id lines) {mapping : Nat}
    (hentries : d.entries mapping = .ok (Line.entries id lines)) : d.flatten mapping = .ok d := by
  have hmerge : (Line.entries id lines).find? d.merges = none := by
    refine List.find?_eq_none.mpr fun e he => ?_
    rw [merges, h.tag_of_mem e he]
    decide
  have hsettle : (Line.entries id lines).foldl (fun d e => d.settleKey e.1) d = d := by
    have htags := h.tag_of_mem
    generalize Line.entries id lines = es at htags
    induction es with
    | nil => rfl
    | cons e es ih =>
      obtain ⟨he, hes⟩ := List.forall_mem_cons.mp htags
      have hstay : d.settleKey e.1 = d := by
        rw [settleKey, if_neg (by rw [he]; decide)]
      rw [List.foldl_cons, hstay]
      exact ih hes
  unfold flatten flattenFrom
  simp [hentries, hmerge, hsettle, bind, Except.bind, pure, Except.pure]

end Document

theorem hasLines_document (lines : List Line) : (Line.document lines).HasLines 1 lines :=
  Document.hasLines_of_drop rfl

namespace Construction

variable {c : Construction} {lines : List Line}

theorem mapping_lines (hd : c.document = Line.document lines)
    (hnew : ∀ i, 1 ≤ i → c.data.getD i none = none) :
    ∃ data, (mapping 0).run c = .ok (uniteEntries (lines.map Line.entry), { c with data }) := by
  obtain ⟨data, hmade⟩ := mapM_entries (hasLines_document lines) hd hnew
  have hget : (get : Constructing Construction).run c = .ok (c, c) := rfl
  have hentries : (Line.document lines).entries 0 = .ok (Line.entries 1 lines) := rfl
  have hcontent : (c.document.node 0).content = .mapping (Line.entries 1 lines) := by
    rw [hd]
    rfl
  have hflat : (liftM (c.document.flatten 0) : Constructing Document).run c =
      .ok (Line.document lines, c) := by
    rw [hd, Document.flatten_lines (hasLines_document lines) hentries]
    rfl
  have hset : (set { c with document := Line.document lines } : Constructing PUnit).run c =
      .ok (⟨⟩, c) := by
    rw [← hd]
    rfl
  have hlift : (liftM ((Line.document lines).entries 0) : Constructing (List (Nat × Nat))).run c =
      .ok (Line.entries 1 lines, c) := by
    rw [hentries]
    rfl
  refine ⟨data, ?_⟩
  unfold mapping
  rw [run_step_of_ok hget]
  simp only [hcontent]
  rw [run_step_of_ok hflat, run_step_of_ok hset, run_step_of_ok hlift]
  exact run_step_of_ok hmade

/-- The mapping of lines is filled with what they say; equal keys are put together. -/
theorem fill_lines (hd : c.document = Line.document lines)
    (hnew : ∀ i, 1 ≤ i → c.data.getD i none = none) :
    ∃ data, (fill 0).run c = .ok ((), { c with
      data := data
      collections := c.collections.setIfInBounds 0 (.dict (uniteEntries (lines.map Line.entry))) }) := by
  obtain ⟨data, hmapping⟩ := mapping_lines hd hnew
  have hget : (get : Constructing Construction).run c = .ok (c, c) := rfl
  have hshape : (shapeOfTag? (c.document.tag 0)).getD .list = .dict := by
    rw [hd]
    rfl
  refine ⟨data, ?_⟩
  unfold fill
  rw [run_step_of_ok hget]
  simp only [hshape, contents, bind_assoc]
  rw [run_step_of_ok hmapping]
  rfl

end Construction

/-- The data of lines: a mapping of what they say. -/
def Line.data (lines : List Line) : Data where
  root := .collection 0
  collections := (Array.replicate (Line.document lines).nodes.size default).setIfInBounds 0
    (.dict (uniteEntries (lines.map Line.entry)))

namespace Construction

theorem fillDue_of_nil {c : Construction} (h : c.due = []) (levels : Nat) :
    (fillDue levels).run c = .ok ((), c) := by
  have hget : (get : Constructing Construction).run c = .ok (c, c) := rfl
  cases levels with
  | zero => rfl
  | succ levels =>
    unfold fillDue
    rw [run_step_of_ok hget, if_pos (by rw [h]; rfl)]
    rfl

/-- One collection that is due is filled, if that makes no other one due. -/
theorem fillDue_of_fill {c c' : Construction} {id : Nat} (hdue : c.due = [id])
    (hfill : (fill id).run { c with due := [] } = .ok ((), c')) (hdone : c'.due = []) (levels : Nat) :
    (fillDue (levels + 1)).run c = .ok ((), c') := by
  have hget : (get : Constructing Construction).run c = .ok (c, c) := rfl
  have hmodify : (modify fun c => { c with due := [] } : Constructing PUnit).run c =
      .ok (⟨⟩, { c with due := [] }) := rfl
  have hall : (([id] : List Nat).forM fill).run { c with due := [] } = .ok ((), c') := run_step_of_ok hfill
  unfold fillDue
  rw [run_step_of_ok hget]
  simp only [hdue, List.reverse_singleton, List.isEmpty_cons, Bool.false_eq_true, if_false]
  rw [run_step_of_ok hmodify, run_step_of_ok hall]
  exact fillDue_of_nil hdone levels

/-- The mapping of lines is the first thing to be met, and the only thing. -/
theorem exists_datum_root (lines : List Line) :
    ∃ c, (datum (Line.document lines).root).run (.start (Line.document lines)) =
        .ok (.collection 0, c) ∧
      c.document = Line.document lines ∧ c.due = [0] ∧
      c.collections = Array.replicate (Line.document lines).nodes.size default ∧
      ∀ i, 1 ≤ i → c.data.getD i none = none := by
  let c := Construction.start (Line.document lines)
  have hget : (get : Constructing Construction).run c = .ok (c, c) := rfl
  have hnew : c.data.getD (Line.document lines).root none = none := rfl
  refine ⟨{ c with data := c.data.setIfInBounds 0 (some (.collection 0)), due := [0] }, ?_, rfl, rfl,
    rfl, fun i hi => ?_⟩
  · unfold datum
    rw [run_step_of_ok hget]
    simp only [hnew]
    rfl
  · rw [Array.getD_eq_getD_getElem?, Array.getElem?_setIfInBounds_ne (Nat.ne_of_lt hi)]
    show ((Array.replicate _ none)[i]?).getD none = none
    rw [Array.getElem?_replicate]
    split <;> rfl

end Construction

theorem ofDocument_lines (lines : List Line) :
    Data.ofDocument (Line.document lines) = .ok (Line.data lines) := by
  obtain ⟨c, hroot, hd, hdue, hcollections, hnew⟩ := Construction.exists_datum_root lines
  obtain ⟨data, hfill⟩ := Construction.fill_lines (c := { c with due := [] }) hd hnew
  have hall := Construction.fillDue_of_fill hdue hfill rfl (Line.document lines).nodes.size
  have hmake : (do
      let root ← Construction.datum (Line.document lines).root
      Construction.fillDue ((Line.document lines).nodes.size + 1)
      return root : Constructing Datum).run (.start (Line.document lines)) =
        .ok (.collection 0, { c with
          data, due := [], collections := (Line.data lines).collections }) := by
    rw [run_step_of_ok hroot, run_step_of_ok hall, Line.data, ← hcollections]
    rfl
  unfold Data.ofDocument
  simp only [hmake]
  rfl

theorem Line.printable_text (s : Line) (more : List Line) :
    ∀ c ∈ s.text more, isPrintable c = true := by
  have hchars (s : Line) : ∀ c ∈ s.chars, isPrintable c = true := by
    rw [chars, List.forall_mem_append, List.forall_mem_cons, List.forall_mem_cons]
    exact ⟨s.isKey.printable, rfl, rfl, s.isValue.printable⟩
  induction more generalizing s with
  | nil => exact hchars s
  | cons next more ih =>
    rw [text, List.forall_mem_append, List.forall_mem_cons]
    exact ⟨hchars s, rfl, ih next⟩

theorem Line.get_data (lines : List Line) :
    (data lines).get 0 = .dict (uniteEntries (lines.map entry)) := by
  rw [Data.get, data, Array.getD_eq_getD_getElem?, Array.getElem?_setIfInBounds_self_of_lt]
  · rfl
  · rw [Array.size_replicate]
    exact Nat.zero_lt_succ _

/-- A text of lines is read as what they say. Of equal keys the first gives the key and the last the value. -/
theorem load_lines (s : Line) (more : List Line) :
    load (String.ofList (s.text more)) = .ok (some (Line.data (s :: more))) := by
  have hprintable : (s.text more).find? (fun c => !isPrintable c) = none := by
    refine List.find?_eq_none.mpr fun c hc => ?_
    rw [s.printable_text more c hc]
    decide
  unfold load
  rw [String.toList_ofList, hprintable, tokens_lines]
  simp only [ofTokens_lines, bind, Except.bind, ofDocument_lines]
  rfl

end Yaml

/-! ## Integers in base sixteen -/

namespace Number

/-- The digits in base sixteen. -/
def sixteenDigits : List Char :=
  ['0', '1', '2', '3', '4', '5', '6', '7', '8', '9', 'a', 'b', 'c', 'd', 'e', 'f', 'A', 'B', 'C', 'D', 'E', 'F']

theorem forall_sixteenDigits {p : Char → Prop} [DecidablePred p]
    (h : sixteenDigits.all (fun c => p c) = true) : ∀ c ∈ sixteenDigits, p c := fun c hc =>
  of_decide_eq_true (List.all_eq_true.mp h c hc)

section Sixteen

variable {cs : List Char} (hcs : ∀ c ∈ cs, c ∈ sixteenDigits)

include hcs

theorem isSpaced_sixteen (hne : cs ≠ []) : isSpaced cs = true := by
  have hlow : ∀ c ∈ sixteenDigits, c ≠ '_' := forall_sixteenDigits (by decide)
  induction cs with
  | nil => exact absurd rfl hne
  | cons c rest ih =>
    obtain ⟨hc, hrest⟩ := List.forall_mem_cons.mp hcs
    cases rest with
    | nil => simp [isSpaced, hlow c hc]
    | cons c' more =>
      have hc' : c' ≠ '_' := hlow c' (hrest c' List.mem_cons_self)
      have hmore := ih hrest (List.cons_ne_nil c' more)
      simp [isSpaced, hlow c hc, hc', hmore]

/-- Digits in base sixteen are read as the number that they stand for. -/
theorem readInt_sixteen (hne : cs ≠ []) :
    readInt 16 cs = .ok (valueIn 16 (cs.filterMap (digitIn? 16)) : Nat) := by
  have hdigit : ∀ c ∈ sixteenDigits, asciiForm c = c ∧ isAsciiSpace c = false ∧ c ≠ '-' ∧ c ≠ '+' ∧
      c.toLower ≠ 'x' ∧ (c = '_' || (digitIn? 16 c).isSome) = true :=
    forall_sixteenDigits (by decide +kernel)
  have hform : cs.map asciiForm = cs := by
    rw [List.map_congr_left fun c hc => (hdigit c (hcs c hc)).1, List.map_id']
  have hpart : ∀ c ∈ cs, (c = '_' || (digitIn? 16 c).isSome) = true := fun c hc =>
    (hdigit c (hcs c hc)).2.2.2.2.2
  have htake := List.takeWhile_eq_self_iff.mpr hpart
  have hdrop := List.dropWhile_eq_nil_iff.mpr hpart
  have hspaced := isSpaced_sixteen hcs hne
  have hmark : dropMark 16 cs = cs := by
    have hx : ∀ c ∈ cs, baseMark? 16 ≠ some c.toLower := fun c hc h =>
      (hdigit c (hcs c hc)).2.2.2.2.1 (Option.some.inj h).symm
    unfold dropMark
    split
    · rw [if_neg (hx _ (List.mem_cons_of_mem _ List.mem_cons_self))]
    · rw [if_neg (hx _ (List.mem_cons_of_mem _ List.mem_cons_self))]
    · rfl
  obtain ⟨c, rest, rfl⟩ := List.exists_cons_of_ne_nil hne
  obtain ⟨-, hspace, hminus, hplus, -⟩ := hdigit c (hcs c List.mem_cons_self)
  have hblanks : (c :: rest).dropWhile isAsciiSpace = c :: rest := List.dropWhile_cons_of_neg (by simp [hspace])
  have hsign : cutSign (c :: rest) = (false, c :: rest) := by simp [cutSign, hminus, hplus]
  unfold readInt readNumeral
  simp only [hform, hblanks, hsign, hmark, htake, hdrop, hspaced]
  rfl

end Sixteen

theorem valueIn_append_zeros (base : Nat) (ds : List Nat) (n : Nat) :
    valueIn base (ds ++ List.replicate n 0) = valueIn base ds * Nat.pow base n := by
  induction n with
  | zero =>
    rw [List.replicate_zero, List.append_nil]
    exact (Nat.mul_one _).symm
  | succ n ih =>
    rw [List.replicate_succ', ← List.append_assoc, valueIn, List.foldl_append, ← valueIn, ih,
      List.foldl_cons, List.foldl_nil, Nat.add_zero, Nat.mul_left_comm, Nat.mul_comm base]
    rfl

end Number

namespace Yaml

section Sixteen

variable {cs : List Char} (hcs : ∀ c ∈ cs, c ∈ Number.sixteenDigits)

include hcs

theorem withoutLastBreak_sixteen : withoutLastBreak ('0' :: 'x' :: cs) = '0' :: 'x' :: cs := by
  refine if_neg fun h => ?_
  have hmem := List.mem_of_getLast? h
  simp only [List.mem_cons] at hmem
  rcases hmem with h | h | h
  · cases h
  · cases h
  · exact absurd (hcs _ h) (by decide)

theorem isFloatForm_sixteen : isFloatForm ('0' :: 'x' :: cs) = false := by
  have hpoint : ∀ c ∈ Number.sixteenDigits, decide (c ≠ '.') = true :=
    Number.forall_sixteenDigits (by decide)
  have hplain : ∀ c ∈ '0' :: 'x' :: cs, decide (c ≠ '.') = true := by
    rw [List.forall_mem_cons, List.forall_mem_cons]
    exact ⟨rfl, rfl, fun c hc => hpoint c (hcs c hc)⟩
  have hsign : Number.cutSign ('0' :: 'x' :: cs) = (false, '0' :: 'x' :: cs) := rfl
  have hspan : ('0' :: 'x' :: cs).span (fun c => c ≠ '.') = ('0' :: 'x' :: cs, []) := by
    rw [List.span_eq_takeWhile_dropWhile, List.takeWhile_eq_self_iff.mpr hplain,
      List.dropWhile_eq_nil_iff.mpr hplain]
  unfold isFloatForm
  simp only [hsign, hspan]
  rfl

theorem withoutLows_sixteen : Scalar.withoutLows (Point.ofText (String.ofList ('0' :: 'x' :: cs))) =
    .char '0' :: .char 'x' :: cs.map Point.char := by
  have hlow : '_' ∉ '0' :: 'x' :: cs := by
    simp only [List.mem_cons, not_or]
    exact ⟨by decide, by decide, fun h => absurd (hcs _ h) (by decide)⟩
  rw [Point.ofText, String.toList_ofList]
  refine List.filter_eq_self.mpr fun p hp => ?_
  obtain ⟨c, hc, rfl⟩ := List.mem_map.mp hp
  exact decide_eq_true fun h => hlow (Point.char.inj h ▸ hc)

variable (hne : cs ≠ [])

include hne

theorem isIntegerForm_sixteen : isIntegerForm ('0' :: 'x' :: cs) = true := by
  have hdigit : ∀ c ∈ Number.sixteenDigits,
      ((c.isDigit || 'a' ≤ c && c ≤ 'f' || 'A' ≤ c && c ≤ 'F') || c = '_') = true :=
    Number.forall_sixteenDigits (by decide +kernel)
  have hrun : isRun (fun c => (c.isDigit || 'a' ≤ c && c ≤ 'f' || 'A' ≤ c && c ≤ 'F') || c = '_') cs =
      true := by
    rw [isRun, List.isEmpty_eq_false_iff.mpr hne, List.all_eq_true.mpr fun c hc => hdigit c (hcs c hc)]
    rfl
  exact Bool.or_eq_true_iff.mpr (.inl hrun)

/-- Digits in base sixteen behind their mark ask for the tag of integers. -/
theorem plainTag_sixteen : plainTag (String.ofList ('0' :: 'x' :: cs)) = typeTag "int" := by
  have hflag : flagTexts.contains (String.ofList ('0' :: 'x' :: cs)) = false := by
    have hfirst : ∀ s ∈ flagTexts, s.toList.head? ≠ some '0' := by decide +kernel
    rw [List.contains_eq_mem, decide_eq_false_iff_not]
    exact fun h => hfirst _ h (by rw [String.toList_ofList]; rfl)
  have hline : String.ofList ('0' :: 'x' :: cs) ≠ "\n" := by
    intro h
    have hchars := congrArg String.toList h
    rw [String.toList_ofList] at hchars
    cases hchars
  have hsign : Number.cutSign ('0' :: 'x' :: cs) = (false, '0' :: 'x' :: cs) := rfl
  unfold plainTag
  simp only [if_neg hline, String.toList_ofList, withoutLastBreak_sixteen hcs, hflag,
    isFloatForm_sixteen hcs, hsign, isIntegerForm_sixteen hcs hne]
  rfl

theorem integer_sixteen : Scalar.integer (Point.ofText (String.ofList ('0' :: 'x' :: cs))) =
    .ok (Number.valueIn 16 (cs.filterMap (Number.digitIn? 16)) : Nat) := by
  have hchars : Scalar.numberChars (cs.map Point.char) = cs := by
    rw [Scalar.numberChars, List.map_map]
    exact List.map_id cs
  have hread : Scalar.integerIn 16 (cs.map Point.char) =
      .ok (Number.valueIn 16 (cs.filterMap (Number.digitIn? 16)) : Nat) := by
    rw [Scalar.integerIn, hchars, Number.readInt_sixteen hcs hne]
  rw [Scalar.integer, withoutLows_sixteen hcs]
  show (Scalar.integerIn 16 (cs.map Point.char)).bind _ = _
  rw [hread]
  rfl

/-- Digits in base sixteen behind their mark are the integer that they stand for. -/
theorem reads_sixteen : Reads ('0' :: 'x' :: cs)
    (.plain (.int (Number.valueIn 16 (cs.filterMap (Number.digitIn? 16)) : Nat))) where
  isScalar := by
    rw [plainTag_sixteen hcs hne]
    decide
  reads id := by
    rw [plainTag_sixteen hcs hne, Scalar.ofTag?, if_neg (by decide), if_neg (by decide),
      if_neg (by decide), if_pos rfl, integer_sixteen hcs hne]
    rfl

end Sixteen

/-- A one and zeros behind the mark of base sixteen are a power of it. -/
theorem reads_power (zeros : Nat) : Reads ('0' :: 'x' :: '1' :: List.replicate zeros '0')
    (.plain (.int (Nat.pow 16 zeros : Nat))) := by
  have hdigits : ∀ c ∈ '1' :: List.replicate zeros '0', c ∈ Number.sixteenDigits := by
    refine List.forall_mem_cons.mpr ⟨by decide, fun c hc => ?_⟩
    rw [List.eq_of_mem_replicate hc]
    decide
  have hvalues : ('1' :: List.replicate zeros '0').filterMap (Number.digitIn? 16) =
      [1] ++ List.replicate zeros 0 := by
    have hone : Number.digitIn? 16 '1' = some 1 := rfl
    have hzero : Number.digitIn? 16 '0' = some 0 := rfl
    rw [List.filterMap_cons_some hone, List.filterMap_replicate_of_some hzero]
    rfl
  have hreads := reads_sixteen hdigits (List.cons_ne_nil _ _)
  rwa [hvalues, Number.valueIn_append_zeros, Number.valueIn, List.foldl_cons, List.foldl_nil,
    Nat.mul_zero, Nat.zero_add, Nat.one_mul] at hreads

end Yaml

end BuildScript
