import BuildScript.Proofs.Fault.Layouts
import BuildScript.Proofs.Text.Visible
import BuildScript.Proofs.Traversal

/-!
What the layout of a fault looks like (`Fault.layout_blocks`). Its lines form blocks, one for each fault of the chain
in the order of the chain and one for the error from outside at the end. All lines of the block at the depth `k` are
indented by `2 k` columns. First come the lines of the message, which show all of it that is to be seen, and then
those of the data if there is any.
-/

namespace BuildScript

open Text (visible)

/-! ## What a block shows -/

/-- The lines of one error: those of its message, and those of its data. -/
structure Block where
  message : List String
  data : List String

/-- The lines of a block. -/
def Block.lines (b : Block) : List String := b.message ++ b.data

/-- The indent at a depth. -/
def indentAt (depth : Nat) : List Char := List.replicate (tabColumns * depth) ' '

/-- A line at a depth: it is indented, and it is one line. -/
structure LineAt (depth : Nat) (l : String) : Prop where
  indented : indentAt depth <+: l.toList
  unbroken : '\n' ∉ l.toList

/-- The block at a depth of an error with a message and data. -/
structure Shows (width : Int) (depth : Nat) (message : String) (data : Value) (b : Block) : Prop where
  lines : ∀ l ∈ b.lines, LineAt depth l
  seen : visible (b.message.flatMap String.toList) = visible message.toList
  laid : b.data =
    if data.isSomething then
      (data.layout (width - indentColumns depth)).map (String.ofList (indentAt depth) ++ ·)
    else []
  present : b.data ≠ [] ↔ data.isSomething = true

/-- The blocks of the faults of a chain from a depth on, and that of the error from outside at its end. -/
inductive Blocks (width : Int) (root : Option OtherError) : Nat → List Link → List Block → Prop where
  | done {depth : Nat} (h : root = none) : Blocks width root depth [] []
  | outside {depth : Nat} {e : OtherError} {text : String} {b : Block} (h : root = some e)
      (htext : e.layoutText = .ok text) (hb : Shows width depth text .none b) :
      Blocks width root depth [] [b]
  | link {depth : Nat} {l : Link} {links : List Link} {b : Block} {bs : List Block}
      (hb : Shows width depth l.message l.data b) (h : Blocks width root (depth + 1) links bs) :
      Blocks width root depth (l :: links) (b :: bs)

/-! ## Messages -/

theorem not_mem_spaces (n : Nat) : '\n' ∉ List.replicate n ' ' := fun h =>
  absurd (List.eq_of_mem_replicate h) (by decide)

theorem lineAt_append {depth : Nat} {cs : List Char} (h : '\n' ∉ cs) :
    LineAt depth (String.ofList (indentAt depth ++ cs)) := by
  constructor
  · rw [String.toList_ofList]
    exact List.prefix_append _ _
  · rw [String.toList_ofList, List.mem_append]
    exact not_or.mpr ⟨not_mem_spaces _, h⟩

theorem blank_marginsAt (width : Int) (depth : Nat) (hanging : Bool) :
    (marginsAt width depth hanging).Blank :=
  ⟨Text.allBlank_replicate_space _, Text.allBlank_replicate_space _⟩

/-- Both indents of a message begin with that of its depth, and hold nothing but spaces. -/
theorem indent_marginsAt (width : Int) (depth : Nat) (hanging behind : Bool) :
    ∃ n, (marginsAt width depth hanging).indent behind = indentAt depth ++ List.replicate n ' ' := by
  have hnone : indentAt depth = indentAt depth ++ List.replicate 0 ' ' := (List.append_nil _).symm
  cases behind with
  | false => exact ⟨0, hnone⟩
  | true =>
    cases hanging with
    | false => exact ⟨0, hnone⟩
    | true => exact ⟨tabColumns, List.replicate_add ..⟩

section Message

variable {width : Int} {depth : Nat} {hanging : Bool}

theorem lineAt_of_wrap {part : String} {ls : List String}
    (h : Text.wrap (marginsAt width depth hanging) part = .ok ls) : ∀ l ∈ ls, LineAt depth l := by
  obtain ⟨wrapped, hwrapped, rfl⟩ := map_eq_ok_iff.mp h
  intro l hl
  obtain ⟨cs, hcs, rfl⟩ := List.mem_map.mp hl
  obtain ⟨behind, piece, rfl, hpiece⟩ := Text.lines_wrapChars hwrapped cs hcs
  obtain ⟨n, hindent⟩ := indent_marginsAt width depth hanging behind
  rw [hindent, List.append_assoc]
  refine lineAt_append fun hbreak => ?_
  rcases List.mem_append.mp hbreak with hbreak | hbreak
  · exact not_mem_spaces n hbreak
  · have hplain := Text.not_isSpace_of_mem_plainSpaces (hpiece hbreak) (by decide)
    exact absurd hplain (by decide)

theorem visible_wrap {m : Text.Margins} (hm : m.Blank) {part : String} {ls : List String}
    (h : Text.wrap m part = .ok ls) : visible (ls.flatMap String.toList) = visible part.toList := by
  obtain ⟨wrapped, hwrapped, rfl⟩ := map_eq_ok_iff.mp h
  rw [List.flatMap_map, ← Text.visible_wrapChars hm hwrapped]
  simp only [String.toList_ofList, List.flatMap_id']

/-- The lines of the message, each wrapped on its own. -/
theorem lines_of_parts {texts : List String} {parts : List (List String)}
    (h : List.Forall₂ (fun text wrapped =>
      (Text.wrap (marginsAt width depth hanging) text).mapError LayoutError.wrap = .ok wrapped)
      texts parts) :
    (∀ l ∈ parts.flatten, LineAt depth l) ∧
      visible (parts.flatten.flatMap String.toList) = visible (texts.flatMap String.toList) := by
  induction h with
  | nil => exact ⟨nofun, rfl⟩
  | @cons text wrapped texts parts hwrap _ ih =>
    have hwrapped := mapError_eq_ok_iff.mp hwrap
    constructor
    · rw [List.flatten_cons]
      exact List.forall_mem_append.mpr ⟨lineAt_of_wrap hwrapped, ih.1⟩
    · rw [List.flatten_cons, List.flatMap_append, List.flatMap_cons, Text.visible_append,
        Text.visible_append, visible_wrap (blank_marginsAt ..) hwrapped, ih.2]

theorem visible_splitLineFeeds (message : String) :
    visible ((Text.splitLineFeeds message).flatMap String.toList) = visible message.toList := by
  rw [Text.splitLineFeeds, List.flatMap_map]
  simp only [String.toList_ofList, List.flatMap_id']
  exact Text.visible_splitAtChar (by decide) _

/-- All lines of a message are at its depth, and what is to be seen of it is on them. -/
theorem lines_of_message {message : String} {ls : List String}
    (h : messageLines (marginsAt width depth hanging) message = .ok ls) :
    (∀ l ∈ ls, LineAt depth l) ∧
      visible (ls.flatMap String.toList) = visible message.toList := by
  obtain ⟨parts, hparts, hls⟩ := bind_eq_ok_iff.mp h
  obtain rfl := Except.ok.inj hls
  have hlines := lines_of_parts ((mapM_eq_ok_iff ..).mp hparts)
  exact ⟨hlines.1, hlines.2.trans (visible_splitLineFeeds message)⟩

end Message

/-! ## Data -/

section Data

variable {width : Int} {depth : Nat} {data : Value}

theorem layout_ne_nil (width : Int) (v : Value) : v.layout width ≠ [] := fun h =>
  Text.splitAtChar_ne_nil _ _ (List.map_eq_nil_iff.mp h)

/-- The lines of data are those of its layout in the room that the indent leaves. -/
theorem dataLines_eq {ls : List String} (h : dataLines width depth data = .ok ls) :
    ls = if data.isSomething then
        (data.layout (width - indentColumns depth)).map (String.ofList (indentAt depth) ++ ·)
      else [] := by
  unfold dataLines at h
  dsimp only at h
  cases hdata : data.isSomething with
  | false =>
    rw [hdata] at h
    exact (Except.ok.inj h).symm
  | true =>
    rw [hdata, if_neg (by decide)] at h
    split at h
    · cases h
    · split at h
      · cases h
      · exact (Except.ok.inj h).symm

theorem lineAt_of_layout {l : String} (h : l ∈ (data.layout width).map (String.ofList (indentAt depth) ++ ·)) :
    LineAt depth l := by
  obtain ⟨laid, hlaid, rfl⟩ := List.mem_map.mp h
  obtain ⟨piece, hpiece, rfl⟩ := List.mem_map.mp hlaid
  rw [← String.ofList_append]
  exact lineAt_append (Text.not_mem_of_mem_splitAtChar hpiece)

end Data

/-! ## The chain -/

section Chain

variable {width : Int} {depth : Nat}

theorem shows_of_lines {message : String} {data : Value} {said given : List String} {hanging : Bool}
    (hsaid : messageLines (marginsAt width depth hanging) message = .ok said)
    (hgiven : dataLines width depth data = .ok given) :
    Shows width depth message data ⟨said, given⟩ := by
  obtain ⟨hlines, hseen⟩ := lines_of_message hsaid
  have hlaid := dataLines_eq hgiven
  refine ⟨List.forall_mem_append.mpr ⟨hlines, fun l hl => ?_⟩, hseen, hlaid, ?_⟩
  · rw [hlaid] at hl
    split at hl
    · exact lineAt_of_layout hl
    · cases hl
  · rw [hlaid]
    cases data.isSomething with
    | false => simp
    | true => simp [layout_ne_nil]

/-- The lines of a chain from a depth on are those of its blocks. -/
theorem exists_blocks {root : Option OtherError} {links : List Link} {ls : List String}
    (h : chainBlocks width root depth links = .ok ls) :
    ∃ bs : List Block, ls = bs.flatMap Block.lines ∧ Blocks width root depth links bs := by
  induction links generalizing depth ls with
  | nil =>
    cases root with
    | none =>
      obtain rfl := Except.ok.inj h
      exact ⟨[], rfl, .done rfl⟩
    | some e =>
      obtain ⟨text, htext, hls⟩ := bind_eq_ok_iff.mp h
      have hshows : Shows width depth text .none ⟨ls, []⟩ := shows_of_lines hls rfl
      refine ⟨[⟨ls, []⟩], ?_, .outside rfl (mapError_eq_ok_iff.mp htext) hshows⟩
      simp [Block.lines]
  | cons l links ih =>
    obtain ⟨block, hblock, hrest⟩ := bind_eq_ok_iff.mp h
    obtain ⟨rest, hchain, hls⟩ := bind_eq_ok_iff.mp hrest
    obtain ⟨said, hsaid, hdata⟩ := bind_eq_ok_iff.mp hblock
    obtain ⟨given, hgiven, happend⟩ := bind_eq_ok_iff.mp hdata
    obtain ⟨bs, rfl, hbs⟩ := ih hchain
    obtain rfl := Except.ok.inj happend
    obtain rfl := Except.ok.inj hls
    exact ⟨⟨said, given⟩ :: bs, rfl, .link (shows_of_lines hsaid hgiven) hbs⟩

end Chain

namespace Fault

/-- A fault has a layout in lines of a positive width exactly if nothing spoils it, and its lines are then those of
the blocks of its chain. -/
theorem layout_blocks {width : Int} (hwidth : 0 < width) (f : Fault) :
    ((∃ text, f.layout width = .ok text) ↔ ∀ e, ¬f.Spoils width e) ∧
      ∀ text, f.layout width = .ok text → ∃ bs : List Block,
        text = "\n".intercalate (bs.flatMap Block.lines) ∧
          Blocks width f.root 0 (f.head :: f.priors) bs := by
  refine ⟨(exists_layout_iff hwidth f).1, fun text htext => ?_⟩
  obtain ⟨ls, hls, hjoin⟩ := bind_eq_ok_iff.mp htext
  obtain ⟨bs, rfl, hbs⟩ := exists_blocks hls
  exact ⟨bs, (Except.ok.inj hjoin).symm, hbs⟩

/-- A chain with data, and with an error from outside at its end. -/
def keyBelow : Fault where
  head := .own .config "Error in config at 'here'." .none
  priors := [.own .config "Bad key 'x'." (.list [.int 1])]
  root := some { className := "KeyError", args := [.text "x"] }

/-- Its three blocks, the second of which has data. -/
theorem layout_blocks_keyBelow :
    let text := "Error in config at 'here'.\n  Bad key 'x'.\n  [1]\n    x"
    (0 : Int) < 80 ∧ keyBelow.layout 80 = .ok text ∧ ∃ bs : List Block,
      text = "\n".intercalate (bs.flatMap Block.lines) ∧
        Blocks 80 keyBelow.root 0 (keyBelow.head :: keyBelow.priors) bs := by
  intro text
  have htext : keyBelow.layout 80 = .ok text := by decide +kernel
  exact ⟨by decide, htext, (layout_blocks (by decide) keyBelow).2 text htext⟩

/-- A fault whose data is a task builder with a text for its assembly. -/
def namelessData : Fault := { head := .own .config "a" (.taskBuilder 0 "t" (.text "x") "") }

/-- A fault with a cause whose message opens with a blank. -/
def blankBelow : Fault := { head := .own .config "a" .none, priors := [.own .config " b" .none] }

/-- The one has no layout in any lines, and the other none in lines of one column. -/
theorem no_layout :
    namelessData.layout 80 = .error (.unshowable (.nameless "str")) ∧
      blankBelow.layout 1 = .error (.wrap .unending) := by
  constructor <;> decide +kernel

end Fault

end BuildScript
