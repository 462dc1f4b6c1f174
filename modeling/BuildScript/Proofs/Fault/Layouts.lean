import BuildScript.Fault.Layout
import BuildScript.Proofs.Text.Wrapping
import Mathlib.Data.List.Basic

/-!
Which faults have a layout in lines of a positive width (`Fault.exists_layout_iff`). At the depth `k` of the chain
`2 k` columns are taken up by the indent. A message fails where the indent is wider than the lines and one of its
own lines opens with blanks, and data fails where the indent is exactly as wide as the lines, or where the data
cannot be shown; the error at the end of the chain fails as a message does. With lines that are wider than the last
indent every fault with data that can be shown has a layout (`Fault.exists_layout_of_wide`).
-/

namespace BuildScript

open Text (OpensBlank)

/-! ## Errors that a computation comes to -/

/-- A computation comes to errors of a kind only, and to one if there are any. -/
structure FailsBy {α ε : Type} (x : Except ε α) (Bad : ε → Prop) : Prop where
  sound : ∀ e, x = .error e → Bad e
  complete : ∀ e, Bad e → ∃ e', x = .error e'

namespace FailsBy

variable {α β ε : Type} {x : Except ε α} {Bad Worse : ε → Prop}

theorem ok (a : α) : FailsBy (.ok a : Except ε α) fun _ => False :=
  ⟨nofun, nofun⟩

theorem of_iff (h : ∀ e, x = .error e ↔ Bad e) : FailsBy x Bad :=
  ⟨fun e => (h e).mp, fun e he => ⟨e, (h e).mpr he⟩⟩

theorem congr (h : FailsBy x Bad) (hiff : ∀ e, Bad e ↔ Worse e) : FailsBy x Worse :=
  ⟨fun e he => (hiff e).mp (h.sound e he), fun e he => h.complete e ((hiff e).mpr he)⟩

theorem bind {g : α → Except ε β} (hx : FailsBy x Bad) (hg : ∀ a, x = .ok a → FailsBy (g a) Worse) :
    FailsBy (x >>= g) fun e => Bad e ∨ Worse e := by
  cases h : x with
  | error e =>
    refine ⟨fun e' he => ?_, fun _ _ => ⟨e, rfl⟩⟩
    obtain rfl := Except.error.inj (he : Except.error e = Except.error e')
    exact .inl (hx.sound e h)
  | ok a =>
    refine ⟨fun e he => .inr ((hg a h).sound e he), ?_⟩
    rintro e (hbad | hworse)
    · obtain ⟨e', he'⟩ := hx.complete e hbad
      rw [h] at he'
      cases he'
    · exact (hg a h).complete e hworse

theorem mapM {f : β → Except ε α} {Fails : β → ε → Prop} (h : ∀ b, FailsBy (f b) (Fails b))
    (bs : List β) : FailsBy (bs.mapM f) fun e => ∃ b ∈ bs, Fails b e := by
  induction bs with
  | nil => exact (ok []).congr fun e => by simp
  | cons b bs ih =>
    rw [List.mapM_cons]
    exact ((h b).bind fun a _ => ih.bind fun as _ => ok (a :: as)).congr fun e => by simp

end FailsBy

/-! ## The parts of a block -/

/-- The columns of the indent at a depth. -/
def indentColumns (depth : Nat) : Int := (tabColumns * depth : Nat)

/-- A line of the message opens with blanks, where the indent is wider than the lines. -/
def Stuck (width : Int) (depth : Nat) (message : String) : Prop :=
  width < indentColumns depth ∧ ∃ part ∈ Text.splitLineFeeds message, OpensBlank part.toList

/-- What spoils the block of a fault of the chain. -/
inductive Link.Spoils (width : Int) (depth : Nat) (l : Link) : LayoutError → Prop where
  | unending (h : Stuck width depth l.message) : Link.Spoils width depth l (.wrap .unending)
  | noWidth (hdata : l.data.isSomething = true) (hroom : width = indentColumns depth) :
      Link.Spoils width depth l .noWidth
  | unshowable {o : Obstacle} (hdata : l.data.isSomething = true) (hroom : width ≠ indentColumns depth)
      (ho : l.data.obstacle? = some o) : Link.Spoils width depth l (.unshowable o)

/-- What spoils the block of the error at the end of the chain. -/
inductive OtherError.Spoils (width : Int) (depth : Nat) (e : OtherError) : LayoutError → Prop where
  | unending {text : String} (htext : e.layoutText = .ok text) (h : Stuck width depth text) :
      OtherError.Spoils width depth e (.wrap .unending)
  | unshowable {o : Obstacle} (ho : e.layoutText = .error o) :
      OtherError.Spoils width depth e (.unshowable o)

theorem failsBy_wrap {m : Text.Margins} (hwidth : 0 < m.width) (part : String) :
    FailsBy ((Text.wrap m part).mapError LayoutError.wrap) fun e =>
      e = .wrap .unending ∧ m.width < m.firstIndent.length ∧ OpensBlank part.toList := by
  refine .of_iff fun e => ?_
  have hwrap := Text.wrapChars_eq_error_iff hwidth part.toList
  rw [Text.wrap]
  cases h : Text.wrapChars m part.toList with
  | ok ls =>
    refine iff_of_false nofun fun hall => ?_
    have herror := (hwrap .unending).mpr ⟨rfl, hall.2⟩
    rw [h] at herror
    cases herror
  | error we =>
    obtain ⟨rfl, hstuck⟩ := (hwrap we).mp h
    constructor
    · intro he
      exact ⟨(Except.error.inj he).symm, hstuck⟩
    · rintro ⟨rfl, -⟩
      rfl

theorem failsBy_messageLines {width : Int} (hwidth : 0 < width) (depth : Nat) (hanging : Bool)
    (message : String) :
    FailsBy (messageLines (marginsAt width depth hanging) message) fun e =>
      e = .wrap .unending ∧ Stuck width depth message := by
  have hfirst : ((marginsAt width depth hanging).firstIndent.length : Int) = indentColumns depth := by
    simp [marginsAt, indentColumns]
  have hparts := FailsBy.mapM (failsBy_wrap (m := marginsAt width depth hanging) hwidth)
    (Text.splitLineFeeds message)
  rw [hfirst] at hparts
  refine (hparts.bind fun parts _ => .ok parts.flatten).congr fun e => ?_
  simp only [Stuck, or_false]
  constructor
  · rintro ⟨part, hpart, he, hroom, hblank⟩
    exact ⟨he, hroom, part, hpart, hblank⟩
  · rintro ⟨he, hroom, part, hpart, hblank⟩
    exact ⟨part, hpart, he, hroom, hblank⟩

theorem failsBy_dataLines (width : Int) (depth : Nat) (data : Value) :
    FailsBy (dataLines width depth data) fun e => data.isSomething = true ∧
      (width = indentColumns depth ∧ e = .noWidth ∨
        width ≠ indentColumns depth ∧ ∃ o, data.obstacle? = some o ∧ e = .unshowable o) := by
  refine .of_iff fun e => ?_
  have hroom : width - (tabColumns * depth : Nat) = 0 ↔ width = indentColumns depth := by
    rw [indentColumns]
    omega
  simp only [dataLines]
  cases hdata : data.isSomething with
  | false => simp
  | true =>
    rw [if_neg (by simp)]
    by_cases hwidth : width = indentColumns depth
    · rw [if_pos (hroom.mpr hwidth)]
      simp [hwidth, eq_comm]
    · rw [if_neg (mt hroom.mp hwidth)]
      cases ho : data.obstacle? with
      | none => simp [hwidth]
      | some o => simp [hwidth, eq_comm]

theorem failsBy_block {width : Int} (hwidth : 0 < width) (depth : Nat) (l : Link) :
    FailsBy (l.block width depth) (l.Spoils width depth) := by
  refine ((failsBy_messageLines hwidth depth _ l.message).bind fun message _ =>
    (failsBy_dataLines width depth l.data).bind fun data _ => .ok (message ++ data)).congr fun e => ?_
  constructor
  · rintro (⟨rfl, h⟩ | ⟨hdata, ⟨hroom, rfl⟩ | ⟨hroom, o, ho, rfl⟩⟩ | h)
    · exact .unending h
    · exact .noWidth hdata hroom
    · exact .unshowable hdata hroom ho
    · cases h
  · intro h
    cases h with
    | unending h => exact .inl ⟨rfl, h⟩
    | noWidth hdata hroom => exact .inr (.inl ⟨hdata, .inl ⟨hroom, rfl⟩⟩)
    | unshowable hdata hroom ho => exact .inr (.inl ⟨hdata, .inr ⟨hroom, _, ho, rfl⟩⟩)

/-! ## The chain -/

/-- The block of the error at the end of the chain. -/
theorem failsBy_root {width : Int} (hwidth : 0 < width) (depth : Nat) (root : Option OtherError) :
    FailsBy (chainBlocks width root depth []) fun e => ∃ r, root = some r ∧ r.Spoils width depth e := by
  cases root with
  | none => exact (FailsBy.ok []).congr fun e => by simp
  | some r =>
    have hblock : chainBlocks width (some r) depth [] =
        (r.layoutText.mapError LayoutError.unshowable >>= messageLines (marginsAt width depth false)) := rfl
    rw [hblock]
    cases htext : r.layoutText with
    | error o =>
      refine .of_iff fun e => ?_
      constructor
      · intro he
        obtain rfl := Except.error.inj he
        exact ⟨r, rfl, .unshowable htext⟩
      · rintro ⟨r', hr, h⟩
        obtain rfl := Option.some.inj hr
        cases h with
        | unending hok => rw [htext] at hok; cases hok
        | unshowable ho =>
          rw [htext] at ho
          obtain rfl := Except.error.inj ho
          rfl
    | ok text =>
      refine (failsBy_messageLines hwidth depth false text).congr fun e => ?_
      constructor
      · rintro ⟨rfl, h⟩
        exact ⟨r, rfl, .unending htext h⟩
      · rintro ⟨r', hr, h⟩
        obtain rfl := Option.some.inj hr
        cases h with
        | unending hok h =>
          rw [htext] at hok
          obtain rfl := Except.ok.inj hok
          exact ⟨rfl, h⟩
        | unshowable ho => rw [htext] at ho; cases ho

/-- The blocks of a chain from a depth on, by the places of its faults. -/
theorem failsBy_chainBlocks {width : Int} (hwidth : 0 < width) (root : Option OtherError) (depth : Nat)
    (ls : List Link) :
    FailsBy (chainBlocks width root depth ls) fun e =>
      (∃ (i : Nat) (l : Link), ls[i]? = some l ∧ l.Spoils width (depth + i) e) ∨
        ∃ r, root = some r ∧ r.Spoils width (depth + ls.length) e := by
  induction ls generalizing depth with
  | nil => exact (failsBy_root hwidth depth root).congr fun e => by simp
  | cons l ls ih =>
    refine ((failsBy_block hwidth depth l).bind fun block _ =>
      (ih (depth + 1)).bind fun rest _ => .ok (block ++ rest)).congr fun e => ?_
    have hplace (i : Nat) : depth + 1 + i = depth + (i + 1) := by omega
    simp only [hplace, or_false, List.length_cons]
    constructor
    · rintro (h | ⟨i, l', hl', h⟩ | h)
      · exact .inl ⟨0, l, rfl, h⟩
      · exact .inl ⟨i + 1, l', hl', h⟩
      · exact .inr h
    · rintro (⟨i, l', hl', h⟩ | h)
      · cases i with
        | zero =>
          obtain rfl := Option.some.inj hl'
          exact .inl h
        | succ i => exact .inr (.inl ⟨i, l', hl', h⟩)
      · exact .inr (.inr h)

namespace Fault

/-- What spoils the layout of a fault: what spoils the block of a fault of its chain, or of the error at its end,
which is one level further in than the last of them. -/
inductive Spoils (width : Int) (f : Fault) (e : LayoutError) : Prop where
  | link {depth : Nat} {l : Link} (hl : (f.head :: f.priors)[depth]? = some l)
      (h : l.Spoils width depth e)
  | root {r : OtherError} (hr : f.root = some r) (h : r.Spoils width (f.priors.length + 1) e)

theorem failsBy_layout {width : Int} (hwidth : 0 < width) (f : Fault) :
    FailsBy (f.layout width) (f.Spoils width) := by
  refine ((failsBy_chainBlocks hwidth f.root 0 (f.head :: f.priors)).bind fun ls _ =>
    .ok ("\n".intercalate ls)).congr fun e => ?_
  simp only [Nat.zero_add, or_false, List.length_cons]
  constructor
  · rintro (⟨depth, l, hl, h⟩ | ⟨r, hr, h⟩)
    · exact .link hl h
    · exact .root hr h
  · rintro (⟨hl, h⟩ | ⟨hr, h⟩)
    · exact .inl ⟨_, _, hl, h⟩
    · exact .inr ⟨_, hr, h⟩

/-- A fault has a layout in lines of a positive width exactly if nothing spoils it, and it comes to no errors but
those that do. -/
theorem exists_layout_iff {width : Int} (hwidth : 0 < width) (f : Fault) :
    ((∃ text, f.layout width = .ok text) ↔ ∀ e, ¬f.Spoils width e) ∧
      ∀ e, f.layout width = .error e → f.Spoils width e := by
  have hfails := failsBy_layout hwidth f
  refine ⟨⟨?_, fun hnone => ?_⟩, hfails.sound⟩
  · rintro ⟨text, htext⟩ e he
    obtain ⟨e', he'⟩ := hfails.complete e he
    rw [htext] at he'
    cases he'
  · cases hlayout : f.layout width with
    | error e => exact absurd (hfails.sound e hlayout) (hnone e)
    | ok text => exact ⟨text, rfl⟩

/-- A fault whose cause comes with data. -/
def numberBelow : Fault := { head := .own .config "a" .none, priors := [.own .config "b" (.int 1)] }

theorem exists_layout_numberBelow_iff :
    (0 : Int) < 2 ∧ ((∃ text, numberBelow.layout 2 = .ok text) ↔ ∀ e, ¬numberBelow.Spoils 2 e) ∧
      ∀ e, numberBelow.layout 2 = .error e → numberBelow.Spoils 2 e :=
  ⟨by decide, exists_layout_iff (by decide) numberBelow⟩

/-- In lines of two columns nothing is left for the data of a cause. -/
theorem numberBelow_noWidth : numberBelow.layout 2 = .error .noWidth := by
  decide +kernel

example : ({ numberBelow with priors := [.own .config " b" .none] } : Fault).layout 1 =
    .error (.wrap .unending) := by
  decide +kernel

theorem indentColumns_le {depth last : Nat} (h : depth ≤ last) :
    indentColumns depth ≤ indentColumns last := by
  unfold indentColumns tabColumns
  omega

/-- In lines that are wider than the last indent everything that can be shown has a layout. -/
theorem exists_layout_of_wide {width : Int} {f : Fault}
    (hwide : indentColumns (f.priors.length + 1) < width)
    (hdata : ∀ l ∈ f.head :: f.priors, l.data.obstacle? = none)
    (hroot : ∀ r, f.root = some r → ∃ text, r.layoutText = .ok text) :
    ∃ text, f.layout width = .ok text := by
  have hpos : 0 < width := Int.lt_of_le_of_lt (by unfold indentColumns; omega) hwide
  refine (exists_layout_iff hpos f).1.mpr fun e he => ?_
  cases he with
  | @link depth l hl h =>
    have hdepth : depth < (f.head :: f.priors).length := (List.getElem?_eq_some_iff.mp hl).1
    have hle := indentColumns_le (Nat.le_of_lt hdepth)
    rw [List.length_cons] at hle
    cases h with
    | unending h => have := h.1; omega
    | noWidth _ hroom => omega
    | unshowable _ _ ho =>
      rw [hdata l (List.mem_of_getElem? hl)] at ho
      cases ho
  | root hr h =>
    obtain ⟨text, htext⟩ := hroot _ hr
    cases h with
    | unending _ h => have := h.1; omega
    | unshowable ho =>
      rw [htext] at ho
      cases ho

end Fault

end BuildScript
