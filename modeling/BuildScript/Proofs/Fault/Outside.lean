import BuildScript.Fault.Recipe
import BuildScript.Proofs.Fault.Equality
import BuildScript.Proofs.Value.Copying

/-!
Errors from outside, made again. A class may take files or a count out of its arguments, and the number
may decide that it is another class; what an error is called with the second time is read off the error,
and it makes the same error. Main statement: `make_arguments_copy`.
-/

namespace BuildScript.OtherError

/-- A class from outside makes the error of some arguments. -/
def Made (e : OtherError) : Prop :=
  ∃ className args, className ∉ ownNames ∧ make className args = .ok e

variable {cls : String} {number text : Value} {more : List Value} {e : OtherError}

/-! ## Classes of errors of the system -/

theorem classOfNumber_of_ne (h : cls ≠ systemError) (number : Value) : classOfNumber cls number = cls :=
  if_neg h

/-- The class that a number decides is decided by the number again. -/
theorem classOfNumber_idem (cls : String) (number : Value) :
    classOfNumber (classOfNumber cls number) number = classOfNumber cls number := by
  by_cases hclass : classOfNumber cls number = systemError
  · by_cases hname : cls = systemError
    · rw [hname] at hclass ⊢
      rw [hclass]
      exact hclass
    · rw [classOfNumber_of_ne hname, classOfNumber_of_ne hname]
  · exact classOfNumber_of_ne hclass number

theorem classOfNumber_copy (rename : Nat → Nat) (cls : String) (number : Value) :
    classOfNumber cls (number.copy rename) = classOfNumber cls number := by
  unfold classOfNumber
  rw [Value.integer?_copy]

theorem classOfCode_mem (code : Int) : classOfCode code ∈ systemClasses := by
  unfold classOfCode
  split <;> decide

theorem classOfNumber_mem (h : cls ∈ systemClasses) (number : Value) :
    classOfNumber cls number ∈ systemClasses := by
  unfold classOfNumber
  split
  · cases number.integer? with
    | none => exact h
    | some code => exact classOfCode_mem code
  · exact h

theorem foreign_of_mem (h : e.className ∈ systemClasses) : e.Foreign := by
  have hall : ∀ c ∈ systemClasses, c ∉ ownNames := by decide
  exact hall e.className h

/-! ## Counts -/

/-- What comes of counting what was written before a wait, if there is a value that could count it. -/
def counting (cls : String) (more : List Value) (e : OtherError) :
    Option (Except OtherError OtherError) :=
  if cls = waitError then more.head?.bind (counted e) else none

/-- A value may be no count, one that fits, or one that does not. -/
theorem counted_cases (count : Value) :
    (∀ e, counted e count = none) ∨ (∀ e, counted e count = some (.ok e)) ∨
      ∃ x, ∀ e, counted e count = some (.error x) := by
  unfold counted Value.integer?
  cases count.bare with
  | float x => exact .inr (.inr ⟨_, fun e => rfl⟩)
  | int i =>
    by_cases hfits : -(Nat.pow 2 63 : Int) ≤ i ∧ i < Nat.pow 2 63
    · exact .inr (.inl fun e => congrArg some (if_pos hfits))
    · exact .inr (.inr ⟨_, fun e => congrArg some (if_neg hfits)⟩)
  | bool b => exact .inr (.inl fun e => by cases b <;> rfl)
  | _ => exact .inl fun e => rfl

theorem counting_cases (cls : String) (more : List Value) :
    (∀ e, counting cls more e = none) ∨ (∀ e, counting cls more e = some (.ok e)) ∨
      ∃ x, ∀ e, counting cls more e = some (.error x) := by
  unfold counting
  by_cases hwait : cls = waitError
  · simp only [if_pos hwait]
    cases more with
    | nil => exact .inl fun e => rfl
    | cons count rest => exact counted_cases count
  · simp only [if_neg hwait]
    exact .inl fun e => trivial

theorem counting_copy (rename : Nat → Nat) (cls : String) (more : List Value) (e : OtherError) :
    counting cls (Value.copyAll rename more) e = counting cls more e := by
  have hcount : ∀ count : Value, counted e (count.copy rename) = counted e count := by
    intro count
    cases count with
    | host id h =>
      cases hnature : h.nature <;>
        simp only [counted, Value.integer?, Value.copy, Value.bare, hnature, Value.type]
    | _ => rfl
  unfold counting
  cases more with
  | nil => rfl
  | cons count rest =>
    rw [Value.copyAll, List.head?_cons, List.head?_cons, Option.bind_some, Option.bind_some, hcount]

/-! ## Files -/

/-- An error of the system with its files apart, if it is about any. -/
def filed (cls : String) (number text : Value) (more : List Value) : OtherError :=
  match filesOf more with
  | [] => { className := cls, args := number :: text :: more }
  | files => { className := cls, args := [number, text], files }

/-- What stands behind the number and the text when the error is made again. -/
def refiled (more : List Value) : List Value :=
  match filesOf more with
  | [] => more
  | [file] => [file]
  | file :: other :: _ => [file, .none, other]

theorem arguments_filed (cls : String) (number text : Value) (more : List Value) :
    (filed cls number text more).arguments = number :: text :: refiled more := by
  unfold filed refiled arguments
  match filesOf more with
  | [] => rfl
  | [file] => rfl
  | file :: other :: _ => rfl

theorem className_filed : (filed cls number text more).className = cls := by
  unfold filed
  split <;> rfl

theorem head?_refiled (more : List Value) : (refiled more).head? = more.head? := by
  unfold refiled
  fun_cases filesOf more <;> rfl

theorem length_refiled (h : more.length ≤ 3) : (refiled more).length ≤ 3 := by
  unfold refiled
  split
  · exact h
  · simp
  · simp

theorem filesOf_refiled (more : List Value) : filesOf (refiled more) = filesOf more := by
  unfold refiled
  fun_cases filesOf more with
  | case1 => rfl
  | case2 => rfl
  | case3 file x h => simp [filesOf]
  | case4 file x other h h' => simp [filesOf]
  | case5 file rest h h' h'' => simp [filesOf]

theorem filed_refiled (cls : String) (number text : Value) (more : List Value) :
    filed cls number text (refiled more) = filed cls number text more := by
  unfold filed
  rw [filesOf_refiled]
  unfold refiled
  cases filesOf more <;> rfl

theorem filesOf_copyAll (rename : Nat → Nat) : ∀ more : List Value,
    filesOf (Value.copyAll rename more) = Value.copyAll rename (filesOf more)
  | [] => rfl
  | [x] => by cases x <;> rfl
  | [x, _] => by cases x <;> rfl
  | [x, _, z] => by cases x <;> cases z <;> rfl
  | x :: _ :: z :: _ :: _ => by cases x <;> cases z <;> rfl

theorem filed_copy (rename : Nat → Nat) (cls : String) (number text : Value) (more : List Value) :
    filed cls (number.copy rename) (text.copy rename) (Value.copyAll rename more) =
      (filed cls number text more).copy rename := by
  unfold filed
  rw [filesOf_copyAll]
  cases filesOf more <;> rfl

/-! ## The same error again -/

/-- What a class of errors of the system makes of a number, a text and more. -/
def makeNumbered (cls : String) (number text : Value) (more : List Value) :
    Except OtherError OtherError :=
  (counting cls more { className := cls, args := number :: text :: more }).getD
    (.ok (filed cls number text more))

theorem make_numbered (h : isNumbered cls (more.length + 2) = true) :
    make cls (number :: text :: more) = makeNumbered (classOfNumber cls number) number text more := by
  have hlength : (number :: text :: more).length = more.length + 2 := rfl
  unfold make makeNumbered counting filed
  rw [hlength, h]
  cases more with
  | nil =>
    dsimp only
    rw [List.head?_nil, Option.bind_none, ite_self]
    rfl
  | cons count rest =>
    dsimp only
    split <;> rfl

theorem make_plain {args : List Value} (h : isNumbered cls args.length = false) :
    make cls args = .ok { className := cls, args } := by
  unfold make
  rw [h]

theorem isNumbered_iff (cls : String) (count : Nat) :
    isNumbered cls count = true ↔ cls ∈ systemClasses ∧ 2 ≤ count ∧ count ≤ 5 := by
  simp [isNumbered, and_assoc]

/-- What an error of the system is called with the second time makes the error again. -/
theorem makeNumbered_again (h : makeNumbered cls number text more = .ok e) :
    e.className = cls ∧ ∃ more', e.arguments = number :: text :: more' ∧
      (more.length ≤ 3 → more'.length ≤ 3) ∧ makeNumbered cls number text more' = .ok e := by
  unfold makeNumbered at h
  rcases counting_cases cls more with hnone | hok | ⟨x, herror⟩
  · rw [hnone, Option.getD_none] at h
    obtain rfl : filed cls number text more = e := Except.ok.inj h
    refine ⟨className_filed, refiled more, arguments_filed cls number text more, length_refiled, ?_⟩
    have hcounting : counting cls (refiled more)
        { className := cls, args := number :: text :: refiled more } = none := by
      unfold counting
      rw [head?_refiled]
      exact hnone _
    rw [makeNumbered, hcounting, filed_refiled]
    rfl
  · rw [hok, Option.getD_some] at h
    obtain rfl := Except.ok.inj h
    refine ⟨rfl, more, rfl, id, ?_⟩
    rw [makeNumbered, hok]
    rfl
  · rw [herror] at h
    cases h

theorem makeNumbered_copy (rename : Nat → Nat) (h : makeNumbered cls number text more = .ok e) :
    makeNumbered cls (number.copy rename) (text.copy rename) (Value.copyAll rename more) =
      .ok (e.copy rename) := by
  unfold makeNumbered at h ⊢
  rw [counting_copy, filed_copy]
  rcases counting_cases cls more with hnone | hok | ⟨x, herror⟩
  · rw [hnone, Option.getD_none] at h ⊢
    obtain rfl : filed cls number text more = e := Except.ok.inj h
    rfl
  · rw [hok, Option.getD_some] at h ⊢
    obtain rfl := Except.ok.inj h
    rfl
  · rw [herror] at h
    cases h

/-- A class makes an error of its arguments as they are, or it is one of the system. -/
theorem made_cases (h : e.Made) :
    (∃ cls args, cls ∉ ownNames ∧ isNumbered cls args.length = false ∧
        e = { className := cls, args }) ∨
      ∃ cls number text more, cls ∈ systemClasses ∧ more.length ≤ 3 ∧
        makeNumbered (classOfNumber cls number) number text more = .ok e := by
  obtain ⟨cls, args, hname, hmake⟩ := h
  cases hnumbered : isNumbered cls args.length with
  | false =>
    rw [make_plain hnumbered] at hmake
    exact .inl ⟨cls, args, hname, hnumbered, (Except.ok.inj hmake).symm⟩
  | true =>
    obtain ⟨hclass, htwo, hfive⟩ := (isNumbered_iff _ _).mp hnumbered
    match args, hmake, hnumbered, htwo, hfive with
    | number :: text :: more, hmake, hnumbered, _, hfive =>
      rw [make_numbered hnumbered] at hmake
      have hlength : more.length + 2 ≤ 5 := hfive
      exact .inr ⟨cls, number, text, more, hclass, by omega, hmake⟩

theorem foreign_of_made (h : e.Made) : e.Foreign := by
  rcases made_cases h with ⟨cls, args, hname, -, rfl⟩ | ⟨cls, number, text, more, hclass, -, hmake⟩
  · exact hname
  · refine foreign_of_mem ?_
    rw [(makeNumbered_again hmake).1]
    exact classOfNumber_mem hclass number

/-- Called with copies of what it is called with the second time, the class of an error makes the copy
of the error. -/
theorem make_arguments_copy (rename : Nat → Nat) (h : e.Made) :
    make e.className (Value.copyAll rename e.arguments) = .ok (e.copy rename) := by
  rcases made_cases h with
    ⟨cls, args, -, hplain, rfl⟩ | ⟨cls, number, text, more, hclass, hlength, hmake⟩
  · have hplain' : isNumbered cls (Value.copyAll rename args).length = false := by
      rw [Value.copyAll_eq_map, List.length_map]
      exact hplain
    exact make_plain hplain'
  · obtain ⟨hname, more', hargs, hshort, hagain⟩ := makeNumbered_again hmake
    have hnumbered : isNumbered (classOfNumber cls number)
        ((Value.copyAll rename more').length + 2) = true := by
      rw [isNumbered_iff, Value.copyAll_eq_map, List.length_map]
      have hlength' := hshort hlength
      exact ⟨classOfNumber_mem hclass number, by omega, by omega⟩
    rw [hname, hargs, Value.copyAll, Value.copyAll, make_numbered hnumbered, classOfNumber_copy,
      classOfNumber_idem]
    exact makeNumbered_copy rename hagain

end BuildScript.OtherError
