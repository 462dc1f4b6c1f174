import BuildScript.Proofs.Fault.Outside

/-!
Faults and failures, made again. What a fault's recipe makes is its copy, whatever led to it: links with
a message of their own and links that take it from a failure stand in the chain in any order, and at its
end there may be an error from outside. The copy has the fault's text; if all data is compared by what
it holds, it is the fault itself, and equals it. Main statement: `made_again`.
-/

namespace BuildScript

variable {rename : Nat → Nat}

/-! ## Failures -/

namespace CallFailure

theorem build_recipe (rename : Nat → Nat) (f : CallFailure) :
    f.recipe.build rename = some (.failure (f.copy rename)) := by
  simp [recipe, Recipe.build, Recipe.buildAll, Value.copy, Piece.make, Piece.makeFailure, copy]

/-- Whether the arguments of the call are compared by what they hold. -/
def byValue (f : CallFailure) : Bool := Value.byValueAll f.arguments

theorem copy_eq_self {f : CallFailure} (h : f.byValue = true) : f.copy rename = f := by
  unfold copy
  rw [Value.copyAll_eq_self h]

theorem eq_self {f : CallFailure} (h : f.byValue = true) : f.eq f = true := by
  have harguments : Value.eqAll f.arguments f.arguments = true := Value.eqAll_self h
  simp [eq, harguments]

end CallFailure

/-! ## Errors from outside -/

namespace OtherError

/-- Whether all that the error holds is compared by what it holds. -/
def byValue (e : OtherError) : Bool := Value.byValueAll e.args && Value.byValueAll e.files

theorem copy_eq_self {e : OtherError} (h : e.byValue = true) : e.copy rename = e := by
  rw [byValue, Bool.and_eq_true] at h
  unfold copy
  rw [Value.copyAll_eq_self h.1, Value.copyAll_eq_self h.2]

/-- The copy of an error says what the error says. -/
theorem text_copy (e : OtherError) : (e.copy rename).text = e.text := by
  have hfiles : (Value.copyAll rename e.files).map Value.shown = e.files.map Value.shown := by
    rw [← Value.shownAll_eq_map, ← Value.shownAll_eq_map, Value.shownAll_copyAll]
  have hnone : (Value.copyAll rename e.files).isEmpty = e.files.isEmpty := by
    cases e.files <;> rfl
  have hlength : (Value.copyAll rename e.args).length = e.args.length := by
    rw [Value.copyAll_eq_map, List.length_map]
  unfold text copy
  dsimp only
  rw [hfiles, hnone, hlength]
  generalize isNumbered e.className e.args.length = numbered
  cases e.said with
  | some s => rfl
  | none =>
    match e.args with
    | [] => cases numbered <;> rfl
    | [a] =>
      have halone : (if e.className = "KeyError" then (a.copy rename).shown
          else (a.copy rename).plain) =
            if e.className = "KeyError" then a.shown else a.plain := by
        rw [Value.shown_copy, Value.plain_copy]
      cases numbered <;> exact halone
    | number :: text :: more =>
      cases numbered with
      | true =>
        dsimp only [Value.copyAll]
        rw [Value.plain_copy, Value.plain_copy]
      | false => exact Value.shown_copy (.tuple (number :: text :: more))

theorem obstacle?_copy (e : OtherError) : (e.copy rename).obstacle? = e.obstacle? := by
  have hparts : (e.copy rename).parts = Value.copyAll rename e.parts := by
    unfold parts copy
    simp only [Value.copyAll_eq_map, List.length_map]
    split <;> simp
  unfold obstacle?
  rw [hparts, Value.obstacleAll?_copyAll]

/-- The values among the arguments of a recipe are made again as their copies. -/
theorem buildAll_values (vs : List Value) :
    Recipe.buildAll rename (vs.map .value) = some ((Value.copyAll rename vs).map .value) := by
  induction vs with
  | nil => rfl
  | cons v rest ih =>
    rw [List.map_cons, Recipe.buildAll, ih]
    rfl

theorem value?_values (vs : List Value) : (vs.map Piece.value).mapM Piece.value? = some vs := by
  have hpure : vs.mapM (fun v => (pure v : Option Value)) = pure (vs.map fun v => v) :=
    List.mapM_pure
  rw [List.mapM_map]
  exact hpure.trans (congrArg some (List.map_id' vs))

theorem make_of_foreign {className : String} (h : className ∉ ownNames) (pieces : List Piece) :
    Piece.make className pieces = Piece.makeOther className pieces := by
  simp only [ownNames, List.mem_cons, List.mem_map, not_or, not_exists, not_and] at h
  have hnone : FaultClass.ofName? className = none := by
    refine List.find?_eq_none.mpr ?_
    intro c hc
    simpa using h.2.2 c hc
  rw [Piece.make, if_neg h.1, if_neg h.2.1, hnone]

theorem build_recipe (rename : Nat → Nat) {e : OtherError} (h : e.Made) :
    e.recipe.build rename = some (.raised (.other (e.copy rename))) := by
  rw [recipe, Recipe.build, buildAll_values, Option.bind_some, make_of_foreign (foreign_of_made h)]
  unfold Piece.makeOther
  rw [value?_values]
  simp [make_arguments_copy rename h]

end OtherError

/-! ## Links -/

namespace Link

theorem make_own (c : FaultClass) (pieces : List Piece) :
    Piece.make c.name pieces = Piece.makeOwn c pieces := by
  have hfailure : c.name ≠ "CallFailure" := by cases c <;> decide
  have hcall : c.name ≠ "FunctionCallError" := by cases c <;> decide
  rw [Piece.make, if_neg hfailure, if_neg hcall, FaultClass.ofName?_name]

theorem build_recipe (rename : Nat → Nat) (l : Link) {prior : Recipe} {p : Piece}
    {cause : Option Raised} (hprior : prior.build rename = some p) (hcause : p.cause? = some cause) :
    (l.recipe prior).build rename = some (.raised (.fault ((l.copy rename).onto cause))) := by
  have hpieces : ∀ subject : Piece, l.subject.build rename = some subject →
      Recipe.buildAll rename [l.subject, prior, .value l.data] =
        some [subject, p, .value (l.data.copy rename)] := by
    intro subject hsubject
    rw [Recipe.buildAll, Recipe.buildAll, hsubject, hprior]
    rfl
  cases l with
  | own c m d =>
    rw [recipe, Recipe.build, hpieces (.value (.text m)) rfl, Option.bind_some, className, make_own]
    simp [Piece.makeOwn, Piece.faultOf, hcause, Piece.value?, copy, data]
  | call f d =>
    rw [recipe, Recipe.build, hpieces _ (f.build_recipe rename), Option.bind_some]
    simp [Piece.make, className, Piece.makeCall, Piece.faultOf, hcause, Piece.value?, copy, data]

/-- Whether all that the link holds is compared by what it holds. -/
def byValue : Link → Bool
  | own _ _ d => d.byValue
  | call f d => f.byValue && d.byValue

theorem copy_eq_self {l : Link} (h : l.byValue = true) : l.copy rename = l := by
  cases l with
  | own c m d => exact congrArg (own c m) (Value.copy_eq_self h)
  | call f d =>
    rw [byValue, Bool.and_eq_true] at h
    rw [copy, CallFailure.copy_eq_self h.1, Value.copy_eq_self h.2]

theorem message_copy (l : Link) : (l.copy rename).message = l.message := by
  cases l <;> rfl

theorem below_self (l : Link) : l.below l = true := by
  cases l with
  | own c m d => simp [below, FaultClass.below]
  | call f d => rfl

theorem agrees_self {l : Link} (h : l.byValue = true) : l.agrees l = true := by
  cases l with
  | own c m d =>
    have hdata : d.eq d = true := Value.eq_self h
    simp [agrees, message, data, hdata]
  | call f d =>
    rw [byValue, Bool.and_eq_true] at h
    simp [agrees, CallFailure.eq_self h.1, Value.eq_self h.2]

end Link

/-! ## Chains -/

namespace Fault

/-- Whether all that a fault and its chain hold is compared by what it holds. -/
def byValue (f : Fault) : Bool :=
  (f.head :: f.priors).all Link.byValue && f.root.all OtherError.byValue

theorem build_rootRecipe (rename : Nat → Nat) {f : Fault} (h : ∀ e ∈ f.root, e.Made) :
    ∃ p, f.rootRecipe.build rename = some p ∧
      p.cause? = some (f.root.map fun e => .other (e.copy rename)) := by
  unfold rootRecipe
  cases hroot : f.root with
  | none => exact ⟨.value .none, rfl, rfl⟩
  | some e => exact ⟨_, OtherError.build_recipe rename (h e hroot), rfl⟩

/-- The recipe of a chain makes the copy of the chain, from its end. -/
theorem build_chain (rename : Nat → Nat) {f : Fault} (h : ∀ e ∈ f.root, e.Made) (ls : List Link)
    (l : Link) :
    ((l :: ls).foldr Link.recipe f.rootRecipe).build rename =
      some (.raised (.fault
        ⟨l.copy rename, ls.map (·.copy rename), f.root.map (·.copy rename)⟩)) := by
  induction ls generalizing l with
  | nil =>
    obtain ⟨p, hp, hcause⟩ := build_rootRecipe rename h
    rw [List.foldr_cons, List.foldr_nil, l.build_recipe rename hp hcause]
    cases f.root <;> rfl
  | cons l' ls ih =>
    rw [List.foldr_cons, l.build_recipe rename (ih l') rfl]
    rfl

theorem build_recipe (rename : Nat → Nat) {f : Fault} (h : ∀ e ∈ f.root, e.Made) :
    f.recipe.build rename = some (.raised (.fault (f.copy rename))) :=
  build_chain rename h f.priors f.head

theorem text_copy (f : Fault) : (f.copy rename).text = f.text := by
  have hlinks : (f.priors.map (·.copy rename)).map Link.message = f.priors.map Link.message := by
    rw [List.map_map]
    exact List.map_congr_left fun l _ => l.message_copy
  have hroot : (f.root.map (·.copy rename)).map OtherError.text = f.root.map OtherError.text := by
    cases f.root with
    | none => rfl
    | some e => exact congrArg some e.text_copy
  unfold text messages copy
  rw [List.map_cons, List.map_cons, hlinks, hroot, Link.message_copy]

theorem obstacle?_copy (f : Fault) : (f.copy rename).obstacle? = f.obstacle? := by
  unfold obstacle? copy
  cases f.root with
  | none => rfl
  | some e => exact e.obstacle?_copy

theorem copy_eq_self {f : Fault} (h : f.byValue = true) : f.copy rename = f := by
  rw [byValue, List.all_cons, Bool.and_eq_true, Bool.and_eq_true] at h
  obtain ⟨⟨hhead, hpriors⟩, hroot⟩ := h
  have hlinks : f.priors.map (·.copy rename) = f.priors := by
    have hlink : ∀ l ∈ f.priors, l.copy rename = l := fun l hl =>
      Link.copy_eq_self (List.all_eq_true.mp hpriors l hl)
    exact (List.map_congr_left hlink).trans (List.map_id f.priors)
  have hend : f.root.map (·.copy rename) = f.root := by
    cases hr : f.root with
    | none => rfl
    | some e =>
      rw [hr] at hroot
      exact congrArg some (OtherError.copy_eq_self hroot)
  unfold copy
  rw [Link.copy_eq_self hhead, hlinks, hend]

theorem sameCause_self {f : Fault} (h : f.byValue = true) : sameCause f.cause? f.cause? = true := by
  rw [byValue, Bool.and_eq_true] at h
  unfold cause?
  split
  · simp [sameCause, Value.eqAll, Value.eq, Value.eqText, Value.bare]
  · rename_i e hroot
    rw [hroot, Option.all_some, OtherError.byValue, Bool.and_eq_true] at h
    simp [sameCause, Value.eqAll_self h.2.1]
  · rfl

theorem eq_self {f : Fault} (h : f.byValue = true) : f.eq f = true := by
  have hhead : f.head.byValue = true := by
    rw [byValue, List.all_cons, Bool.and_eq_true, Bool.and_eq_true] at h
    exact h.1.1
  rw [eq_iff]
  exact ⟨f.head.below_self, f.head.below_self, Link.agrees_self hhead, sameCause_self h⟩

end Fault

/-- Faults and failures are made again as their copies: with the same classes, messages and failures at
every depth of the chain and with the same text; and if all data is compared by what it holds, what is
made is what there was, and equals it. -/
theorem made_again (rename : Nat → Nat) :
    (∀ f : Fault, (∀ e ∈ f.root, e.Made) →
      f.recipe.build rename = some (.raised (.fault (f.copy rename))) ∧
        (f.copy rename).text = f.text ∧ (f.copy rename).obstacle? = f.obstacle? ∧
        (f.byValue = true → f.copy rename = f ∧ f.eq (f.copy rename) = true)) ∧
    ∀ c : CallFailure, c.recipe.build rename = some (.failure (c.copy rename)) ∧
      (c.byValue = true → c.copy rename = c ∧ c.eq (c.copy rename) = true) := by
  refine ⟨?_, ?_⟩
  · intro f hmade
    refine ⟨Fault.build_recipe rename hmade, f.text_copy, f.obstacle?_copy, ?_⟩
    intro hvalue
    rw [Fault.copy_eq_self hvalue]
    exact ⟨rfl, Fault.eq_self hvalue⟩
  · intro c
    refine ⟨c.build_recipe rename, ?_⟩
    intro hvalue
    rw [CallFailure.copy_eq_self hvalue]
    exact ⟨rfl, CallFailure.eq_self hvalue⟩

/-- A chain of links of both sorts, at whose end there is an error of the system with two files. -/
theorem made_again_mixed :
    let failure : CallFailure := ⟨"target", "exists", .invalidState, "No target.", [.text "x"]⟩
    let e : OtherError :=
      { className := "FileNotFoundError", args := [.int 2, .text "x"], files := [.text "f", .text "g"] }
    let f : Fault :=
      { head := .call failure (.dict [(.text "k", .list [.int 1, .none])])
        priors := [.own .config "Bad key." (.bool true), .call failure .none]
        root := some e }
    OtherError.make "OSError" [.int 2, .text "x", .text "f", .none, .text "g"] = .ok e ∧
      (∀ e ∈ f.root, e.Made) ∧ f.byValue = true ∧ failure.byValue = true ∧
      f.recipe.build (· + 1) = some (.raised (.fault f)) ∧
      failure.recipe.build (· + 1) = some (.failure failure) := by
  intro failure e f
  have hmake : OtherError.make "OSError" [.int 2, .text "x", .text "f", .none, .text "g"] = .ok e := rfl
  have hmade : ∀ x ∈ f.root, x.Made := by
    intro x hx
    obtain rfl : e = x := Option.some.inj hx
    exact ⟨"OSError", _, by decide, hmake⟩
  have hvalue : f.byValue = true := by decide
  have hvalue' : failure.byValue = true := by decide
  obtain ⟨hfaults, hfailures⟩ := made_again (· + 1)
  obtain ⟨hbuild, -, -, hsame⟩ := hfaults f hmade
  obtain ⟨hbuild', hsame'⟩ := hfailures failure
  rw [(hsame hvalue).1] at hbuild
  rw [(hsame' hvalue').1] at hbuild'
  exact ⟨hmake, hmade, hvalue, hvalue', hbuild, hbuild'⟩

end BuildScript
