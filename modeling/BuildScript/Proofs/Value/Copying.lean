import BuildScript.Value.Copy
import BuildScript.Value.Equal
import BuildScript.Value.Obstacle

/-!
Copies of values against the values. A copy is shown as the value is. A value that is compared by what
it holds, and in which every number is one (`byValue`), equals itself and is its own copy.
-/

namespace BuildScript

/-- Every number equals itself. -/
theorem Number.Binary64.eq_self {x : Number.Binary64} (h : x ≠ .nan) : x.eq x = true := by
  cases x with
  | nan => exact absurd rfl h
  | infinity negative => simp [eq]
  | finite negative m e => simp [eq]

namespace Value

mutual

/-- Whether a value is compared by what it holds, all the way down, and equals itself: there is no
individual in it and no missing number. -/
def byValue : Value → Bool
  | float x => x ≠ .nan
  | list xs => byValueAll xs
  | tuple xs => byValueAll xs
  | dict es => byValueEntries es
  | target .. | property .. | taskBuilder .. | platform .. | host .. => false
  | _ => true

/-- Whether all of some values are compared by what they hold. -/
def byValueAll : List Value → Bool
  | [] => true
  | x :: rest => x.byValue && byValueAll rest

/-- Whether the keys and values of all entries are compared by what they hold. -/
def byValueEntries : List (Value × Value) → Bool
  | [] => true
  | (k, v) :: rest => k.byValue && v.byValue && byValueEntries rest

end

/-! ## Values that are their own copies -/

variable {rename : Nat → Nat}

mutual

theorem copy_eq_self : ∀ {v : Value}, v.byValue = true → v.copy rename = v
  | .none, _ | .bool _, _ | .int _, _ | .float _, _ | .text _, _ | .bytes _, _ | .assembly _, _ => rfl
  | .list _, h => congrArg Value.list (copyAll_eq_self h)
  | .tuple _, h => congrArg Value.tuple (copyAll_eq_self h)
  | .dict _, h => congrArg Value.dict (copyEntries_eq_self h)

theorem copyAll_eq_self : ∀ {xs : List Value}, byValueAll xs = true → copyAll rename xs = xs
  | [], _ => rfl
  | x :: rest, h => by
    rw [byValueAll, Bool.and_eq_true] at h
    rw [copyAll, copy_eq_self h.1, copyAll_eq_self h.2]

theorem copyEntries_eq_self : ∀ {es : List (Value × Value)}, byValueEntries es = true →
    copyEntries rename es = es
  | [], _ => rfl
  | (k, v) :: rest, h => by
    rw [byValueEntries, Bool.and_eq_true, Bool.and_eq_true] at h
    rw [copyEntries, copy_eq_self h.1.1, copy_eq_self h.1.2, copyEntries_eq_self h.2]

end

mutual

theorem eq_self : ∀ {v : Value}, v.byValue = true → v.eq v = true
  | .none, _ => rfl
  | .bool _, _ | .int _, _ | .text _, _ | .bytes _, _ => decide_eq_true rfl
  | .float x, h => Number.Binary64.eq_self (of_decide_eq_true h)
  | .assembly a, _ => by
    show a.same a = true
    simp [Assembly.same]
  | .list xs, h => by
    show eqAll xs xs = true
    exact eqAll_self h
  | .tuple xs, h => by
    show eqAll xs xs = true
    exact eqAll_self h
  | .dict es, h => by
    show (decide (es.length = es.length) && eqEntries es es) = true
    have hentries : eqEntries es es = true := eqEntries_self h fun e he => he
    rw [hentries, decide_eq_true rfl]
    rfl

theorem eqAll_self : ∀ {xs : List Value}, byValueAll xs = true → eqAll xs xs = true
  | [], _ => rfl
  | x :: rest, h => by
    rw [byValueAll, Bool.and_eq_true] at h
    show (x.eq x && eqAll rest rest) = true
    rw [eq_self h.1, eqAll_self h.2]
    rfl

/-- Entries are found among all that there are. -/
theorem eqEntries_self : ∀ {es all : List (Value × Value)}, byValueEntries es = true →
    (∀ e ∈ es, e ∈ all) → eqEntries es all = true
  | [], _, _, _ => rfl
  | (k, v) :: rest, all, h, hall => by
    rw [byValueEntries, Bool.and_eq_true, Bool.and_eq_true] at h
    have hfound : (all.any fun e => k.eq e.1 && v.eq e.2) = true := by
      refine List.any_eq_true.mpr ⟨(k, v), hall _ List.mem_cons_self, ?_⟩
      rw [eq_self h.1.1, eq_self h.1.2]
      rfl
    have hrest : eqEntries rest all = true :=
      eqEntries_self h.2 fun e he => hall e (List.mem_cons_of_mem _ he)
    show ((all.any fun e => k.eq e.1 && v.eq e.2) && eqEntries rest all) = true
    rw [hfound, hrest]
    rfl

end

/-! ## What a copy shows -/

theorem name_copy (v : Value) : (v.copy rename).name = v.name := by
  cases v <;> rfl

theorem isNamed_copy (v : Value) : (v.copy rename).isNamed = v.isNamed := by
  cases v <;> rfl

theorem type_copy (v : Value) : (v.copy rename).type = v.type := by
  cases v <;> rfl

theorem integer?_copy (v : Value) : (v.copy rename).integer? = v.integer? := by
  cases v with
  | host id h =>
    show (host (rename id) h).integer? = (host id h).integer?
    cases hnature : h.nature <;> simp [integer?, bare, hnature]
  | _ => rfl

mutual

/-- A copy is shown as the value is. -/
theorem shown_copy : ∀ v : Value, (v.copy rename).shown = v.shown
  | .none | .bool _ | .int _ | .float _ | .text _ | .bytes _ | .assembly _ | .target ..
  | .platform .. | .host .. => rfl
  | .list xs =>
    congrArg (fun texts => "[" ++ ", ".intercalate texts ++ "]") (shownAll_copyAll xs)
  | .tuple xs => congrArg inParentheses (shownAll_copyAll xs)
  | .dict es => congrArg inBraces (shownEntries_copyEntries es)
  | .property _ n v ro dyn =>
    congrArg (fun text => "<Property " ++ n ++ "=" ++ text ++ " ro=" ++ flagText ro ++ " dyn=" ++
      flagText dyn ++ ">") (shown_copy v)
  | .taskBuilder _ n a _ =>
    congrArg (fun name => "<TaskBuilder " ++ n ++ " from " ++ name ++ ">") (name_copy a)

theorem shownAll_copyAll : ∀ xs : List Value, shownAll (copyAll rename xs) = shownAll xs
  | [] => rfl
  | x :: rest => by rw [copyAll, shownAll, shownAll, shown_copy x, shownAll_copyAll rest]

theorem shownEntries_copyEntries : ∀ es : List (Value × Value),
    shownEntries (copyEntries rename es) = shownEntries es
  | [] => rfl
  | (k, v) :: rest => by
    rw [copyEntries, shownEntries, shownEntries, shown_copy k, shown_copy v,
      shownEntries_copyEntries rest]

end

theorem plain_copy (v : Value) : (v.copy rename).plain = v.plain := by
  cases v with
  | text s | host id h => rfl
  | _ => exact shown_copy _

mutual

/-- What stands against showing a value stands against showing its copy. -/
theorem obstacle?_copy : ∀ v : Value, (v.copy rename).obstacle? = v.obstacle?
  | .none | .bool _ | .int _ | .float _ | .text _ | .bytes _ | .assembly _ | .target ..
  | .platform .. | .host .. => rfl
  | .list xs => by rw [copy, obstacle?, obstacle?, obstacleAll?_copyAll xs]
  | .tuple xs => by rw [copy, obstacle?, obstacle?, obstacleAll?_copyAll xs]
  | .dict es => by rw [copy, obstacle?, obstacle?, obstacleEntries?_copyEntries es]
  | .property _ _ v _ _ => by rw [copy, obstacle?, obstacle?, obstacle?_copy v]
  | .taskBuilder _ _ a _ => by rw [copy, obstacle?, obstacle?, isNamed_copy, type_copy]

theorem obstacleAll?_copyAll : ∀ xs : List Value, obstacleAll? (copyAll rename xs) = obstacleAll? xs
  | [] => rfl
  | x :: rest => by
    rw [copyAll, obstacleAll?, obstacleAll?, obstacle?_copy x, obstacleAll?_copyAll rest]

theorem obstacleEntries?_copyEntries : ∀ es : List (Value × Value),
    obstacleEntries? (copyEntries rename es) = obstacleEntries? es
  | [] => rfl
  | (k, v) :: rest => by
    rw [copyEntries, obstacleEntries?, obstacleEntries?, obstacle?_copy k, obstacle?_copy v,
      obstacleEntries?_copyEntries rest]

end

theorem copyAll_eq_map (xs : List Value) : copyAll rename xs = xs.map (·.copy rename) := by
  induction xs with
  | nil => rfl
  | cons x rest ih => rw [copyAll, List.map_cons, ih]

end Value

end BuildScript
