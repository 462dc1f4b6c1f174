import BuildScript.Value.Obstacle
import Mathlib.Data.Option.Basic
import Mathlib.Tactic.Common

/-!
What has to be shown when a value is shown. A collection and a property show what they hold, so that
one part far down is enough to stand against the whole. Main statement:
`obstacle?_eq_none_iff`, that a value can be shown exactly if no integer of too many digits, no task
builder without the name of its assembly and no instance of the host whose class raises is among its
parts.
-/

namespace BuildScript.Value

/-- The second value is shown when the first one is. -/
inductive Shows : Value → Value → Prop where
  | self (v : Value) : Shows v v
  | item {x part : Value} {xs : List Value} : x ∈ xs → Shows x part → Shows (.list xs) part
  | member {x part : Value} {xs : List Value} : x ∈ xs → Shows x part → Shows (.tuple xs) part
  | key {k v part : Value} {es : List (Value × Value)} :
      (k, v) ∈ es → Shows k part → Shows (.dict es) part
  | entry {k v part : Value} {es : List (Value × Value)} :
      (k, v) ∈ es → Shows v part → Shows (.dict es) part
  | held {id : Nat} {name : String} {v part : Value} {readOnly dynamic : Bool} :
      Shows v part → Shows (.property id name v readOnly dynamic) part

/-- A value that cannot be shown, whatever it holds. -/
inductive Unshowable : Value → Prop where
  | longInteger {i : Int} : Number.writeLimit ≤ i.natAbs → Unshowable (.int i)
  | nameless {id : Nat} {name className : String} {a : Value} :
      a.isNamed = false → Unshowable (.taskBuilder id name a className)
  | raised {id : Nat} {h : Instance} {o : Obstacle} : h.obstacle? = some o → Unshowable (.host id h)

/-- Nothing that is shown with the value stands against it. -/
def Showable (v : Value) : Prop := ∀ part, v.Shows part → ¬ part.Unshowable

/-! ## What the parts of a value come to -/

theorem showable_int_iff (i : Int) : (Value.int i).Showable ↔ ¬ Number.writeLimit ≤ i.natAbs := by
  constructor
  · intro h hlong
    exact h _ (.self _) (.longInteger hlong)
  · intro hshort part hshows hpart
    cases hshows
    cases hpart with
    | longInteger hlong => exact hshort hlong

theorem showable_taskBuilder_iff (id : Nat) (name className : String) (a : Value) :
    (Value.taskBuilder id name a className).Showable ↔ a.isNamed = true := by
  constructor
  · intro h
    by_contra hname
    exact h _ (.self _) (.nameless (Bool.eq_false_iff.mpr hname))
  · intro hname part hshows hpart
    cases hshows
    cases hpart with
    | nameless hnone => exact absurd hname (Bool.eq_false_iff.mp hnone)

theorem showable_list_iff (xs : List Value) : (Value.list xs).Showable ↔ ∀ x ∈ xs, x.Showable := by
  constructor
  · intro h x hx part hshows
    exact h part (.item hx hshows)
  · intro h part hshows hpart
    cases hshows with
    | self => cases hpart
    | item hx hshows => exact h _ hx part hshows hpart

theorem showable_tuple_iff (xs : List Value) :
    (Value.tuple xs).Showable ↔ ∀ x ∈ xs, x.Showable := by
  constructor
  · intro h x hx part hshows
    exact h part (.member hx hshows)
  · intro h part hshows hpart
    cases hshows with
    | self => cases hpart
    | member hx hshows => exact h _ hx part hshows hpart

theorem showable_dict_iff (es : List (Value × Value)) :
    (Value.dict es).Showable ↔ ∀ e ∈ es, e.1.Showable ∧ e.2.Showable := by
  constructor
  · intro h e he
    exact ⟨fun part hshows => h part (.key he hshows), fun part hshows => h part (.entry he hshows)⟩
  · intro h part hshows hpart
    cases hshows with
    | self => cases hpart
    | key he hshows => exact (h _ he).1 part hshows hpart
    | entry he hshows => exact (h _ he).2 part hshows hpart

theorem showable_property_iff (id : Nat) (name : String) (v : Value) (readOnly dynamic : Bool) :
    (Value.property id name v readOnly dynamic).Showable ↔ v.Showable := by
  constructor
  · intro h part hshows
    exact h part (.held hshows)
  · intro h part hshows hpart
    cases hshows with
    | self => cases hpart
    | held hshows => exact h part hshows hpart

theorem showable_host_iff (id : Nat) (h : Instance) :
    (Value.host id h).Showable ↔ h.obstacle? = Option.none := by
  constructor
  · intro hshow
    cases ho : h.obstacle? with
    | none => rfl
    | some o => exact absurd (.raised ho) (hshow _ (.self _))
  · intro hnone part hshows hpart
    cases hshows
    cases hpart with
    | raised ho =>
      rw [hnone] at ho
      cases ho

/-- Any other value shows nothing beside itself. -/
theorem showable_of_plain {v : Value} (hself : ∀ part, v.Shows part → part = v)
    (hv : ¬ v.Unshowable) : v.Showable := by
  intro part hshows
  rw [hself part hshows]
  exact hv

/-! ## Obstacles -/

mutual

/-- Nothing stands against showing a value exactly if nothing among its parts does. -/
theorem obstacle?_eq_none_iff : ∀ v : Value, v.obstacle? = Option.none ↔ v.Showable
  | .none | .bool _ | .float _ | .text _ | .bytes _ | .assembly _ | .target .. | .platform .. =>
    iff_of_true rfl (showable_of_plain (fun _ h => by cases h; rfl) nofun)
  | .int i => by
    rw [obstacle?, showable_int_iff, Number.isTooLong]
    by_cases hlong : Number.writeLimit ≤ i.natAbs <;> simp [hlong]
  | .list xs => by
    rw [obstacle?, showable_list_iff]
    exact obstacleAll?_eq_none_iff_showable xs
  | .tuple xs => by
    rw [obstacle?, showable_tuple_iff]
    exact obstacleAll?_eq_none_iff_showable xs
  | .dict es => by
    rw [obstacle?, showable_dict_iff]
    exact obstacleEntries?_eq_none_iff es
  | .property _ _ v _ _ => by
    rw [obstacle?, showable_property_iff]
    exact obstacle?_eq_none_iff v
  | .taskBuilder _ _ a _ => by
    rw [obstacle?, showable_taskBuilder_iff]
    cases a.isNamed <;> simp
  | .host _ h => by rw [obstacle?, showable_host_iff]

theorem obstacleAll?_eq_none_iff_showable : ∀ xs : List Value,
    obstacleAll? xs = Option.none ↔ ∀ x ∈ xs, x.Showable
  | [] => iff_of_true rfl (by simp)
  | x :: rest => by
    rw [obstacleAll?, Option.orElse_eq_none, obstacle?_eq_none_iff x,
      obstacleAll?_eq_none_iff_showable rest, List.forall_mem_cons]

theorem obstacleEntries?_eq_none_iff : ∀ es : List (Value × Value),
    obstacleEntries? es = Option.none ↔ ∀ e ∈ es, e.1.Showable ∧ e.2.Showable
  | [] => iff_of_true rfl (by simp)
  | (k, v) :: rest => by
    rw [obstacleEntries?, Option.orElse_eq_none, Option.orElse_eq_none, obstacle?_eq_none_iff k,
      obstacle?_eq_none_iff v, obstacleEntries?_eq_none_iff rest, List.forall_mem_cons, and_assoc]

end

end BuildScript.Value
