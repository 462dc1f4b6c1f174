import BuildScript.Proofs.Dispatch.Outcome

/-!
A declaration that is accepted can be called. A plugin whose set is held has passed the check of its
declarations, so every entry of its class has a descriptor to which a call of the entry is resolved
(`resolve_of_entry`), and the class has the method that the entry names.

There are two gaps. The check looks the method up in the class, and a call looks it up on a set, where
what the set holds of its own comes first (`BoundSet.Hides`), and where that is missing which only classes
have (`SetClass.classNames`). And the check counts parameters that a call by place does not fill
(`Method.Fits`). Main statement: `runs_of_entry`, that a call of an entry runs the method of the class, once
and with the coerced arguments, exactly if neither is in the way.
-/

namespace BuildScript

/-! ## Names that a set holds of its own -/

/-- A set holds something of its own under the name: its project, its properties, or what it
remembers. -/
def BoundSet.Hides (b : BoundSet) (name : String) : Prop :=
  name = "project" ∨ name = "_properties" ∨ (b.memory.get? name).isSome = true

namespace BoundSet

variable {b : BoundSet} {name : String}

theorem lookup_of_not_hides (h : ¬ b.Hides name) (s : Scene) : b.lookup s name = b.cls.find? name := by
  unfold Hides at h
  rw [not_or, not_or, Option.not_isSome_iff_eq_none] at h
  obtain ⟨hproject, hproperties, hmemory⟩ := h
  unfold lookup
  rw [if_neg hproject, if_neg hproperties, hmemory]

theorem lookup_of_hides (h : b.Hides name) (s : Scene) :
    ∃ typeName, b.lookup s name = some (.uncallable typeName) := by
  unfold lookup
  by_cases hproject : name = "project"
  · rw [if_pos hproject]
    exact ⟨_, rfl⟩
  · by_cases hproperties : name = "_properties"
    · rw [if_neg hproject, if_pos hproperties]
      exact ⟨_, rfl⟩
    · rw [if_neg hproject, if_neg hproperties]
      obtain ⟨v, hv⟩ := Option.isSome_iff_exists.mp ((h.resolve_left hproject).resolve_left hproperties)
      simp only [hv]
      exact ⟨_, rfl⟩

end BoundSet

/-! ## Runs among events -/

/-- A method ran. -/
def Event.isRun : Event → Bool
  | .ran .. => true
  | _ => false

/-- The runs of methods among events. -/
def runsIn (es : List Event) : List Event := es.filter Event.isRun

theorem runsIn_append (es es' : List Event) : runsIn (es ++ es') = runsIn es ++ runsIn es' :=
  List.filter_append ..

section Events

variable (r : Registry) (s : Scene) (bs : Bindings) (c : Call)

theorem runsIn_announced : runsIn c.announced = [] := rfl

theorem runsIn_warning (d : Descriptor) : runsIn d.warning = [] := by
  unfold Descriptor.warning
  split <;> rfl

theorem runsIn_failureEvents (f : Fault) : runsIn (failureEvents c f) = [] := by
  unfold failureEvents
  cases f.prior? <;> rfl

theorem runsIn_bindSet (space : String) : runsIn (bindSet r s bs space).events = [] := by
  unfold bindSet SetClass.bind
  split
  · rfl
  · split
    · rfl
    · rename_i p _
      cases p.cls.construct s <;> rfl

/-- What a call does beside its stages is to write records. -/
theorem runsIn_invoke : runsIn (invoke r s bs c).events = runsIn (perform r s bs c).events := by
  unfold invoke
  dsimp only
  split
  · rw [runsIn_append, runsIn_announced, List.nil_append]
  · rw [runsIn_append, runsIn_announced, List.nil_append]
  · split
    · rw [runsIn_append, runsIn_announced, List.nil_append]
    · rw [runsIn_append, runsIn_append, runsIn_announced, runsIn_failureEvents, List.nil_append,
        List.append_nil]

end Events

/-! ## Calls of declared entries -/

/-- Arguments are as many as the declared types, and each is coerced to its own. -/
inductive CoercedTo : List Value → List Declared → List Value → Prop where
  | nil : CoercedTo [] [] []
  | cons {a v : Value} {t : Declared} {args vs : List Value} {ts : List Declared}
      (h : coerce a t = .ok v) (hs : CoercedTo args ts vs) :
      CoercedTo (a :: args) (t :: ts) (v :: vs)

theorem CoercedTo.coerced {args vs : List Value} {ds : List Declared} {ts : List TypeName}
    (h : CoercedTo args ds vs) (hts : declaredTypes ds = .ok ts) :
    ts.length = args.length ∧ Coerced args ts vs := by
  induction h generalizing ts with
  | nil =>
    cases hts
    exact ⟨rfl, .nil⟩
  | @cons a v t args vs ds h hs ih =>
    cases t with
    | value w => cases hts
    | type t =>
      cases hrest : declaredTypes ds with
      | error w => simp [declaredTypes, hrest, Except.map] at hts
      | ok us =>
        simp only [declaredTypes, hrest, Except.map, Except.ok.injEq] at hts
        subst hts
        obtain ⟨hlen, hcoerced⟩ := ih hrest
        refine ⟨by rw [List.length_cons, List.length_cons, hlen], ?_⟩
        exact .cons h hcoerced

namespace Plugin.Checked

variable {p : Plugin}

/-- Every entry of the class has its descriptor. -/
theorem descriptor_of_entry (h : p.Checked) {e : Entry} (he : e ∈ p.cls.entries) :
    ∃ d ∈ p.descriptors, p.cls.describe p.space e = .ok d := by
  obtain ⟨i, hi, rfl⟩ := List.mem_iff_getElem.mp he
  have hlen := h.described.length_eq
  exact ⟨p.descriptors[i], List.getElem_mem (by omega), h.described.get hi (by omega)⟩

end Plugin.Checked

theorem name_of_name? {v : Value} {function name : String} (hv : v.text? = some function)
    (h : v.name? = some name) : name = function := by
  have htext : v.text? = some name := (Option.filter_eq_some_iff.mp h).1
  rw [hv] at htext
  exact (Option.some.inj htext).symm

/-- The call runs the method on the set, once and with these arguments: nothing keeps the method
from taking them, what it comes to is what the call comes to, and what it leaves behind is what the
set remembers. -/
structure Runs (r : Registry) (s : Scene) (bs : Bindings) (c : Call) (b : BoundSet) (name : String)
    (m : Method) (args : List Value) : Prop where
  accepted : ∀ shown, m.refusal? shown args.length = none
  once : runsIn (invoke r s bs c).events =
    .ran b.cls.id name args :: runsIn (m.run s b.memory args).events
  outcome : (perform r s bs c).outcome =
    (m.run s b.memory args).result.mapError (·.wrapped "Function call failed")
  value : ∀ v, (m.run s b.memory args).result = .ok v → (invoke r s bs c).outcome = .ok (.value v)
  kept : (invoke r s bs c).bindings.get? c.space =
    some { b with memory := (m.run s b.memory args).memory }

/-- The call runs nothing and has no value. -/
def Idle (r : Registry) (s : Scene) (bs : Bindings) (c : Call) : Prop :=
  runsIn (invoke r s bs c).events = [] ∧ ∀ v, (invoke r s bs c).outcome ≠ .ok (.value v)

/-- A call that comes to a set is idle unless it finds a method there that takes its arguments. -/
theorem Reaches.idle {r : Registry} {s : Scene} {bs : Bindings} {c : Call} {d : Descriptor}
    {args : List Value} {b : BoundSet} (h : Reaches r s bs c d args b)
    (hno : ∀ m, b.lookup s d.method = some (.method m) →
      m.refusal? (b.cls.name ++ "." ++ d.method) args.length ≠ none) : Idle r s bs c := by
  constructor
  · rw [runsIn_invoke]
    cases hm : b.lookup s d.method with
    | none =>
      rw [h.perform_of_missing hm]
      exact runsIn_bindSet ..
    | some m =>
      have hnone : runsIn (b.run s d.method m args).events = [] := by
        cases m with
        | uncallable typeName => rfl
        | method m =>
          obtain ⟨message, hrefused⟩ := Option.ne_none_iff_exists'.mp (hno m hm)
          rw [run_of_refused hrefused]
          rfl
      rw [h.perform_of_found hm, runsIn_append, runsIn_append, runsIn_bindSet, runsIn_warning, hnone]
      rfl
  · intro v hv
    obtain ⟨d', args', b', m, hexec, -⟩ := executes_of_value hv
    obtain rfl : d' = d := Except.ok.inj (hexec.resolved.symm.trans h.resolved)
    obtain rfl : b' = b :=
      Except.ok.inj (hexec.provided.outcome_eq.symm.trans h.provided.outcome_eq)
    have hlength : args'.length = args.length := by
      rw [Except.ok.inj ((coerceArgs_eq_ok_iff 1 _ _ _).mpr hexec.coerced |>.symm.trans
        ((coerceArgs_eq_ok_iff 1 _ _ _).mpr h.coerced))]
    exact hno m hexec.found (hlength ▸ hexec.accepted)

theorem Executes.runs {r : Registry} {s : Scene} {bs : Bindings} {c : Call} {d : Descriptor}
    {args : List Value} {b : BoundSet} {m : Method} (h : Executes r s bs c d args b m)
    (haccepted : ∀ shown, m.refusal? shown args.length = none) : Runs r s bs c b d.method m args where
  accepted := haccepted
  once := by
    rw [runsIn_invoke, h.perform_eq, runsIn_append, runsIn_append, runsIn_bindSet, runsIn_warning]
    rfl
  outcome := by rw [h.perform_eq]
  value v hv := by
    have hperform : (perform r s bs c).outcome = .ok v := by
      rw [h.perform_eq, hv]
      rfl
    exact invoke_of_ok hperform
  kept := by
    rw [bindings_invoke, h.perform_eq, Table.get?_put, if_pos rfl]

namespace Evaluation

variable {acts : List Act} {s : Scene} {p : Plugin} {e : Entry} {c : Call} {args : List Value}

/-- A call of an entry of the set that is held is resolved to the descriptor of that entry. -/
theorem resolve_of_entry (hp : (ofActs acts).registry.getSet c.space = .ok p)
    (he : e ∈ p.cls.entries) (hname : e.name.text? = some c.function)
    (hargs : CoercedTo c.args e.params args) :
    ∃ d, p.cls.describe p.space e = .ok d ∧ Selects (catalogue acts) c p d ∧
      Coerced c.args d.params args := by
  obtain ⟨d, hmem, hd⟩ := (checked_of_getSet hp).descriptor_of_entry he
  obtain ⟨-, hdname, -, hparams, -⟩ := describe_eq_ok hd
  obtain ⟨hlen, hcoerced⟩ := hargs.coerced hparams
  exact ⟨d, hd, ⟨(getSet_eq_ok_iff_holder ..).mp hp, hmem, name_of_name? hname hdname, hlen⟩, hcoerced⟩

/-- There is a set for a call, of the class that is held, if the session has none of another class
and a new one can be made. -/
theorem exists_serves (hown : ∀ b, (ofActs acts).bindings.get? c.space = some b → b.cls = p.cls)
    (hmade : (ofActs acts).bindings.get? c.space = none →
      ∃ memory, p.cls.construct s = .ok memory) :
    ∃ b, Serves s (ofActs acts).bindings c.space p b := by
  cases hb : (ofActs acts).bindings.get? c.space with
  | some b => exact ⟨b, hown b hb, .inl hb⟩
  | none =>
    obtain ⟨memory, hmemory⟩ := hmade hb
    exact ⟨⟨p.cls, memory⟩, rfl, .inr ⟨hb, hmemory⟩⟩

/-- A call of an entry comes to a set of the class that is held: it is resolved to that very entry, and the
class has the method that the entry names, with as many parameters as the call has arguments. -/
structure Calls (acts : List Act) (s : Scene) (p : Plugin) (e : Entry) (c : Call) (args : List Value)
    (d : Descriptor) (m : Method) (b : BoundSet) : Prop where
  describe : p.cls.describe p.space e = .ok d
  method_eq : d.method = e.method
  reaches : Reaches (ofActs acts).registry s (ofActs acts).bindings c d args b
  means : p.cls.Means e.method m
  counted : ∃ ps, m.taken = .ok ps ∧ ps.length = args.length
  serves : Serves s (ofActs acts).bindings c.space p b

theorem exists_calls (acts : List Act) (s : Scene) (p : Plugin) (e : Entry) (c : Call)
    (args : List Value) (hp : (ofActs acts).registry.getSet c.space = .ok p)
    (he : e ∈ p.cls.entries) (hname : e.name.text? = some c.function)
    (hargs : CoercedTo c.args e.params args)
    (hown : ∀ b, (ofActs acts).bindings.get? c.space = some b → b.cls = p.cls)
    (hmade : (ofActs acts).bindings.get? c.space = none →
      ∃ memory, p.cls.construct s = .ok memory) : ∃ d m b, Calls acts s p e c args d m b := by
  obtain ⟨d, hd, hsel, hcoerced⟩ := resolve_of_entry hp he hname hargs
  obtain ⟨-, -, hmethod, -, m, ps, hm, htaken, hlength⟩ := describe_eq_ok hd
  obtain ⟨b, hb⟩ := exists_serves hown hmade
  refine ⟨d, m, b, hd, hmethod, reaches_of_serves hsel hcoerced hb, ?_, ⟨ps, htaken, ?_⟩, hb⟩
  · rw [← hmethod]
    exact (p.cls.method?_eq_some_iff _ m).mp hm
  · rw [hlength, hcoerced.length_eq hsel.arity, hsel.arity]

namespace Calls

variable {d : Descriptor} {m : Method} {b : BoundSet}

theorem unrefused_iff (h : Calls acts s p e c args d m b) (shown : String) :
    m.refusal? shown args.length = none ↔ m.Fits := by
  obtain ⟨ps, htaken, hlength⟩ := h.counted
  exact Method.refusal?_eq_none_iff htaken hlength shown

theorem shared (h : Calls acts s p e c args d m b) : p.cls.find? e.method = some (.method m) ∨
    e.method ∈ p.cls.classNames ∧ p.cls.attributes.get? e.method ≠ some (.method m) := by
  obtain ⟨ps, htaken, -⟩ := h.counted
  exact h.means.find?_or_mem (m.exists_taken_iff.mp ⟨ps, htaken⟩)

theorem runs (h : Calls acts s p e c args d m b) (hfree : ¬ b.Hides e.method)
    (hfind : p.cls.find? e.method = some (.method m)) (hfits : m.Fits) :
    Runs (ofActs acts).registry s (ofActs acts).bindings c b e.method m args := by
  have hfound : b.lookup s d.method = some (.method m) := by
    rw [h.method_eq, BoundSet.lookup_of_not_hides hfree, h.serves.cls, hfind]
  have hexec : Executes .. := ⟨h.reaches, hfound, (h.unrefused_iff _).mpr hfits⟩
  rw [← h.method_eq]
  exact hexec.runs fun shown => (h.unrefused_iff shown).mpr hfits

theorem idle (h : Calls acts s p e c args d m b)
    (hwhy : b.Hides e.method ∨ p.cls.find? e.method = none ∨
      p.cls.find? e.method = some (.method m) ∧ ¬ m.Fits) :
    Idle (ofActs acts).registry s (ofActs acts).bindings c := by
  refine h.reaches.idle fun m' hm' haccepted => ?_
  rw [h.method_eq] at hm'
  by_cases hhidden : b.Hides e.method
  · obtain ⟨typeName, hfound⟩ := BoundSet.lookup_of_hides hhidden s
    exact nomatch hfound.symm.trans hm'
  · rw [BoundSet.lookup_of_not_hides hhidden, h.serves.cls] at hm'
    rcases hwhy.resolve_left hhidden with hnone | ⟨hfind, hunfit⟩
    · exact nomatch hnone.symm.trans hm'
    · rw [hfind, Option.some.injEq, Found.method.injEq] at hm'
      exact hunfit ((h.unrefused_iff _).mp (hm' ▸ haccepted))

end Calls

/-- A call of an entry of the set that is held, with arguments that are coerced to the declared types,
is resolved to that very entry. It runs the method that the entry names, of that class, exactly once
and with the coerced arguments, and has the value of the method, unless the set hides the name of the
method or lacks what only its class has, or the method has parameters that a call does not fill; then
nothing is run. What the class writes down itself, its sets do not lack. -/
theorem runs_of_entry (acts : List Act) (s : Scene) (p : Plugin) (e : Entry) (c : Call)
    (args : List Value) (hp : (ofActs acts).registry.getSet c.space = .ok p)
    (he : e ∈ p.cls.entries) (hname : e.name.text? = some c.function)
    (hargs : CoercedTo c.args e.params args)
    (hown : ∀ b, (ofActs acts).bindings.get? c.space = some b → b.cls = p.cls)
    (hmade : (ofActs acts).bindings.get? c.space = none →
      ∃ memory, p.cls.construct s = .ok memory) :
    ∃ d m b, p.cls.describe p.space e = .ok d ∧
      (ofActs acts).registry.resolve c.space c.function c.args.length = .ok d ∧
      p.cls.Means e.method m ∧ Serves s (ofActs acts).bindings c.space p b ∧
      (p.cls.find? e.method = some (.method m) ∨
        e.method ∈ p.cls.classNames ∧ p.cls.attributes.get? e.method ≠ some (.method m)) ∧
      (¬ b.Hides e.method → p.cls.find? e.method = some (.method m) → m.Fits →
        Runs (ofActs acts).registry s (ofActs acts).bindings c b e.method m args) ∧
      (b.Hides e.method ∨ p.cls.find? e.method = none ∨
          p.cls.find? e.method = some (.method m) ∧ ¬ m.Fits →
        Idle (ofActs acts).registry s (ofActs acts).bindings c) := by
  obtain ⟨d, m, b, hcalls⟩ := exists_calls acts s p e c args hp he hname hargs hown hmade
  exact ⟨d, m, b, hcalls.describe, hcalls.reaches.resolved, hcalls.means, hcalls.serves, hcalls.shared,
    hcalls.runs, hcalls.idle⟩

/-- The set that takes a text has its entry called: its method runs once, and its value comes back. -/
theorem runs_textPlugin :
    CoercedTo [.text "a"] [.type .text] [.text "a"] ∧
      ∃ m b, textPlugin.1.cls.Means "f" m ∧
        Runs (ofActs [.change (.register textPlugin)]).registry bareScene
          (ofActs [.change (.register textPlugin)]).bindings (soleCall [.text "a"]) b "f" m
          [.text "a"] := by
  have hargs : CoercedTo [.text "a"] [.type .text] [.text "a"] := .cons rfl .nil
  have hheld : (ofActs [.change (.register textPlugin)]).registry.getSet "n" = .ok textPlugin.1 := rfl
  have hunbound : (ofActs [.change (.register textPlugin)]).bindings.get? "n" = none := rfl
  obtain ⟨d, m, b, -, -, hm, hb, hfind, hruns, -⟩ :=
    runs_of_entry [.change (.register textPlugin)] bareScene textPlugin.1
      { name := .text "f", method := "f", params := [.type .text] } (soleCall [.text "a"])
      [.text "a"] hheld (List.mem_singleton_self _) rfl hargs
      (fun b hb => by cases hunbound.symm.trans hb) (fun _ => ⟨_, rfl⟩)
  have hfound : textPlugin.1.cls.find? "f" = some (.method m) :=
    hfind.resolve_right fun h => absurd h.1 (by decide)
  have hfits : m.Fits := by
    cases hfound
    exact .inr ⟨by decide, .inr ⟨by decide, by decide⟩⟩
  refine ⟨hargs, m, b, hm, hruns ?_ hfound hfits⟩
  have hempty : b.memory = .empty := by
    rcases hb.memory with hb | ⟨-, hmade⟩
    · cases hunbound.symm.trans hb
    · exact (Except.ok.inj hmade).symm
  unfold BoundSet.Hides
  rw [hempty]
  decide

/-- A class whose one function is run by a method with the name that its sets have for their project. -/
def hidingClass : SetClass :=
  { id := 1, name := "Hiding", file := .ok "", space := .text "n", doc := none
    entries := [{ name := .text "f", method := "project" }]
    attributes := Table.empty.put "project"
      (.method { run := fun _ memory _ => { result := .ok (.text "yes"), memory } })
    construct := fun _ => .ok .empty }

/-- Its declaration is accepted. -/
def hidingPlugin : CheckedPlugin :=
  ⟨{ id := 1, space := "n", cls := hidingClass, description := ""
     descriptors := [{ space := "n", name := "f", method := "project", params := []
                       returns := .text }] },
    1, some "", .set hidingClass, rfl⟩

/-- A call of the function fails: the project of the set is found in place of the method. -/
theorem fails_of_hidden_method :
    (invoke (ofActs [.change (.register hidingPlugin)]).registry bareScene
      (ofActs [.change (.register hidingPlugin)]).bindings (soleCall [])).outcome =
        .ok (.failure ((soleCall []).failing .invocationFailed
          "Function call failed: 'ProjectContext' object is not callable")) := by
  rfl

end Evaluation

end BuildScript
