import BuildScript.Proofs.Dispatch.Escape
import BuildScript.Proofs.Dispatch.Running

/-!
What a call comes to, in the words of the registry's history: an unknown namespace, an unknown
function, the leftmost argument of a wrong type, what the constructor or the method raises, or the
value of the method, in this order. Main statement: `invoke_eq_ok_iff`, for calls of functions
without floating-point parameters, with arguments that can be shown, under a namespace where no
other class was registered since the session has a set of it. What is not a result then is an error from
outside whose text cannot be shown, and a method that only classes have.
-/

namespace BuildScript

/-- The failure of a call, of a kind and with a detail. -/
def Call.failing (c : Call) (kind : FailureKind) (detail : String) : CallFailure :=
  { space := c.space, function := c.function, kind, message := c.text ++ ": " ++ detail
    arguments := c.args }

/-- The kind and the detail under which what was raised is reported: a fault of a function keeps
its own, and anything else that has a text is a failed invocation. -/
inductive Reported (what : String) (e : Raised) : FailureKind → String → Prop where
  | own {f : Fault} {kind : FailureKind} (hf : e.functionFault? = some f)
      (hkind : f.head.kind? = some kind) : Reported what e kind f.head.message
  | other (hf : e.functionFault? = none) (ho : e.obstacle? = none) :
      Reported what e .invocationFailed (what ++ ": " ++ e.text)

/-- The function of a call, in the set that is held. -/
structure Selects (m : Catalogue) (c : Call) (p : Plugin) (d : Descriptor) : Prop where
  held : m.holder? c.space = some p
  mem : d ∈ p.descriptors
  name : d.name = c.function
  arity : d.arity = c.args.length

/-- The set on which a call is run: the one that the session has, or a new one, of the class that
is held. -/
structure Serves (s : Scene) (bs : Bindings) (space : String) (p : Plugin) (b : BoundSet) : Prop where
  cls : b.cls = p.cls
  memory : bs.get? space = some b ∨ bs.get? space = none ∧ p.cls.construct s = .ok b.memory

/-- The result of a call, where a catalogue says which sets are held. -/
inductive ComesTo (m : Catalogue) (s : Scene) (bs : Bindings) (c : Call) : CallResult → Prop where
  | unknownNamespace (h : c.space ∉ m.spaces) :
      ComesTo m s bs c (.failure (c.failing .unknownNamespace
        ("Unknown function namespace '" ++ c.space ++ "'.")))
  | unknownFunction {p : Plugin} (hp : m.holder? c.space = some p)
      (h : ∀ d ∈ p.descriptors, ¬ (d.name = c.function ∧ d.arity = c.args.length)) :
      ComesTo m s bs c (.failure (c.failing .unknownFunction
        ("Unknown function '" ++ qualifiedName c.space c.function ++ "/"
          ++ Number.natText c.args.length ++ "'.")))
  | mismatch {p : Plugin} {d : Descriptor} {i : Nat} {a : Value} {t : TypeName} {e : Mismatch}
      (hd : Selects m c p d) (h : FirstRefused c.args d.params i a t (.mismatch e)) :
      ComesTo m s bs c (.failure (c.failing .argumentTypeMismatch
        ("Invalid argument " ++ Number.natText (i + 1) ++ " (" ++ a.shown ++ "): " ++ e.message)))
  | unmade {p : Plugin} {d : Descriptor} {args : List Value} {e : Raised} {kind : FailureKind}
      {detail : String} (hd : Selects m c p d) (hargs : Coerced c.args d.params args)
      (hnone : bs.get? c.space = none) (h : p.cls.construct s = .error e)
      (hrep : Reported ("Could not create the '" ++ c.space ++ "' function set") e kind detail) :
      ComesTo m s bs c (.failure (c.failing kind detail))
  | hidden {p : Plugin} {d : Descriptor} {args : List Value} {b : BoundSet} {typeName : String}
      (hd : Selects m c p d) (hargs : Coerced c.args d.params args) (hb : Serves s bs c.space p b)
      (hm : b.lookup s d.method = some (.uncallable typeName)) :
      ComesTo m s bs c (.failure (c.failing .invocationFailed
        ("Function call failed: '" ++ typeName ++ "' object is not callable")))
  /-- The method has parameters that a call by place cannot fill, or is one of a set in place of one that
  only classes have. -/
  | refused {p : Plugin} {d : Descriptor} {args : List Value} {b : BoundSet} {method : Method}
      {message : String} (hd : Selects m c p d) (hargs : Coerced c.args d.params args)
      (hb : Serves s bs c.space p b) (hm : b.lookup s d.method = some (.method method))
      (hrefused : method.refusal? (b.cls.name ++ "." ++ d.method) args.length = some message)
      (hwhy : ¬ method.Fits ∨ d.method ∈ p.cls.classNames) :
      ComesTo m s bs c (.failure (c.failing .invocationFailed ("Function call failed: " ++ message)))
  | raised {p : Plugin} {d : Descriptor} {args : List Value} {b : BoundSet} {method : Method}
      {e : Raised} {kind : FailureKind} {detail : String} (hd : Selects m c p d)
      (hargs : Coerced c.args d.params args) (hb : Serves s bs c.space p b)
      (hm : b.lookup s d.method = some (.method method))
      (haccepted : method.refusal? (b.cls.name ++ "." ++ d.method) args.length = none)
      (hrun : (method.run s b.memory args).result = .error e)
      (hrep : Reported "Function call failed" e kind detail) :
      ComesTo m s bs c (.failure (c.failing kind detail))
  | returned {p : Plugin} {d : Descriptor} {args : List Value} {b : BoundSet} {method : Method}
      {v : Value} (hd : Selects m c p d) (hargs : Coerced c.args d.params args)
      (hb : Serves s bs c.space p b) (hm : b.lookup s d.method = some (.method method))
      (haccepted : method.refusal? (b.cls.name ++ "." ++ d.method) args.length = none)
      (hrun : (method.run s b.memory args).result = .ok v) :
      ComesTo m s bs c (.value v)

/-! ## Reports -/

/-- A fault of a function has a kind. -/
theorem kind_of_functionFault {e : Raised} {f : Fault} (h : e.functionFault? = some f) :
    ∃ kind, f.head.kind? = some kind := by
  unfold Raised.functionFault? at h
  split at h
  · rename_i f'
    split at h
    · rename_i cls message data hhead
      split at h
      · rename_i hbelow
        cases h
        rw [hhead]
        rw [← FaultClass.isSome_kind?_iff] at hbelow
        exact Option.isSome_iff_exists.mp hbelow
      · cases h
    · cases h
  · cases h

theorem Call.failure_because (c : Call) (text : String) (e : Raised) :
    c.failure (.because .invocation text e) = c.failing .invocationFailed text := by
  cases e <;> rfl

theorem Call.failure_own {f : Fault} {kind : FailureKind} (c : Call)
    (h : f.head.kind? = some kind) : c.failure f = c.failing kind f.head.message := by
  unfold Call.failure
  rw [h]
  rfl

theorem Reported.wrapped_eq {what : String} {e : Raised} {kind : FailureKind} {detail : String}
    (h : Reported what e kind detail) (c : Call) :
    ∃ f, e.wrapped what = .inr f ∧ c.failure f = c.failing kind detail := by
  cases h with
  | own hf hkind => exact ⟨_, Raised.wrapped_of_fault what hf, c.failure_own hkind⟩
  | other hf ho => exact ⟨_, Raised.wrapped_of_text what hf ho, c.failure_because _ _⟩

/-- What becomes a fault is reported. -/
theorem reported_of_wrapped {what : String} {e : Raised} {f : Fault} (c : Call)
    (h : e.wrapped what = .inr f) :
    ∃ kind detail, Reported what e kind detail ∧ c.failure f = c.failing kind detail := by
  have hrep : ∃ kind detail, Reported what e kind detail := by
    cases hf : e.functionFault? with
    | some f' =>
      obtain ⟨kind, hkind⟩ := kind_of_functionFault hf
      exact ⟨_, _, .own hf hkind⟩
    | none =>
      cases ho : e.obstacle? with
      | none => exact ⟨_, _, .other hf ho⟩
      | some o => rw [Raised.wrapped_of_obstacle what hf ho] at h; cases h
  obtain ⟨kind, detail, hrep⟩ := hrep
  obtain ⟨f', hf', hfail⟩ := hrep.wrapped_eq c
  obtain rfl : f' = f := Sum.inr.inj (hf'.symm.trans h)
  exact ⟨kind, detail, hrep, hfail⟩

theorem Reported.unique {what : String} {e : Raised} {kind kind' : FailureKind}
    {detail detail' : String} (h : Reported what e kind detail)
    (h' : Reported what e kind' detail') : kind' = kind ∧ detail' = detail := by
  cases h with
  | own hf hkind =>
    cases h' with
    | own hf' hkind' =>
      rw [hf] at hf'
      cases hf'
      rw [hkind] at hkind'
      cases hkind'
      exact ⟨rfl, rfl⟩
    | other hf' _ => rw [hf] at hf'; cases hf'
  | other hf _ =>
    cases h' with
    | own hf' _ => rw [hf] at hf'; cases hf'
    | other _ _ => exact ⟨rfl, rfl⟩

/-- What the language says of a call that it does not make is reported. -/
theorem reported_refusal (message : String) :
    Reported "Function call failed" (.ofText "TypeError" message) .invocationFailed
      ("Function call failed: " ++ message) :=
  .other rfl rfl

/-- What is found under the name of a method and cannot be called is reported as that. -/
theorem reported_uncallable (typeName : String) :
    Reported "Function call failed"
      (.ofText "TypeError" ("'" ++ typeName ++ "' object is not callable")) .invocationFailed
      ("Function call failed: '" ++ typeName ++ "' object is not callable") := by
  have htext : "Function call failed: " ++ ("'" ++ typeName ++ "' object is not callable") =
      "Function call failed: '" ++ typeName ++ "' object is not callable" := by
    rw [← String.append_assoc, ← String.append_assoc]
    rfl
  rw [← htext]
  exact reported_refusal _

theorem notCoerced_mismatch {m : Mismatch} (n : Nat) (a : Value) (h : m.obstacle? = none) :
    notCoerced n a (.mismatch m) = .inr (.of .argumentTypeMismatch
      ("Invalid argument " ++ Number.natText n ++ " (" ++ a.shown ++ "): " ++ m.message)) := by
  unfold notCoerced
  simp only [h]

theorem Coerced.length_eq {args vs : List Value} {types : List TypeName} (h : Coerced args types vs)
    (hlen : types.length = args.length) : vs.length = args.length := by
  have hzip := List.Forall₂.length_eq h
  rw [List.length_zip, hlen, Nat.min_self] at hzip
  exact hzip.symm

namespace Evaluation

variable {acts : List Act} {s : Scene} {c : Call} {p : Plugin} {d : Descriptor} {args : List Value}
  {b : BoundSet}

/-! ## The stages in the words of the history -/

theorem resolve_eq_ok_iff_selects (hp : (catalogue acts).holder? c.space = some p) :
    (ofActs acts).registry.resolve c.space c.function c.args.length = .ok d ↔
      Selects (catalogue acts) c p d := by
  rw [(represents_ofActs acts).resolve_ok_iff]
  constructor
  · intro h
    obtain ⟨q, hq, hmem, hname, harity⟩ := h
    obtain rfl : q = p := Option.some.inj (hq.symm.trans hp)
    exact ⟨hq, hmem, hname, harity⟩
  · intro h
    exact ⟨p, h.held, h.mem, h.name, h.arity⟩

theorem selects_of_resolve
    (hd : (ofActs acts).registry.resolve c.space c.function c.args.length = .ok d) :
    ∃ p, (ofActs acts).registry.getSet c.space = .ok p ∧ Selects (catalogue acts) c p d := by
  obtain ⟨p, hp⟩ := getSet_of_resolve hd
  have hheld := (getSet_eq_ok_iff_holder ..).mp hp
  exact ⟨p, hp, (resolve_eq_ok_iff_selects hheld).mp hd⟩

theorem serves_of_provides (hsame : NotReplaced acts c.space)
    (hp : (ofActs acts).registry.getSet c.space = .ok p)
    (hb : Provides (ofActs acts).registry s (ofActs acts).bindings c.space b) :
    Serves s (ofActs acts).bindings c.space p b := by
  cases hb with
  | had hb => exact ⟨cls_of_notReplaced hsame hb hp, .inl hb⟩
  | made hnone hp' hmade =>
    obtain rfl := Except.ok.inj (hp'.symm.trans hp)
    exact ⟨rfl, .inr ⟨hnone, hmade⟩⟩

theorem provides_of_serves (hp : (ofActs acts).registry.getSet c.space = .ok p)
    (hb : Serves s (ofActs acts).bindings c.space p b) :
    Provides (ofActs acts).registry s (ofActs acts).bindings c.space b := by
  obtain ⟨cls, memory⟩ := b
  obtain ⟨hcls, hb | ⟨hnone, hmade⟩⟩ := hb
  · exact .had hb
  · subst hcls
    exact .made hnone hp hmade

theorem reaches_of_serves (hd : Selects (catalogue acts) c p d)
    (hargs : Coerced c.args d.params args) (hb : Serves s (ofActs acts).bindings c.space p b) :
    Reaches (ofActs acts).registry s (ofActs acts).bindings c d args b where
  resolved := (resolve_eq_ok_iff_selects hd.held).mpr hd
  coerced := hargs
  provided := provides_of_serves ((getSet_eq_ok_iff_holder ..).mpr hd.held) hb

/-- The method that is found on a set of the class that is held is the one that was checked against the
descriptor, unless that is one that only classes have. -/
theorem taken_of_serves {method : Method} (hd : Selects (catalogue acts) c p d)
    (hargs : Coerced c.args d.params args) (hb : Serves s (ofActs acts).bindings c.space p b)
    (hm : b.lookup s d.method = some (.method method)) (hname : d.method ∉ p.cls.classNames) :
    ∃ ps, method.taken = .ok ps ∧ ps.length = args.length := by
  have hreach := reaches_of_serves hd hargs hb
  obtain ⟨m, ps, hcls, htaken, hlength⟩ :=
    method_of_resolve hreach.resolved ((getSet_eq_ok_iff_holder ..).mpr hd.held)
  have hmeans := (p.cls.method?_eq_some_iff d.method m).mp hcls
  have hfound := (hmeans.find?_or_mem (m.exists_taken_iff.mp ⟨ps, htaken⟩)).resolve_right
    fun h => hname h.1
  have hmethod := find?_of_lookup hm
  rw [hb.cls, hfound, Option.some.injEq, Found.method.injEq] at hmethod
  subst hmethod
  exact ⟨ps, htaken, by rw [hlength, hargs.length_eq hd.arity]⟩

theorem refused_why {method : Method} {message : String} (hd : Selects (catalogue acts) c p d)
    (hargs : Coerced c.args d.params args) (hb : Serves s (ofActs acts).bindings c.space p b)
    (hm : b.lookup s d.method = some (.method method))
    (hrefused : method.refusal? (b.cls.name ++ "." ++ d.method) args.length = some message) :
    ¬ method.Fits ∨ d.method ∈ p.cls.classNames := by
  refine or_iff_not_imp_right.mpr fun hname hfits => ?_
  obtain ⟨ps, htaken, hlength⟩ := taken_of_serves hd hargs hb hm hname
  exact nomatch hrefused.symm.trans ((Method.refusal?_eq_none_iff htaken hlength _).mpr hfits)

/-! ## Results -/

theorem comesTo_of_unresolved {e : RegistryError}
    (h : (ofActs acts).registry.resolve c.space c.function c.args.length = .error e) :
    ComesTo (catalogue acts) s (ofActs acts).bindings c (.failure (c.failure e.fault)) := by
  rcases (represents_ofActs acts).resolve_cases c.space c.function c.args.length with
    ⟨hfree, hr⟩ | ⟨p, hp, ⟨d, -, -, -, hr⟩ | ⟨hno, hr⟩⟩
  · obtain rfl := Except.error.inj (h.symm.trans hr)
    exact .unknownNamespace hfree
  · rw [h] at hr
    cases hr
  · obtain rfl := Except.error.inj (h.symm.trans hr)
    exact .unknownFunction hp hno

theorem comesTo_of_refused {i : Nat} {a : Value} {t : TypeName} {e : CoercionError} {f : Fault}
    (hd : Selects (catalogue acts) c p d) (h : FirstRefused c.args d.params i a t e)
    (hf : notCoerced (i + 1) a e = .inr f) :
    ComesTo (catalogue acts) s (ofActs acts).bindings c (.failure (c.failure f)) := by
  cases e with
  | mismatch m =>
    unfold notCoerced at hf
    dsimp only at hf
    split at hf <;> cases hf
    exact .mismatch hd h
  | overflow => cases hf
  | notKey name => cases hf

theorem comesTo_of_raised {what : String} {e : Raised} {f : Fault}
    (hsame : NotReplaced acts c.space)
    (h : Raises (ofActs acts).registry s (ofActs acts).bindings c what e)
    (hf : e.wrapped what = .inr f) :
    ComesTo (catalogue acts) s (ofActs acts).bindings c (.failure (c.failure f)) := by
  obtain ⟨kind, detail, hrep, hfail⟩ := reported_of_wrapped c hf
  rw [hfail]
  cases h with
  | making hd hargs hnone hp h =>
    have hsel := (resolve_eq_ok_iff_selects ((getSet_eq_ok_iff_holder ..).mp hp)).mp hd
    exact .unmade hsel hargs hnone h hrep
  | @running d args b m e h hm hrun =>
    obtain ⟨p, hp, hsel⟩ := selects_of_resolve h.resolved
    have hserves := serves_of_provides hsame hp h.provided
    cases m with
    | uncallable typeName =>
      cases hrun
      obtain ⟨rfl, rfl⟩ := (reported_uncallable typeName).unique hrep
      exact .hidden hsel h.coerced hserves hm
    | method m =>
      cases haccepted : m.refusal? (b.cls.name ++ "." ++ d.method) args.length with
      | some message =>
        rw [run_of_refused haccepted] at hrun
        cases hrun
        obtain ⟨rfl, rfl⟩ := (reported_refusal message).unique hrep
        exact .refused hsel h.coerced hserves hm haccepted
          (refused_why hsel h.coerced hserves hm haccepted)
      | none =>
        rw [run_method haccepted] at hrun
        exact .raised hsel h.coerced hserves hm haccepted hrun hrep

/-- A call with a result comes to it in one of the ways that the catalogue allows. -/
theorem comesTo_of_ok {result : CallResult} (hsame : NotReplaced acts c.space)
    (h : (invoke (ofActs acts).registry s (ofActs acts).bindings c).outcome = .ok result) :
    ComesTo (catalogue acts) s (ofActs acts).bindings c result := by
  rcases invoke_ok_cases h with ⟨v, hp, rfl⟩ | ⟨f, hp, rfl⟩
  · obtain ⟨d, args, b, m, hexec, hrun⟩ := executes_of_perform hp
    obtain ⟨p, hheld, hsel⟩ := selects_of_resolve hexec.resolved
    have hserves := serves_of_provides hsame hheld hexec.provided
    exact .returned hsel hexec.coerced hserves hexec.found hexec.accepted hrun
  · rcases perform_error_cases hp with
      ⟨e, hr, hx⟩ | ⟨d, i, a, t, e, hd, hfirst, hx⟩ | ⟨d, args, b, -, -, hx⟩ | ⟨what, e, he, hx⟩
    · cases hx
      exact comesTo_of_unresolved hr
    · obtain ⟨p, -, hsel⟩ := selects_of_resolve hd
      exact comesTo_of_refused hsel hfirst hx.symm
    · cases hx
    · exact comesTo_of_raised hsame he hx.symm

/-- What is reported of a call is its result. -/
theorem outcome_of_reported {what : String} {e : Raised} {kind : FailureKind} {detail : String}
    (hshown : c.obstacle? = none) (hrep : Reported what e kind detail)
    (h : (perform (ofActs acts).registry s (ofActs acts).bindings c).outcome =
      .error (e.wrapped what)) :
    (invoke (ofActs acts).registry s (ofActs acts).bindings c).outcome =
      .ok (.failure (c.failing kind detail)) := by
  obtain ⟨f, hf, hfail⟩ := hrep.wrapped_eq c
  rw [hf] at h
  rw [invoke_of_fault h hshown, hfail]

/-- A result that the catalogue allows is the result of the call. -/
theorem ok_of_comesTo {result : CallResult} (hshown : c.obstacle? = none)
    (h : ComesTo (catalogue acts) s (ofActs acts).bindings c result) :
    (invoke (ofActs acts).registry s (ofActs acts).bindings c).outcome = .ok result := by
  cases h with
  | unknownNamespace h =>
    have hr := (represents_ofActs acts).resolve_of_free h c.function c.args.length
    rw [invoke_of_fault (Performs.unresolved hr).outcome_eq hshown]
    rfl
  | unknownFunction hp h =>
    have hr := ((represents_ofActs acts).answers.resolve_unknownFunction ..).mpr ⟨_, hp, h⟩
    rw [invoke_of_fault (Performs.unresolved hr).outcome_eq hshown]
    rfl
  | @mismatch p d i a t e hd h =>
    have hshow : e.obstacle? = none := by
      rcases coerce_error_cases h.refused with ⟨m, hm, ho⟩ | ⟨he, -⟩
      · cases hm
        rw [ho]
        exact c.obstacle?_eq_none_iff.mp hshown a (List.mem_of_getElem? h.arg)
      · cases he
    have hr := (resolve_eq_ok_iff_selects hd.held).mpr hd
    have hperf : (perform (ofActs acts).registry s (ofActs acts).bindings c).outcome =
        .error (.inr (.of .argumentTypeMismatch ("Invalid argument " ++ Number.natText (i + 1) ++
          " (" ++ a.shown ++ "): " ++ e.message))) := by
      rw [(Performs.refused hr h).outcome_eq, notCoerced_mismatch _ _ hshow]
    rw [invoke_of_fault hperf hshown]
    rfl
  | unmade hd hargs hnone h hrep =>
    refine outcome_of_reported hshown hrep (Performs.unmade ?_ hargs hnone ?_ h).outcome_eq
    · exact (resolve_eq_ok_iff_selects hd.held).mpr hd
    · exact (getSet_eq_ok_iff_holder ..).mpr hd.held
  | hidden hd hargs hb hm =>
    have hreach := reaches_of_serves hd hargs hb
    exact outcome_of_reported hshown (reported_uncallable _) (Performs.ran hreach hm).outcome_eq
  | refused hd hargs hb hm hrefused hwhy =>
    have hreach := reaches_of_serves hd hargs hb
    refine outcome_of_reported hshown (reported_refusal _) ?_
    rw [(Performs.ran hreach hm).outcome_eq, run_of_refused hrefused]
    rfl
  | raised hd hargs hb hm haccepted hrun hrep =>
    have hexec : Executes .. := ⟨reaches_of_serves hd hargs hb, hm, haccepted⟩
    refine outcome_of_reported hshown hrep ?_
    rw [hexec.perform_eq, hrun]
    rfl
  | returned hd hargs hb hm haccepted hrun =>
    have hexec : Executes .. := ⟨reaches_of_serves hd hargs hb, hm, haccepted⟩
    refine invoke_of_ok ?_
    rw [hexec.perform_eq, hrun]
    rfl

/-- The call comes to a set that lacks the method, which is one that only classes have. -/
def Lacks (acts : List Act) (s : Scene) (c : Call) : Prop :=
  ∃ p d args b, Selects (catalogue acts) c p d ∧ Coerced c.args d.params args ∧
    Serves s (ofActs acts).bindings c.space p b ∧ d.method ∈ p.cls.classNames ∧
    b.lookup s d.method = none

/-- What escapes, where no argument is in the way and the set is of the class that is held. -/
theorem textless_or_lacks_of_escapes (hsame : NotReplaced acts c.space)
    (hfloat : ∀ p d, Selects (catalogue acts) c p d → .float ∉ d.params)
    (hshown : ∀ a ∈ c.args, a.obstacle? = none)
    (h : Escapes (ofActs acts).registry s (ofActs acts).bindings c) :
    (∃ what e o, Raises (ofActs acts).registry s (ofActs acts).bindings c what e ∧
      e.functionFault? = none ∧ e.obstacle? = some o) ∨ Lacks acts s c := by
  cases h with
  | tooLarge hd h _ =>
    obtain ⟨p, -, hsel⟩ := selects_of_resolve hd
    exact absurd (List.mem_of_getElem? h.type) (hfloat p _ hsel)
  | stale _ _ hb hp hcls _ => exact absurd (cls_of_notReplaced hsame hb hp) hcls
  | unshared h hp hname hno =>
    have hheld := (getSet_eq_ok_iff_holder ..).mp hp
    exact .inr ⟨_, _, _, _, (resolve_eq_ok_iff_selects hheld).mp h.resolved, h.coerced,
      serves_of_provides hsame hp h.provided, hname, hno⟩
  | textless h hf ho => exact .inl ⟨_, _, _, h, hf, ho⟩
  | unshown _ ha ho =>
    rw [hshown _ ha] at ho
    cases ho

/-- What a call comes to: a result that the catalogue of the history allows, and only that; or
nothing, where what its constructor or its method raises is no fault of a function and has no text, or
where the method is one that only classes have. -/
theorem invoke_eq_ok_iff (acts : List Act) (s : Scene) (c : Call) (hsame : NotReplaced acts c.space)
    (hfloat : ∀ p d, Selects (catalogue acts) c p d → .float ∉ d.params)
    (hshown : ∀ a ∈ c.args, a.obstacle? = none) :
    (∀ result, (invoke (ofActs acts).registry s (ofActs acts).bindings c).outcome = .ok result ↔
        ComesTo (catalogue acts) s (ofActs acts).bindings c result) ∧
      ((∃ x, (invoke (ofActs acts).registry s (ofActs acts).bindings c).outcome = .error x) ↔
        (∃ what e o, Raises (ofActs acts).registry s (ofActs acts).bindings c what e ∧
          e.functionFault? = none ∧ e.obstacle? = some o) ∨ Lacks acts s c) := by
  have hcall : c.obstacle? = none := c.obstacle?_eq_none_iff.mpr hshown
  refine ⟨fun result => ⟨comesTo_of_ok hsame, ok_of_comesTo hcall⟩, ?_, ?_⟩
  · intro h
    obtain ⟨x, hx⟩ := h
    exact textless_or_lacks_of_escapes hsame hfloat hshown (escapes_of_error hx)
  · rintro (⟨what, e, o, hraises, hf, ho⟩ | ⟨p, d, args, b, hd, hargs, hb, hname, hno⟩)
    · exact (Escapes.textless hraises hf ho).outcome_eq
    · have hheld := (getSet_eq_ok_iff_holder ..).mpr hd.held
      exact (Escapes.unshared (reaches_of_serves hd hargs hb) hheld hname hno).outcome_eq

/-- A set whose function takes a text. -/
def textPlugin : CheckedPlugin := solePlugin 1 [.text] (.ok (.text "yes"))

/-- Its function is held, takes no floating-point number, and its value is the result. -/
theorem invoke_textPlugin :
    (invoke (ofActs [.change (.register textPlugin)]).registry bareScene
      (ofActs [.change (.register textPlugin)]).bindings (soleCall [.text "a"])).outcome =
        .ok (.value (.text "yes")) := by
  have hheld : (catalogue [.change (.register textPlugin)]).holder? "n" = some textPlugin.1 := rfl
  have hfloat : ∀ p d,
      Selects (catalogue [.change (.register textPlugin)]) (soleCall [.text "a"]) p d →
        .float ∉ d.params := by
    intro p d hd
    obtain rfl := Option.some.inj (hd.held.symm.trans hheld)
    rw [List.mem_singleton.mp hd.mem]
    decide
  have hshown : ∀ a ∈ (soleCall [.text "a"]).args, a.obstacle? = none := by
    intro a ha
    rw [List.mem_singleton.mp ha]
    rfl
  have hserves : Serves bareScene (ofActs [.change (.register textPlugin)]).bindings "n" textPlugin.1
      ⟨textPlugin.1.cls, .empty⟩ := ⟨rfl, .inr ⟨rfl, rfl⟩⟩
  have hfound : (BoundSet.mk textPlugin.1.cls .empty).lookup bareScene "f" = some (.method
      { written := [{ name := "self" }, { name := "x" }]
        run := fun _ memory _ => { result := .ok (.text "yes"), memory } }) := rfl
  refine ((invoke_eq_ok_iff _ bareScene (soleCall [.text "a"]) (notReplaced_register textPlugin "n")
    hfloat hshown).1 _).mpr ?_
  exact .returned ⟨hheld, List.mem_singleton_self _, rfl, rfl⟩ (.cons rfl .nil) hserves hfound rfl rfl

/-- A set whose function raises an error about a task builder that names no assembly. -/
def textlessPlugin : CheckedPlugin :=
  solePlugin 1 []
    (.error (.other { className := "ValueError", args := [.taskBuilder 0 "t" (.text "x") ""] }))

/-- The error has no text, and the call has no result. -/
theorem no_result_of_textless_error :
    ¬ ∃ result, (invoke (ofActs [.change (.register textlessPlugin)]).registry bareScene
      (ofActs [.change (.register textlessPlugin)]).bindings (soleCall [])).outcome =
        .ok result := by
  have hreach : Reaches (ofActs [.change (.register textlessPlugin)]).registry bareScene
      (ofActs [.change (.register textlessPlugin)]).bindings (soleCall []) (soleDescriptor []) []
      ⟨textlessPlugin.1.cls, .empty⟩ := ⟨rfl, .nil, .made rfl rfl rfl⟩
  exact (Escapes.textless (.running hreach rfl rfl) rfl rfl).no_result

end Evaluation

end BuildScript
