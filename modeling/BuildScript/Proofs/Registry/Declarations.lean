import BuildScript.Proofs.Registry.Plugins
import BuildScript.Proofs.Value.Showing

/-!
Which declarations pass the check. The well-formed ones are described without the check: by the form
of the names, what the names of methods mean to the class, the parameters of the methods, and the declared
types. Main statement: `ofCandidate_outcome`, that exactly the well-formed ones give a plugin, whose
descriptors describe the entries of the table one by one, and that of any other the first flaw in the
order of the check is reported, or what the language raises about it.
-/

namespace BuildScript

/-! ## Well-formed declarations -/

/-- A small letter, then small letters, digits and hyphens. -/
def IsIdentifier (s : String) : Prop :=
  ∃ c cs, s.toList = c :: cs ∧ ('a' ≤ c ∧ c ≤ 'z') ∧
    ∀ d ∈ cs, ('a' ≤ d ∧ d ≤ 'z') ∨ ('0' ≤ d ∧ d ≤ '9') ∨ d = '-'

/-- The value is a text, and a name. -/
def Value.IsIdentifier (v : Value) (s : String) : Prop := v.text? = some s ∧ BuildScript.IsIdentifier s

/-- What a name means to a class, if that can be called: what the class writes down under it, or what it
inherits. What the language has fixed is always inherited. -/
inductive SetClass.Means (c : SetClass) (name : String) (m : Method) : Prop where
  | own (hname : name ∉ Inherited.fixedNames) (h : c.attributes.get? name = some (.method m))
  | inherited (hname : name ∈ Inherited.fixedNames ∨ c.attributes.get? name = none)
      (h : c.inherited? name = some m)

/-- A method tells its parameters where it is asked for them: it is of a kind that does, and if it is
called on its class, it has a parameter in front for that. -/
structure Method.Tells (m : Method) : Prop where
  asked : m.untold = none
  front : m.receiver = .ownClass →
    ∃ q rest, m.written = q :: rest ∧ (q.kind = .positional ∨ q.kind = .variadic)

/-- What is raised where a method is asked for its parameters and does not tell them. -/
inductive Method.Conceals (m : Method) : Raised → Prop where
  | asked {x : Raised} (h : m.untold = some x) : Conceals m x
  | front (h : m.untold = none) (hreceiver : m.receiver = .ownClass)
      (hfront : ∀ q rest, m.written = q :: rest → q.kind = .keywordOnly ∨ q.kind = .keywords) :
      Conceals m invalidSignature

/-- The name means a method to the class that has so many parameters behind what it is called on. -/
structure SetClass.Takes (c : SetClass) (name : String) (count : Nat) (m : Method) : Prop where
  means : c.Means name m
  tells : m.Tells
  count_eq : m.written.length - m.own.length = count

/-- An entry that can be registered as it stands. -/
structure Entry.WellFormed (c : SetClass) (e : Entry) : Prop where
  name : ∃ s, e.name.IsIdentifier s
  method : ∃ m, c.Takes e.method e.params.length m
  params : ∀ d ∈ e.params, d.isType = true
  returns : e.returns.isType = true

/-- The text describes the set: it is given, or the class has it of its own. -/
def SetClass.DescribedBy (c : SetClass) (given : Option String) (text : String) : Prop :=
  given = some text ∨ given = none ∧
    ∃ doc, c.doc = some doc ∧ doc ≠ baseDoc ∧ text = Text.collapse doc

/-- A class of function sets that can be registered as it stands. -/
structure SetClass.WellFormed (c : SetClass) (given : Option String) : Prop where
  space : ∃ s, c.space.IsIdentifier s
  description : ∃ text, c.DescribedBy given text
  entries : ∀ e ∈ c.entries, e.WellFormed c

/-- What a descriptor says is what the entry and its method say. -/
structure Describes (c : SetClass) (space : String) (e : Entry) (d : Descriptor) : Prop where
  space_eq : d.space = space
  name : e.name.IsIdentifier d.name
  method_eq : d.method = e.method
  params : e.params = d.params.map .type
  returns : e.returns = .type d.returns
  deprecated : d.deprecated = e.deprecated
  method : ∃ m, c.Takes e.method d.params.length m ∧ d.description = Text.collapse (m.doc.getD "")

/-! ## Names and methods -/

theorem isLower_iff (c : Char) : c.isLower = true ↔ 'a' ≤ c ∧ c ≤ 'z' := by
  unfold Char.isLower
  rw [Bool.and_eq_true, decide_eq_true_eq, decide_eq_true_eq]
  rfl

theorem isDigit_iff (c : Char) : c.isDigit = true ↔ '0' ≤ c ∧ c ≤ '9' := by
  unfold Char.isDigit
  rw [Bool.and_eq_true, decide_eq_true_eq, decide_eq_true_eq]
  rfl

theorem isName_iff (s : String) : isName s = true ↔ IsIdentifier s := by
  unfold isName IsIdentifier
  cases s.toList with
  | nil => simp
  | cons c cs =>
    simp only [Bool.and_eq_true, List.all_eq_true, Bool.or_eq_true, decide_eq_true_eq, isLower_iff,
      isDigit_iff, or_assoc]
    constructor
    · intro h
      exact ⟨c, cs, rfl, h⟩
    · rintro ⟨_, _, heq, h⟩
      obtain ⟨rfl, rfl⟩ := List.cons.inj heq
      exact h

theorem name?_eq_some_iff (v : Value) (s : String) : v.name? = some s ↔ v.IsIdentifier s := by
  rw [Value.name?, Option.filter_eq_some_iff, isName_iff, Value.IsIdentifier]

theorem name?_eq_none_iff (v : Value) : v.name? = none ↔ ∀ s, ¬ v.IsIdentifier s := by
  simp only [Option.eq_none_iff_forall_ne_some, ne_eq, name?_eq_some_iff]

theorem SetClass.method?_eq_some_iff (c : SetClass) (name : String) (m : Method) :
    c.method? name = some m ↔ c.Means name m := by
  unfold SetClass.method?
  by_cases hfixed : name ∈ Inherited.fixedNames
  · rw [if_pos hfixed]
    refine ⟨.inherited (.inl hfixed), fun h => ?_⟩
    cases h with
    | own hname _ => exact absurd hfixed hname
    | inherited _ h => exact h
  · rw [if_neg hfixed]
    cases hown : c.attributes.get? name with
    | none =>
      refine ⟨.inherited (.inr hown), fun h => ?_⟩
      cases h with
      | own _ h => exact nomatch hown.symm.trans h
      | inherited _ h => exact h
    | some a =>
      constructor
      · intro h
        cases a with
        | value v => cases h
        | method m' =>
          obtain rfl := Option.some.inj h
          exact .own hfixed hown
      · intro h
        cases h with
        | own _ h =>
          obtain rfl := Option.some.inj (hown.symm.trans h)
          rfl
        | inherited hname _ => exact absurd hname (not_or.mpr ⟨hfixed, by simp [hown]⟩)

/-- A name means one thing to a class. -/
theorem SetClass.Means.unique {c : SetClass} {name : String} {m m' : Method} (h : c.Means name m)
    (h' : c.Means name m') : m = m' :=
  Option.some.inj (((c.method?_eq_some_iff name m).mpr h).symm.trans
    ((c.method?_eq_some_iff name m').mpr h'))

/-- A method tells its parameters, or something is raised. -/
theorem Method.tells_or_conceals (m : Method) :
    (m.Tells ∧ ∃ ps, m.taken = .ok ps) ∨ ∃ x, m.Conceals x ∧ m.taken = .error x := by
  unfold taken listed
  cases hu : m.untold with
  | some x => exact .inr ⟨x, .asked hu, by cases m.receiver <;> rfl⟩
  | none =>
    cases hr : m.receiver with
    | boundSet | nothing => exact .inl ⟨⟨hu, fun h => nomatch hr.symm.trans h⟩, _, rfl⟩
    | ownClass =>
      unfold withoutClass
      cases hw : m.written with
      | nil => exact .inr ⟨_, .front hu hr (fun q rest h => nomatch hw.symm.trans h), rfl⟩
      | cons q rest =>
        have hconceals : q.kind = .keywordOnly ∨ q.kind = .keywords →
            m.Conceals invalidSignature := by
          refine fun hkind => .front hu hr fun q' rest' h => ?_
          obtain ⟨rfl, -⟩ := List.cons.inj (hw.symm.trans h)
          exact hkind
        cases hk : q.kind with
        | positional => exact .inl ⟨⟨hu, fun _ => ⟨q, rest, hw, .inl hk⟩⟩, rest, by simp [hk]⟩
        | variadic => exact .inl ⟨⟨hu, fun _ => ⟨q, rest, hw, .inr hk⟩⟩, q :: rest, by simp [hk]⟩
        | keywordOnly => exact .inr ⟨_, hconceals (.inl hk), by simp [hk]⟩
        | keywords => exact .inr ⟨_, hconceals (.inr hk), by simp [hk]⟩

theorem Method.Tells.not_conceals {m : Method} {x : Raised} (h : m.Tells) : ¬ m.Conceals x := by
  intro hx
  cases hx with
  | asked hu => exact nomatch h.asked.symm.trans hu
  | front _ hreceiver hfront =>
    obtain ⟨q, rest, hw, hkind⟩ := h.front hreceiver
    rcases hkind with hkind | hkind <;> rcases hfront q rest hw with h | h <;>
      exact nomatch hkind.symm.trans h

theorem Method.exists_taken_iff (m : Method) : (∃ ps, m.taken = .ok ps) ↔ m.Tells := by
  constructor
  · rintro ⟨ps, hps⟩
    rcases m.tells_or_conceals with ⟨h, -⟩ | ⟨x, -, hx⟩
    · exact h
    · exact nomatch hps.symm.trans hx
  · intro h
    rcases m.tells_or_conceals with ⟨-, hps⟩ | ⟨x, hx, -⟩
    · exact hps
    · exact absurd hx h.not_conceals

theorem Method.taken_eq_error_iff (m : Method) (x : Raised) : m.taken = .error x ↔ m.Conceals x := by
  rcases m.tells_or_conceals with ⟨htells, ps, hps⟩ | ⟨y, hy, htaken⟩
  · exact iff_of_false (fun h => nomatch hps.symm.trans h) htells.not_conceals
  · rw [htaken, Except.error.injEq]
    refine ⟨fun h => h ▸ hy, fun hx => ?_⟩
    cases hy with
    | asked hu =>
      cases hx with
      | asked hu' => exact Option.some.inj (hu.symm.trans hu')
      | front hu' _ _ => exact nomatch hu.symm.trans hu'
    | front hu _ _ =>
      cases hx with
      | asked hu' => exact nomatch hu.symm.trans hu'
      | front _ _ _ => rfl

theorem SetClass.takes_iff (c : SetClass) (name : String) (count : Nat) (m : Method) :
    c.Takes name count m ↔ c.method? name = some m ∧ ∃ ps, m.taken = .ok ps ∧ ps.length = count := by
  have hcount : ∀ {ps}, m.taken = .ok ps → m.written.length - m.own.length = ps.length := by
    intro ps hps
    rw [Method.written_eq_own_append hps, List.length_append, Nat.add_sub_cancel_left]
  rw [SetClass.method?_eq_some_iff]
  constructor
  · intro h
    obtain ⟨ps, hps⟩ := m.exists_taken_iff.mpr h.tells
    exact ⟨h.means, ps, hps, (hcount hps).symm.trans h.count_eq⟩
  · rintro ⟨hmeans, ps, hps, rfl⟩
    exact ⟨hmeans, m.exists_taken_iff.mp ⟨ps, hps⟩, hcount hps⟩

/-! ## Declared types -/

theorem declaredTypes_eq_ok_iff (ds : List Declared) (ts : List TypeName) :
    declaredTypes ds = .ok ts ↔ ds = ts.map .type := by
  induction ds generalizing ts with
  | nil => cases ts <;> simp [declaredTypes]
  | cons d ds ih =>
    cases d with
    | value v => cases ts <;> simp [declaredTypes]
    | type t =>
      rw [declaredTypes]
      cases ts with
      | nil => cases declaredTypes ds <;> simp [Except.map]
      | cons u us =>
        rw [List.map_cons, List.cons.injEq, Declared.type.injEq, ← ih]
        cases declaredTypes ds <;> simp [Except.map]

/-- The first value that is no type is reported. -/
theorem declaredTypes_eq_error_iff (ds : List Declared) (v : Value) :
    declaredTypes ds = .error v ↔
      ∃ (before : List TypeName) (after : List Declared),
        ds = before.map .type ++ .value v :: after := by
  induction ds with
  | nil => simp [declaredTypes]
  | cons d ds ih =>
    cases d with
    | value w =>
      rw [declaredTypes, Except.error.injEq]
      constructor
      · rintro rfl
        exact ⟨[], ds, rfl⟩
      · rintro ⟨before, after, h⟩
        cases before with
        | nil => exact Declared.value.inj (List.cons.inj h).1
        | cons t before => simp at h
    | type t =>
      have hmap : (declaredTypes ds).map (t :: ·) = .error v ↔ declaredTypes ds = .error v := by
        cases declaredTypes ds <;> simp [Except.map]
      rw [declaredTypes, hmap, ih]
      constructor
      · rintro ⟨before, after, rfl⟩
        exact ⟨t :: before, after, rfl⟩
      · rintro ⟨before, after, h⟩
        cases before with
        | nil => simp at h
        | cons u before => exact ⟨before, after, (List.cons.inj h).2⟩

/-! ## Entries -/

/-- What is wrong with an entry: its name, the method that it names, that the method does not tell its
parameters, the number of types that it declares, or the first of them that is none. The first of these
is reported. -/
inductive Entry.Flaw (c : SetClass) (space : String) (e : Entry) : DeclarationError → Prop where
  | name : (∀ s, ¬ e.name.IsIdentifier s) → Flaw c space e (.invalidName e.name space)
  | method {name : String} : e.name.IsIdentifier name →
      (∀ m, ¬ c.Means e.method m) → Flaw c space e (.noMethod space name e.method c.name)
  | untold {name : String} {m : Method} {x : Raised} : e.name.IsIdentifier name →
      c.Means e.method m → m.Conceals x → Flaw c space e (.untold x)
  | arity {name : String} {m : Method} {taken : Nat} : e.name.IsIdentifier name →
      c.Takes e.method taken m → taken ≠ e.params.length →
      Flaw c space e (.arityMismatch space name taken e.params.length)
  | param {name : String} {m : Method} {before : List TypeName} {v : Value}
      {after : List Declared} : e.name.IsIdentifier name → c.Takes e.method e.params.length m →
      e.params = before.map .type ++ .value v :: after →
      Flaw c space e (.invalidType v space name)
  | returns {name : String} {m : Method} {params : List TypeName} {v : Value} :
      e.name.IsIdentifier name → c.Takes e.method e.params.length m → e.params = params.map .type →
      e.returns = .value v → Flaw c space e (.invalidType v space name)

variable {c : SetClass} {space : String} {e : Entry}

/-- An entry has a descriptor or a flaw. -/
theorem exists_describes_or_flaw (c : SetClass) (space : String) (e : Entry) :
    (∃ d, Describes c space e d) ∨ ∃ err, e.Flaw c space err := by
  by_cases hname : ∃ s, e.name.IsIdentifier s
  swap
  · exact .inr ⟨_, .name (not_exists.mp hname)⟩
  obtain ⟨name, hname⟩ := hname
  by_cases hm : ∃ m, c.Means e.method m
  swap
  · exact .inr ⟨_, .method hname (not_exists.mp hm)⟩
  obtain ⟨m, hm⟩ := hm
  rcases m.tells_or_conceals with ⟨htells, -⟩ | ⟨x, hx, -⟩
  swap
  · exact .inr ⟨_, .untold hname hm hx⟩
  by_cases harity : m.written.length - m.own.length = e.params.length
  swap
  · exact .inr ⟨_, .arity hname ⟨hm, htells, rfl⟩ harity⟩
  cases hparams : declaredTypes e.params with
  | error v =>
    obtain ⟨before, after, hsplit⟩ := (declaredTypes_eq_error_iff _ _).mp hparams
    exact .inr ⟨_, .param hname ⟨hm, htells, harity⟩ hsplit⟩
  | ok params =>
    have htypes := (declaredTypes_eq_ok_iff _ _).mp hparams
    cases hreturns : e.returns with
    | value v => exact .inr ⟨_, .returns hname ⟨hm, htells, harity⟩ htypes hreturns⟩
    | type returns =>
      have htaken : m.written.length - m.own.length = params.length := by
        rw [harity, htypes, List.length_map]
      exact .inl ⟨⟨space, name, e.method, params, returns, e.deprecated,
        Text.collapse (m.doc.getD "")⟩, rfl, hname, rfl, htypes, hreturns, rfl, m,
        ⟨hm, htells, htaken⟩, rfl⟩

/-- Where the name and the method are right, the types decide. -/
theorem describe_of_takes {name : String} {m : Method} (hname : e.name.IsIdentifier name)
    (hm : c.Takes e.method e.params.length m) :
    c.describe space e = match declaredTypes e.params, e.returns with
      | .error v, _ => .error (.invalidType v space name)
      | .ok _, .value v => .error (.invalidType v space name)
      | .ok params, .type returns =>
        .ok { space, name, method := e.method, params, returns, deprecated := e.deprecated
              description := Text.collapse (m.doc.getD "") } := by
  obtain ⟨hm, ps, hps, harity⟩ := (c.takes_iff _ _ _).mp hm
  rw [SetClass.describe, (name?_eq_some_iff _ _).mpr hname]
  simp only [hm, hps]
  exact if_neg (not_not.mpr harity)

theorem Describes.describe_eq {d : Descriptor} (h : Describes c space e d) :
    c.describe space e = .ok d := by
  obtain ⟨m, hm, hdescription⟩ := h.method
  have htakes : c.Takes e.method e.params.length m := by
    rw [h.params, List.length_map]
    exact hm
  rw [describe_of_takes h.name htakes, (declaredTypes_eq_ok_iff _ _).mpr h.params, h.returns]
  dsimp only
  rw [← hdescription, ← h.deprecated, ← h.method_eq, ← h.space_eq]

theorem Entry.Flaw.describe_eq {err : DeclarationError} (h : e.Flaw c space err) :
    c.describe space e = .error err := by
  cases h with
  | name hname => rw [SetClass.describe, (name?_eq_none_iff _).mpr hname]
  | method hname hnone =>
    have hm : c.method? e.method = none := by
      refine Option.eq_none_iff_forall_ne_some.mpr fun m hm => ?_
      exact hnone m ((c.method?_eq_some_iff _ _).mp hm)
    rw [SetClass.describe, (name?_eq_some_iff _ _).mpr hname]
    dsimp only
    rw [hm]
  | @untold name m x hname hmeans hconceals =>
    rw [SetClass.describe, (name?_eq_some_iff _ _).mpr hname]
    simp only [(c.method?_eq_some_iff _ _).mpr hmeans, (m.taken_eq_error_iff x).mpr hconceals]
  | arity hname htakes harity =>
    obtain ⟨hm, ps, hps, rfl⟩ := (c.takes_iff _ _ _).mp htakes
    rw [SetClass.describe, (name?_eq_some_iff _ _).mpr hname]
    simp only [hm, hps]
    rw [if_pos harity]
  | param hname htakes hsplit =>
    rw [describe_of_takes hname htakes, (declaredTypes_eq_error_iff _ _).mpr ⟨_, _, hsplit⟩]
  | returns hname htakes htypes hreturns =>
    rw [describe_of_takes hname htakes, (declaredTypes_eq_ok_iff _ _).mpr htypes, hreturns]

/-- A well-formed entry has no flaw. -/
theorem Entry.Flaw.not_wellFormed {err : DeclarationError} (h : e.Flaw c space err) :
    ¬ e.WellFormed c := by
  intro hwell
  obtain ⟨s, hs⟩ := hwell.name
  obtain ⟨m, hm⟩ := hwell.method
  cases h with
  | name hname => exact hname s hs
  | method hname hnone => exact hnone m hm.means
  | untold hname hmeans hconceals =>
    obtain rfl := hmeans.unique hm.means
    exact hm.tells.not_conceals hconceals
  | arity hname htakes harity =>
    obtain rfl := htakes.means.unique hm.means
    exact harity (htakes.count_eq.symm.trans hm.count_eq)
  | param hname htakes hsplit =>
    have htype := hwell.params _ (hsplit ▸ List.mem_append_right _ List.mem_cons_self)
    cases htype
  | returns hname htakes htypes hreturns =>
    have htype := hwell.returns
    rw [hreturns] at htype
    cases htype

theorem describe_eq_ok_iff (d : Descriptor) :
    c.describe space e = .ok d ↔ Describes c space e d := by
  refine ⟨fun h => ?_, Describes.describe_eq⟩
  -- there is a descriptor or a flaw, and the check cannot come to both
  rcases exists_describes_or_flaw c space e with ⟨d', hd⟩ | ⟨err, hflaw⟩
  · rw [hd.describe_eq, Except.ok.injEq] at h
    exact h ▸ hd
  · rw [hflaw.describe_eq] at h
    cases h

theorem describe_eq_error_iff (err : DeclarationError) :
    c.describe space e = .error err ↔ e.Flaw c space err := by
  refine ⟨fun h => ?_, Entry.Flaw.describe_eq⟩
  rcases exists_describes_or_flaw c space e with ⟨d, hd⟩ | ⟨err', hflaw⟩
  · rw [hd.describe_eq] at h
    cases h
  · rw [hflaw.describe_eq, Except.error.injEq] at h
    exact h ▸ hflaw

/-- The well-formed entries are those that a descriptor describes. -/
theorem exists_describes_iff (c : SetClass) (space : String) (e : Entry) :
    (∃ d, Describes c space e d) ↔ e.WellFormed c := by
  constructor
  · rintro ⟨d, h⟩
    obtain ⟨m, hm, -⟩ := h.method
    refine ⟨⟨d.name, h.name⟩, ⟨m, ?_⟩, fun p hp => ?_, ?_⟩
    · rw [h.params, List.length_map]
      exact hm
    · rw [h.params] at hp
      obtain ⟨t, -, rfl⟩ := List.mem_map.mp hp
      rfl
    · rw [h.returns]
      rfl
  · intro h
    refine (exists_describes_or_flaw c space e).resolve_right ?_
    rintro ⟨err, hflaw⟩
    exact hflaw.not_wellFormed h

/-! ## Classes -/

/-- What is wrong with a class: its namespace, its description, or the first entry in its table that
has a flaw. The first of these is reported. -/
inductive SetClass.Flaw (c : SetClass) (given : Option String) : DeclarationError → Prop where
  | space : (∀ s, ¬ c.space.IsIdentifier s) → Flaw c given (.invalidNamespace c.space c.name)
  | description {s : String} : c.space.IsIdentifier s → (∀ text, ¬ c.DescribedBy given text) →
      Flaw c given (.noDescription c.name)
  | entry {s text : String} {before after : List Entry} {e : Entry} {err : DeclarationError} :
      c.space.IsIdentifier s → c.DescribedBy given text → c.entries = before ++ e :: after →
      (∀ b ∈ before, b.WellFormed c) → e.Flaw c s err → Flaw c given err

/-- The plugin says of the class what the class declares, entry by entry. -/
structure Plugin.Declares (p : Plugin) (id : Nat) (given : Option String) (c : SetClass) :
    Prop where
  id_eq : p.id = id
  cls_eq : p.cls = c
  space : c.space.IsIdentifier p.space
  description : c.DescribedBy given p.description
  descriptors : List.Forall₂ (Describes c p.space) c.entries p.descriptors

variable {id : Nat} {given : Option String}

theorem orElse_descriptionOf_eq_some_iff (c : SetClass) (given : Option String) (text : String) :
    (given <|> Plugin.descriptionOf c) = some text ↔ c.DescribedBy given text := by
  unfold SetClass.DescribedBy
  cases given with
  | some s => simp
  | none =>
    unfold Plugin.descriptionOf
    cases c.doc with
    | none => simp
    | some doc =>
      by_cases hbase : doc = baseDoc
      · simp [hbase]
      · simp [hbase, eq_comm]

/-- Where the namespace and the description are right, the entries decide. -/
theorem ofClass_of_described {s text : String} (hspace : c.space.IsIdentifier s)
    (hdescribed : c.DescribedBy given text) :
    Plugin.ofClass id given c =
      (c.entries.mapM (c.describe s)).map fun ds => ⟨id, s, c, text, ds⟩ := by
  rw [Plugin.ofClass, (name?_eq_some_iff _ _).mpr hspace]
  dsimp only
  rw [(orElse_descriptionOf_eq_some_iff _ _ _).mpr hdescribed]
  rfl

theorem SetClass.Flaw.ofClass_eq {err : DeclarationError} (h : c.Flaw given err) :
    Plugin.ofClass id given c = .error err := by
  cases h with
  | space hspace => rw [Plugin.ofClass, (name?_eq_none_iff _).mpr hspace]
  | description hspace hnone =>
    have hdescription : (given <|> Plugin.descriptionOf c) = none := by
      refine Option.eq_none_iff_forall_ne_some.mpr fun text htext => ?_
      exact hnone text ((orElse_descriptionOf_eq_some_iff _ _ _).mp htext)
    rw [Plugin.ofClass, (name?_eq_some_iff _ _).mpr hspace]
    dsimp only
    rw [hdescription]
  | @entry s text before after e err hspace hdescribed hsplit hbefore hflaw =>
    have herr : c.entries.mapM (c.describe s) = .error err := by
      refine (mapM_eq_error_iff _ _ _).mpr ⟨before, e, after, hsplit, fun b hb => ?_,
        hflaw.describe_eq⟩
      obtain ⟨d, hd⟩ := (exists_describes_iff c s b).mpr (hbefore b hb)
      exact ⟨d, hd.describe_eq⟩
    rw [ofClass_of_described hspace hdescribed, herr]
    rfl

theorem Plugin.Declares.ofClass_eq {p : Plugin} (h : p.Declares id given c) :
    ofClass id given c = .ok p := by
  have hds : c.entries.mapM (c.describe p.space) = .ok p.descriptors :=
    (mapM_eq_ok_iff _ _ _).mpr (h.descriptors.imp fun _ _ hd => hd.describe_eq)
  rw [ofClass_of_described h.space h.description, hds, ← h.id_eq, ← h.cls_eq]
  rfl

/-- A class has a plugin or a flaw. -/
theorem exists_declares_or_flaw (id : Nat) (given : Option String) (c : SetClass) :
    (∃ p : Plugin, p.Declares id given c) ∨ ∃ err, c.Flaw given err := by
  by_cases hspace : ∃ s, c.space.IsIdentifier s
  swap
  · exact .inr ⟨_, .space (not_exists.mp hspace)⟩
  obtain ⟨s, hspace⟩ := hspace
  by_cases hdescribed : ∃ text, c.DescribedBy given text
  swap
  · exact .inr ⟨_, .description hspace (not_exists.mp hdescribed)⟩
  obtain ⟨text, hdescribed⟩ := hdescribed
  cases hds : c.entries.mapM (c.describe s) with
  | ok ds =>
    have hall := (mapM_eq_ok_iff _ _ _).mp hds
    exact .inl ⟨⟨id, s, c, text, ds⟩, rfl, rfl, hspace, hdescribed,
      hall.imp fun _ _ hd => (describe_eq_ok_iff _).mp hd⟩
  | error err =>
    obtain ⟨before, e, after, hsplit, hbefore, he⟩ := (mapM_eq_error_iff _ _ _).mp hds
    refine .inr ⟨err, .entry hspace hdescribed hsplit (fun b hb => ?_)
      ((describe_eq_error_iff _).mp he)⟩
    obtain ⟨d, hd⟩ := hbefore b hb
    exact (exists_describes_iff c s b).mp ⟨d, (describe_eq_ok_iff _).mp hd⟩

/-- A well-formed class has no flaw. -/
theorem SetClass.Flaw.not_wellFormed {err : DeclarationError} (h : c.Flaw given err) :
    ¬ c.WellFormed given := by
  intro hwell
  cases h with
  | space hspace =>
    obtain ⟨s, hs⟩ := hwell.space
    exact hspace s hs
  | description hspace hnone =>
    obtain ⟨text, htext⟩ := hwell.description
    exact hnone text htext
  | entry hspace hdescribed hsplit hbefore hflaw =>
    exact hflaw.not_wellFormed
      (hwell.entries _ (hsplit ▸ List.mem_append_right _ List.mem_cons_self))

theorem Plugin.Declares.wellFormed {p : Plugin} (h : p.Declares id given c) :
    c.WellFormed given := by
  refine ⟨⟨_, h.space⟩, ⟨_, h.description⟩, fun e he => ?_⟩
  obtain ⟨i, hi, rfl⟩ := List.mem_iff_getElem.mp he
  have hlen := h.descriptors.length_eq
  exact (exists_describes_iff c p.space _).mp ⟨_, h.descriptors.get hi (hlen ▸ hi)⟩

theorem exists_declares_iff (id : Nat) (given : Option String) (c : SetClass) :
    (∃ p : Plugin, p.Declares id given c) ↔ c.WellFormed given := by
  constructor
  · rintro ⟨p, hp⟩
    exact hp.wellFormed
  · intro h
    refine (exists_declares_or_flaw id given c).resolve_right ?_
    rintro ⟨err, hflaw⟩
    exact hflaw.not_wellFormed h

/-! ## What is offered -/

/-- What is wrong with what is offered as a function set. -/
inductive Candidate.Flaw (given : Option String) : Candidate → DeclarationError → Prop where
  | notASet (stray : Stray) : Flaw given (.other stray) (.notASet stray)
  | set {c : SetClass} {err : DeclarationError} : c.Flaw given err → Flaw given (.set c) err

theorem ofCandidate_eq_ok_iff (id : Nat) (given : Option String) (offered : Candidate)
    (p : Plugin) :
    Plugin.ofCandidate id given offered = .ok p ↔
      ∃ c, offered = .set c ∧ p.Declares id given c := by
  cases offered with
  | other stray =>
    refine iff_of_false (fun h => ?_) ?_
    · cases h
    · rintro ⟨c, hc, -⟩
      cases hc
  | set c =>
    simp only [Candidate.set.injEq, exists_eq_left', Plugin.ofCandidate]
    refine ⟨fun h => ?_, Plugin.Declares.ofClass_eq⟩
    rcases exists_declares_or_flaw id given c with ⟨q, hq⟩ | ⟨err, hflaw⟩
    · rw [hq.ofClass_eq, Except.ok.injEq] at h
      exact h ▸ hq
    · rw [hflaw.ofClass_eq] at h
      cases h

theorem ofCandidate_eq_error_iff (id : Nat) (given : Option String) (offered : Candidate)
    (err : DeclarationError) :
    Plugin.ofCandidate id given offered = .error err ↔ offered.Flaw given err := by
  constructor
  · intro h
    cases offered with
    | other stray =>
      rw [← Except.error.inj h]
      exact .notASet stray
    | set c =>
      rw [Plugin.ofCandidate] at h
      rcases exists_declares_or_flaw id given c with ⟨q, hq⟩ | ⟨err', hflaw⟩
      · rw [hq.ofClass_eq] at h
        cases h
      · rw [hflaw.ofClass_eq, Except.error.injEq] at h
        exact .set (h ▸ hflaw)
  · intro h
    cases h with
    | notASet stray => rfl
    | set hflaw => exact hflaw.ofClass_eq

/-! ## What is raised -/

/-- There is a message, and all that it shows can be shown. -/
def DeclarationError.Tellable : DeclarationError → Prop
  | notASet given => given.obstacle? = none
  | invalidNamespace v _ | invalidName v _ | invalidType v _ _ => v.Showable
  | noDescription _ | noMethod .. | arityMismatch .. => True
  | untold _ => False

theorem DeclarationError.tellable_iff (err : DeclarationError) :
    err.Tellable ↔ err.obstacle? = none ∧ ∀ x, err ≠ .untold x := by
  cases err with
  | notASet given => simp [Tellable, obstacle?]
  | invalidNamespace v cls => simp [Tellable, obstacle?, v.obstacle?_eq_none_iff]
  | invalidName v space => simp [Tellable, obstacle?, v.obstacle?_eq_none_iff]
  | invalidType v space function => simp [Tellable, obstacle?, v.obstacle?_eq_none_iff]
  | untold x => exact iff_of_false id fun h => h.2 x rfl
  | _ => exact iff_of_true trivial ⟨rfl, nofun⟩

/-- A wrong declaration is reported, unless the message has to show a value that cannot be shown, or a
method does not tell its parameters; then that is raised. -/
theorem DeclarationError.raised_eq_iff (err : DeclarationError) (x : Raised) :
    err.raised = x ↔ err.Tellable ∧ x = .fault (.of .functionSet err.message) ∨
      ¬ err.Tellable ∧ (err.obstacle?.map .ofObstacle = some x ∨ err = .untold x) := by
  by_cases huntold : ∃ y, err = .untold y
  · obtain ⟨y, rfl⟩ := huntold
    simp [raised, Tellable, obstacle?]
  · have hne := not_exists.mp huntold
    have hraised : err.raised =
        (err.obstacle?.map .ofObstacle).getD (.fault (.of .functionSet err.message)) := by
      cases err with
      | untold y => exact absurd rfl (hne y)
      | _ => unfold raised; split <;> simp_all
    rw [err.tellable_iff, hraised]
    cases err.obstacle? with
    | none => simp [hne, eq_comm]
    | some o => simp [hne]

/-- What is offered gives a plugin exactly if it is a well-formed class, and the plugin says what
the class declares, entry by entry. Of anything else the first flaw is reported, unless its message has
to show a value that cannot be shown, or there is a method that does not tell its parameters: then what
stands against that is raised. -/
theorem ofCandidate_outcome (id : Nat) (given : Option String) (offered : Candidate) :
    ((∃ p, Plugin.ofCandidate id given offered = .ok p) ↔
        ∃ c, offered = .set c ∧ c.WellFormed given) ∧
      (∀ p, Plugin.ofCandidate id given offered = .ok p ↔
        ∃ c, offered = .set c ∧ p.Declares id given c) ∧
      ∀ x, (∃ err, Plugin.ofCandidate id given offered = .error err ∧ err.raised = x) ↔
        ∃ err, offered.Flaw given err ∧
          (err.Tellable ∧ x = .fault (.of .functionSet err.message) ∨
            ¬ err.Tellable ∧ (err.obstacle?.map .ofObstacle = some x ∨ err = .untold x)) := by
  refine ⟨?accepted, ofCandidate_eq_ok_iff id given offered, fun x => ?refused⟩
  case accepted =>
    simp only [ofCandidate_eq_ok_iff, ← exists_declares_iff id]
    exact exists_comm.trans (exists_congr fun c => exists_and_left)
  case refused =>
    simp only [ofCandidate_eq_error_iff, DeclarationError.raised_eq_iff]

/-- A class that has a task builder in place of a namespace, and one whose assembly has no name. -/
def builderClass : SetClass :=
  { id := 1, name := "TestSet", file := .ok "", space := .taskBuilder 0 "t" (.text "x") ""
    doc := some "A test set.", entries := [], attributes := .empty, construct := fun _ => .ok .empty }

/-- The namespace is refused, and what is raised is no fault of a declaration. -/
theorem builderClass_escapes :
    ∃ err, Plugin.ofCandidate 1 none (.set builderClass) = .error err ∧
      err.raised = .ofText "AttributeError" "'str' object has no attribute 'name'" ∧
      ∀ message, err.raised ≠ .fault (.of .functionSet message) :=
  ⟨.invalidNamespace (.taskBuilder 0 "t" (.text "x") "") "TestSet", rfl, rfl, nofun⟩

end BuildScript
