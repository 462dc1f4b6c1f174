import BuildScript.Proofs.Dispatch.History
import BuildScript.Proofs.Number.Numerals
import BuildScript.Proofs.Registry.Declarations
import BuildScript.Proofs.Text.Joining

/-!
What can be read off a signature. Names hold none of the marks that stand between them, so a signature falls into its
parts in one way only: the namespace up to the first colon, the name up to the parenthesis, and the types of the
parameters between commas. Main statement: `signature_eq_iff`, that descriptors of checked plugins have the same
signature exactly if namespace, name and the names of all types are the same. Types of the same name are not told apart.
-/

namespace BuildScript

/-! ## Names -/

theorem IsIdentifier.not_mem {s : String} (h : IsIdentifier s) {c : Char} (hsmall : ¬('a' ≤ c ∧ c ≤ 'z'))
    (hdigit : ¬('0' ≤ c ∧ c ≤ '9')) (hhyphen : c ≠ '-') : c ∉ s.toList := by
  obtain ⟨first, rest, hs, hfirst, hrest⟩ := h
  rw [hs, List.mem_cons]
  rintro (rfl | hc)
  · exact hsmall hfirst
  · rcases hrest c hc with h | h | h
    · exact hsmall h
    · exact hdigit h
    · exact hhyphen h

/-- The names of types hold none of the marks. -/
theorem TypeName.not_mem_name (t : TypeName) {c : Char} (hc : c ∈ ['(', ')', ',', ':']) : c ∉ t.name.toList := by
  intro hmem
  have hname := t.isClassName_name
  rw [isClassName, Bool.and_eq_true, List.all_eq_true] at hname
  have hmark := hname.2 c hmem
  rw [Bool.and_eq_true, decide_eq_true_eq] at hmark
  exact hmark.2 hc

namespace Descriptor

theorem not_mem_of_defaultNames {count : Nat} {name : String} (h : name ∈ defaultNames count) {c : Char}
    (hc : c ∈ [',', ')']) : c ∉ name.toList := by
  obtain ⟨i, -, rfl⟩ := List.mem_map.mp h
  have hplain : ∀ c ∈ [',', ')'], c ∉ "arg".toList ∧ Number.isDigitOrLine c = false :=
    List.forall_mem_cons.mpr ⟨by decide +kernel, List.forall_mem_singleton.mpr (by decide +kernel)⟩
  obtain ⟨hword, hdigit⟩ := hplain c hc
  have hnumber : (Number.natText (i + 1)).toList = Number.natChars (i + 1) := String.toList_ofList
  rw [String.toList_append, hnumber, List.mem_append, not_or]
  exact ⟨hword, Number.not_mem_natChars _ hdigit⟩

/-! ## The parts of a signature -/

/-- What a signature says of a parameter. -/
def parameterChars (name : String) (t : TypeName) : List Char := name.toList ++ ':' :: ' ' :: t.name.toList

/-- What a signature says of each parameter. -/
def parameters (d : Descriptor) : List (List Char) := List.zipWith parameterChars (defaultNames d.arity) d.params

theorem toList_signature (d : Descriptor) :
    d.signature.toList = d.space.toList ++ ':' :: ':' :: (d.name.toList ++ '(' ::
      ([',', ' '].intercalate d.parameters ++ ')' :: (" -> ".toList ++ d.returns.name.toList))) := by
  have hpart : ∀ n (t : TypeName), (n ++ ": " ++ t.name).toList = parameterChars n t := by
    intro n t
    rw [String.toList_append, String.toList_append, List.append_assoc]
    rfl
  have hjoined : (", ".intercalate (List.zipWith (fun n (t : TypeName) => n ++ ": " ++ t.name)
      (defaultNames d.arity) d.params)).toList = [',', ' '].intercalate d.parameters := by
    rw [String.toList_intercalate, List.map_zipWith]
    simp only [hpart]
    rfl
  rw [signature, signatureWith, qualified, qualifiedName]
  simp only [String.toList_append, List.append_assoc, hjoined]
  rfl

/-- Neither a comma nor a parenthesis stands in what is said of a parameter. -/
theorem not_mem_of_parameters {d : Descriptor} {part : List Char} (h : part ∈ d.parameters) {c : Char}
    (hc : c ∈ [',', ')']) : c ∉ part := by
  rw [parameters, ← List.map_uncurry_zip_eq_zipWith] at h
  obtain ⟨⟨n, t⟩, hmem, rfl⟩ := List.mem_map.mp h
  have hname : c ∉ n.toList := not_mem_of_defaultNames (List.of_mem_zip hmem).1 hc
  have hmarks : ∀ c ∈ [',', ')'], c ∈ ['(', ')', ',', ':'] ∧ c ≠ ':' ∧ c ≠ ' ' :=
    List.forall_mem_cons.mpr ⟨by decide, List.forall_mem_singleton.mpr (by decide)⟩
  have htype : c ∉ t.name.toList := t.not_mem_name (hmarks c hc).1
  show c ∉ n.toList ++ ':' :: ' ' :: t.name.toList
  rw [List.mem_append, List.mem_cons, List.mem_cons]
  rintro (h | h | h | h)
  · exact hname h
  · exact (hmarks c hc).2.1 h
  · exact (hmarks c hc).2.2 h
  · exact htype h

theorem listable_parameters (d : Descriptor) : Listable d.parameters := by
  intro part hpart
  refine ⟨fun hnil => ?_, not_mem_of_parameters hpart (by decide)⟩
  rw [parameters, ← List.map_uncurry_zip_eq_zipWith] at hpart
  obtain ⟨⟨n, t⟩, -, rfl⟩ := List.mem_map.mp hpart
  exact List.append_ne_nil_of_right_ne_nil _ (List.cons_ne_nil _ _) hnil

theorem length_parameters (d : Descriptor) : d.parameters.length = d.arity := by
  rw [parameters, List.length_zipWith, defaultNames, List.length_map, List.length_range, arity, Nat.min_self]

theorem name_eq_of_parameterChars {n : String} {t t' : TypeName} (h : parameterChars n t = parameterChars n t') :
    t.name = t'.name := by
  have hback := List.append_cancel_left h
  exact String.toList_inj.mp (List.cons.inj (List.cons.inj hback).2).2

/-- What is said of the parameters tells the names of their types. -/
theorem map_name_of_zipWith {names : List String} {ts ts' : List TypeName} (hts : ts.length ≤ names.length)
    (hts' : ts'.length ≤ names.length)
    (h : List.zipWith parameterChars names ts = List.zipWith parameterChars names ts') :
    ts.map (·.name) = ts'.map (·.name) := by
  induction names generalizing ts ts' with
  | nil =>
    rw [List.eq_nil_of_length_eq_zero (Nat.le_zero.mp hts), List.eq_nil_of_length_eq_zero (Nat.le_zero.mp hts')]
  | cons n names ih =>
    cases ts with
    | nil =>
      cases ts' with
      | nil => rfl
      | cons t' ts' => cases h
    | cons t ts =>
      cases ts' with
      | nil => cases h
      | cons t' ts' =>
        obtain ⟨hhead, htail⟩ := List.cons.inj h
        rw [List.map_cons, List.map_cons, name_eq_of_parameterChars hhead,
          ih (Nat.le_of_succ_le_succ hts) (Nat.le_of_succ_le_succ hts') htail]

theorem map_name_of_parameters {d d' : Descriptor} (h : d.parameters = d'.parameters) :
    d.params.map (·.name) = d'.params.map (·.name) := by
  have harity : d.arity = d'.arity := by rw [← length_parameters, h, length_parameters]
  have hlen : ∀ d : Descriptor, d.params.length ≤ (defaultNames d.arity).length := by
    intro d
    rw [defaultNames, List.length_map, List.length_range]
    exact Nat.le_refl _
  unfold parameters at h
  rw [← harity] at h
  exact map_name_of_zipWith (hlen d) (harity ▸ hlen d') h

/-- The names that a signature shows. -/
structure SameNames (d d' : Descriptor) : Prop where
  space : d.space = d'.space
  name : d.name = d'.name
  arity : d.arity = d'.arity
  params : d.params.map (·.name) = d'.params.map (·.name)
  returns : d.returns.name = d'.returns.name

theorem SameNames.parameters_eq {d d' : Descriptor} (h : d.SameNames d') : d.parameters = d'.parameters := by
  have hmap : ∀ names (ts : List TypeName), List.zipWith parameterChars names ts =
      List.zipWith (fun n (name : String) => n.toList ++ ':' :: ' ' :: name.toList) names (ts.map (·.name)) := by
    intro names ts
    rw [List.zipWith_map_right]
    rfl
  rw [parameters, parameters, hmap, hmap, h.arity, h.params]

/-- A signature with names for namespace and function falls into its parts in one way. -/
theorem signature_eq_iff_sameNames {d d' : Descriptor} (hspace : IsIdentifier d.space)
    (hspace' : IsIdentifier d'.space) (hname : IsIdentifier d.name) (hname' : IsIdentifier d'.name) :
    d.signature = d'.signature ↔ d.SameNames d' := by
  rw [← String.toList_inj, toList_signature, toList_signature]
  constructor
  · intro h
    have hcolon : ∀ {s : String}, IsIdentifier s → ':' ∉ s.toList := fun h =>
      h.not_mem (by decide) (by decide) (by decide)
    have hopen : ∀ {s : String}, IsIdentifier s → '(' ∉ s.toList := fun h =>
      h.not_mem (by decide) (by decide) (by decide)
    have hclose : ∀ d : Descriptor, ')' ∉ [',', ' '].intercalate d.parameters := fun d =>
      not_mem_intercalate (by decide) fun part hpart => not_mem_of_parameters hpart (by decide)
    obtain ⟨hs, hrest⟩ := append_cons_inj (hcolon hspace) (hcolon hspace') h
    obtain ⟨hn, hrest⟩ := append_cons_inj (hopen hname) (hopen hname') (List.cons.inj hrest).2
    obtain ⟨hp, hrest⟩ := append_cons_inj (hclose d) (hclose d') hrest
    have hparameters := intercalate_inj d.listable_parameters d'.listable_parameters hp
    exact
      { space := String.toList_inj.mp hs
        name := String.toList_inj.mp hn
        arity := by rw [← length_parameters, hparameters, length_parameters]
        params := map_name_of_parameters hparameters
        returns := String.toList_inj.mp (List.append_cancel_left hrest) }
  · intro h
    rw [h.space, h.name, h.parameters_eq, h.returns]

end Descriptor

namespace Plugin.Checked

variable {p : Plugin}

theorem isIdentifier_space (h : p.Checked) {d : Descriptor} (hd : d ∈ p.descriptors) : IsIdentifier d.space := by
  rw [h.space_of_mem hd]
  obtain ⟨id, given, offered, hp⟩ := h
  obtain ⟨c, -, hdeclares⟩ := (ofCandidate_eq_ok_iff id given offered p).mp hp
  exact hdeclares.space.2

theorem isIdentifier_name (h : p.Checked) {d : Descriptor} (hd : d ∈ p.descriptors) : IsIdentifier d.name := by
  obtain ⟨e, -, he⟩ := h.entry_of_mem hd
  exact ((describe_eq_ok_iff d).mp he).name.2

end Plugin.Checked

/-- Descriptors of checked plugins have the same signature exactly if they have the same namespace, name and number of
parameters, and the types of their parameters and of what they return have the same names. -/
theorem signature_eq_iff {p p' : Plugin} (hp : p.Checked) (hp' : p'.Checked) {d d' : Descriptor}
    (hd : d ∈ p.descriptors) (hd' : d' ∈ p'.descriptors) :
    d.signature = d'.signature ↔ d.space = d'.space ∧ d.name = d'.name ∧ d.arity = d'.arity ∧
      d.params.map (·.name) = d'.params.map (·.name) ∧ d.returns.name = d'.returns.name := by
  rw [Descriptor.signature_eq_iff_sameNames (hp.isIdentifier_space hd) (hp'.isIdentifier_space hd')
    (hp.isIdentifier_name hd) (hp'.isIdentifier_name hd')]
  constructor
  · intro h
    exact ⟨h.space, h.name, h.arity, h.params, h.returns⟩
  · rintro ⟨hspace, hname, harity, hparams, hreturns⟩
    exact ⟨hspace, hname, harity, hparams, hreturns⟩

/-- A class of the host, of which there are others with the same name. -/
def thing (id : Nat) : TypeName := .host ⟨id, "shop", "Thing", by decide⟩

/-- Two classes of one name give the same signature, and in another order they do not. -/
theorem signature_eq_iff_things :
    soleDescriptor [thing 1, .int] ∈ (solePlugin 1 [thing 1, .int] (.ok .none)).1.descriptors ∧
      soleDescriptor [thing 2, .int] ∈ (solePlugin 2 [thing 2, .int] (.ok .none)).1.descriptors ∧
      soleDescriptor [.int, thing 2] ∈ (solePlugin 3 [.int, thing 2] (.ok .none)).1.descriptors ∧
      thing 1 ≠ thing 2 ∧ (soleDescriptor [thing 1, .int]).signature = "n::f(arg1: Thing, arg2: int) -> str" ∧
      (soleDescriptor [thing 1, .int]).signature = (soleDescriptor [thing 2, .int]).signature ∧
      (soleDescriptor [thing 1, .int]).signature ≠ (soleDescriptor [.int, thing 2]).signature := by
  have htext : (soleDescriptor [thing 1, .int]).signature = "n::f(arg1: Thing, arg2: int) -> str" := by
    decide +kernel
  have hfirst := (solePlugin 1 [thing 1, .int] (.ok .none)).2
  have hsame := signature_eq_iff hfirst (solePlugin 2 [thing 2, .int] (.ok .none)).2 List.mem_cons_self
    List.mem_cons_self
  have hother := signature_eq_iff hfirst (solePlugin 3 [.int, thing 2] (.ok .none)).2 List.mem_cons_self
    List.mem_cons_self
  refine ⟨List.mem_cons_self, List.mem_cons_self, List.mem_cons_self, by decide, htext,
    hsame.mpr ⟨rfl, rfl, rfl, rfl, rfl⟩, fun h => ?_⟩
  obtain ⟨-, -, -, hparams, -⟩ := hother.mp h
  exact absurd hparams (by decide)

end BuildScript
