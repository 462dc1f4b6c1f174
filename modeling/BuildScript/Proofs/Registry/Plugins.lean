import BuildScript.FunctionSet.Plugin
import BuildScript.Proofs.Traversal

/-!
What the check of a declaration guarantees. Main statements: the descriptors of a checked plugin
stand under the namespace of the plugin (`Checked.space_of_mem`), and each of them names a method
that the class has, with as many parameters for arguments as the descriptor has types
(`Checked.method_of_mem`). Whether a set has the method too, and takes so many arguments by their place,
is in `Dispatch.Stages`.
-/

namespace BuildScript

namespace Method

theorem eq_append_of_withoutClass {ps qs : List Parameter} (h : withoutClass ps = .ok qs) :
    ps = (ps.take 1).filter (·.kind = .positional) ++ qs := by
  cases ps with
  | nil => cases h
  | cons p ps =>
    unfold withoutClass at h
    dsimp only at h
    cases hk : p.kind <;> rw [hk] at h <;> cases h <;> simp [hk]

/-- What a method is called on stands in front of the parameters that take arguments. -/
theorem written_eq_own_append {m : Method} {ps : List Parameter} (h : m.taken = .ok ps) :
    m.written = m.own ++ ps := by
  unfold taken listed at h
  unfold own
  cases hu : m.untold with
  | some e => cases hr : m.receiver <;> simp [hu, hr, Except.map] at h
  | none =>
    cases hr : m.receiver with
    | boundSet =>
      simp only [hu, hr, Except.map, Except.ok.injEq] at h
      rw [← h]
      exact (List.take_append_drop 1 m.written).symm
    | ownClass =>
      simp only [hu, hr] at h
      exact eq_append_of_withoutClass h
    | nothing =>
      simp only [hu, hr, Except.ok.injEq] at h
      exact h

/-- The parameters that take arguments are the last of those that are listed. -/
theorem exists_listed {m : Method} {ps : List Parameter} (h : m.taken = .ok ps) :
    ∃ ls, m.listed = .ok ls ∧ ps <:+ ls := by
  unfold taken at h
  cases hr : m.receiver with
  | boundSet =>
    rw [hr] at h
    cases hl : m.listed with
    | error e => simp [hl, Except.map] at h
    | ok ls =>
      simp only [hl, Except.map, Except.ok.injEq] at h
      exact ⟨ls, rfl, h ▸ List.drop_suffix 1 ls⟩
  | ownClass | nothing =>
    rw [hr] at h
    exact ⟨ps, h, List.suffix_refl ps⟩

end Method

theorem length_of_declaredTypes {ds : List Declared} {ts : List TypeName}
    (h : declaredTypes ds = .ok ts) : ts.length = ds.length := by
  induction ds generalizing ts with
  | nil => cases h; rfl
  | cons d ds ih =>
    cases d with
    | value v => cases h
    | type t =>
      cases hds : declaredTypes ds with
      | error v => simp [declaredTypes, hds, Except.map] at h
      | ok us =>
        simp only [declaredTypes, hds, Except.map, Except.ok.injEq] at h
        rw [← h, List.length_cons, List.length_cons, ih hds]

/-- What a descriptor of an entry says of it. -/
theorem describe_eq_ok {c : SetClass} {space : String} {e : Entry} {d : Descriptor}
    (h : c.describe space e = .ok d) :
    d.space = space ∧ e.name.name? = some d.name ∧ d.method = e.method ∧
      declaredTypes e.params = .ok d.params ∧
      ∃ m ps, c.method? d.method = some m ∧ m.taken = .ok ps ∧ ps.length = d.arity := by
  unfold SetClass.describe at h
  split at h
  · cases h
  · rename_i name hname
    split at h
    · cases h
    · rename_i m hm
      split at h
      · cases h
      · rename_i taken htaken
        split at h
        · cases h
        · rename_i harity
          split at h
          · cases h
          · cases h
          · rename_i params returns hparams _
            cases h
            refine ⟨rfl, hname, rfl, hparams, m, taken, hm, htaken, ?_⟩
            rw [Descriptor.arity, length_of_declaredTypes hparams]
            exact not_not.mp harity

namespace Plugin

/-- The plugin was made of what passed the check of its declaration. -/
def Checked (p : Plugin) : Prop :=
  ∃ id description offered, ofCandidate id description offered = .ok p

/-- Where there is a type for each parameter of the method, the names are those of its parameters. -/
theorem argNames_of_method (p : Plugin) {d : Descriptor} {m : Method} {ps : List Parameter}
    (hm : p.cls.method? d.method = some m) (htaken : m.taken = .ok ps) (harity : ps.length = d.arity) :
    p.argNames d = ps.map (·.name) := by
  obtain ⟨ls, hls, hsuffix⟩ := Method.exists_listed htaken
  have hnames : ps.map (·.name) <:+ ls.map (·.name) := hsuffix.map _
  have hlength : (ps.map (·.name)).length = d.arity := by rw [List.length_map, harity]
  unfold argNames
  simp only [hm, Option.map_some, hls]
  rw [← hlength]
  exact (List.suffix_iff_eq_drop.mp hnames).symm

theorem ofClass_eq_ok {id : Nat} {description : Option String} {c : SetClass} {p : Plugin}
    (h : ofClass id description c = .ok p) :
    p.cls = c ∧ c.space.name? = some p.space ∧
      List.Forall₂ (fun e d => c.describe p.space e = .ok d) c.entries p.descriptors := by
  unfold ofClass at h
  split at h
  · cases h
  · rename_i space hspace
    split at h
    · cases h
    · rename_i text _
      cases hds : c.entries.mapM (c.describe space) with
      | error e => simp [hds, bind, Except.bind] at h
      | ok ds =>
        simp only [hds, bind, Except.bind, pure, Except.pure, Except.ok.injEq] at h
        subst h
        exact ⟨rfl, hspace, (mapM_eq_ok_iff _ _ _).mp hds⟩

namespace Checked

variable {p : Plugin}

theorem described (h : p.Checked) :
    List.Forall₂ (fun e d => p.cls.describe p.space e = .ok d) p.cls.entries p.descriptors := by
  obtain ⟨id, description, offered, h⟩ := h
  cases offered with
  | other given => cases h
  | set c =>
    obtain ⟨hcls, -, hds⟩ := ofClass_eq_ok h
    rw [hcls]
    exact hds

/-- Every descriptor describes an entry of the class. -/
theorem entry_of_mem (h : p.Checked) {d : Descriptor} (hd : d ∈ p.descriptors) :
    ∃ e ∈ p.cls.entries, p.cls.describe p.space e = .ok d := by
  obtain ⟨i, hi, rfl⟩ := List.mem_iff_getElem.mp hd
  have hlen := h.described.length_eq
  exact ⟨p.cls.entries[i], List.getElem_mem (by omega), h.described.get (by omega) hi⟩

theorem space_of_mem (h : p.Checked) {d : Descriptor} (hd : d ∈ p.descriptors) :
    d.space = p.space := by
  obtain ⟨e, -, he⟩ := h.entry_of_mem hd
  exact (describe_eq_ok he).1

theorem method_of_mem (h : p.Checked) {d : Descriptor} (hd : d ∈ p.descriptors) :
    ∃ m ps, p.cls.method? d.method = some m ∧ m.taken = .ok ps ∧ ps.length = d.arity := by
  obtain ⟨e, -, he⟩ := h.entry_of_mem hd
  exact (describe_eq_ok he).2.2.2.2

end Checked

end Plugin

/-- Plugins whose declaration was checked. -/
abbrev CheckedPlugin := { p : Plugin // p.Checked }

end BuildScript
