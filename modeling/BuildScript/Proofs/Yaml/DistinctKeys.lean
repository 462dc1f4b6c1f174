import BuildScript.Proofs.Traversal
import BuildScript.Yaml.Construction

/-!
The keys of mappings. Equal keys are put together when a mapping is filled (`distinctKeys_uniteEntries`),
and nothing else fills one. Main statement: `distinctKeys_of_load`, that no mapping in the data of a text
has a key that is equal to a later one.
-/

namespace BuildScript.Yaml

/-- No key is equal to a later one. -/
def DistinctKeys (es : List (Scalar × Datum)) : Prop := es.Pairwise fun e e' => e.1.eq e'.1 = false

theorem key_of_mem_putEntry {k : Scalar} {v : Datum} {es : List (Scalar × Datum)} {e : Scalar × Datum}
    (h : e ∈ putEntry k v es) : e.1 = k ∨ ∃ old ∈ es, old.1 = e.1 := by
  induction es with
  | nil =>
    rw [List.mem_singleton.mp h]
    exact .inl rfl
  | cons x rest ih =>
    unfold putEntry at h
    split at h
    · rcases List.mem_cons.mp h with rfl | hrest
      · exact .inr ⟨x, List.mem_cons_self, rfl⟩
      · exact .inr ⟨e, List.mem_cons_of_mem _ hrest, rfl⟩
    · rcases List.mem_cons.mp h with rfl | hrest
      · exact .inr ⟨e, List.mem_cons_self, rfl⟩
      · rcases ih hrest with hk | ⟨old, hold, heq⟩
        · exact .inl hk
        · exact .inr ⟨old, List.mem_cons_of_mem _ hold, heq⟩

theorem distinctKeys_putEntry (k : Scalar) (v : Datum) {es : List (Scalar × Datum)}
    (h : DistinctKeys es) : DistinctKeys (putEntry k v es) := by
  induction es with
  | nil => exact List.pairwise_singleton _ _
  | cons x rest ih =>
    obtain ⟨hx, hrest⟩ := List.pairwise_cons.mp h
    unfold putEntry
    split
    · exact List.pairwise_cons.mpr ⟨hx, hrest⟩
    · rename_i hne
      -- what stands behind `x` afterwards has the new key or one that stood there before
      refine List.pairwise_cons.mpr ⟨fun e he => ?_, ih hrest⟩
      rcases key_of_mem_putEntry he with hk | ⟨old, hold, heq⟩
      · rw [hk]
        exact eq_false_of_ne_true hne
      · rw [← heq]
        exact hx old hold

theorem distinctKeys_uniteEntries (es : List (Scalar × Datum)) : DistinctKeys (uniteEntries es) := by
  unfold uniteEntries
  -- along the fold the entries that have been put together stay distinct
  have hstart : DistinctKeys [] := .nil
  generalize ([] : List (Scalar × Datum)) = made at hstart ⊢
  induction es generalizing made with
  | nil => exact hstart
  | cons e es ih => exact ih _ (distinctKeys_putEntry e.1 e.2 hstart)

theorem putEntry_of_new {k : Scalar} {v : Datum} {es : List (Scalar × Datum)}
    (h : ∀ e ∈ es, e.1.eq k = false) : putEntry k v es = es ++ [(k, v)] := by
  induction es with
  | nil => rfl
  | cons e rest ih =>
    obtain ⟨he, hrest⟩ := List.forall_mem_cons.mp h
    rw [putEntry, if_neg (by simp [he]), ih hrest]
    rfl

/-- Entries with different keys stay as they are. -/
theorem uniteEntries_of_distinct {es : List (Scalar × Datum)} (h : DistinctKeys es) :
    uniteEntries es = es := by
  -- along the fold those that have been put together are those in front
  have hfold (made : List (Scalar × Datum)) (h : DistinctKeys (made ++ es)) :
      es.foldl (fun made e => putEntry e.1 e.2 made) made = made ++ es := by
    induction es generalizing made with
    | nil => exact (List.append_nil made).symm
    | cons e rest ih =>
      have hnew := (List.pairwise_append.mp h).2.2
      rw [List.append_cons] at h
      have hrest := ih (List.pairwise_append.mp h).2.1 (made ++ [e]) h
      rw [List.foldl_cons, putEntry_of_new fun x hx => hnew x hx e List.mem_cons_self]
      exact hrest.trans (List.append_cons made e rest).symm
  exact hfold [] h

/-- If the collection is a mapping, no key of it is equal to a later one. -/
def Collection.Distinct : Collection → Prop
  | .dict entries => DistinctKeys entries
  | _ => True

namespace Construction

/-- No mapping that has been filled has a key that is equal to a later one. -/
def Sound (c : Construction) : Prop := ∀ x ∈ c.collections, x.Distinct

/-- What is made from something sound leaves it sound, and what comes of it has a property. -/
def Yields {α : Type} (m : Constructing α) (P : α → Prop) : Prop :=
  ∀ c a c', c.Sound → m.run c = .ok (a, c') → c'.Sound ∧ P a

section Yields

variable {α β : Type} {P : α → Prop} {Q : β → Prop}

theorem yields_pure {a : α} (h : P a) : Yields (pure a) P := by
  rintro c a' c' hc ⟨⟩
  exact ⟨hc, h⟩

theorem yields_throw (e : LoadError) : Yields (throw e : Constructing α) P := by
  rintro c a c' - ⟨⟩

theorem yields_bind {m : Constructing α} {f : α → Constructing β} (hm : Yields m P)
    (hf : ∀ a, P a → Yields (f a) Q) : Yields (m >>= f) Q := by
  intro c b c' hc h
  rw [StateT.run_bind] at h
  obtain ⟨⟨a, mid⟩, hfirst, hrest⟩ := bind_eq_ok_iff.mp h
  obtain ⟨hsound, ha⟩ := hm c a mid hc hfirst
  exact hf a ha mid b c' hsound hrest

theorem yields_get : Yields get Sound := by
  rintro c a c' hc ⟨⟩
  exact ⟨hc, hc⟩

theorem yields_set {c : Construction} (h : c.Sound) : Yields (set c) fun _ => True := by
  rintro c' a c'' - ⟨⟩
  exact ⟨h, trivial⟩

theorem yields_modify {f : Construction → Construction} (h : ∀ c, c.Sound → (f c).Sound) :
    Yields (modify f) fun _ => True := by
  rintro c a c' hc ⟨⟩
  exact ⟨h c hc, trivial⟩

theorem yields_lift (x : Except LoadError α) : Yields (liftM x) fun _ => True := by
  intro c a c' hc h
  cases x with
  | error e => cases h
  | ok b =>
    cases h
    exact ⟨hc, trivial⟩

theorem yields_mapM {γ : Type} {f : γ → Constructing α} (hf : ∀ x, Yields (f x) fun _ => True)
    (xs : List γ) : Yields (xs.mapM f) fun _ => True := by
  induction xs with
  | nil =>
    rw [List.mapM_nil]
    exact yields_pure trivial
  | cons x xs ih =>
    rw [List.mapM_cons]
    exact yields_bind (hf x) fun _ _ => yields_bind ih fun _ _ => yields_pure trivial

theorem yields_forM {γ : Type} {f : γ → Constructing PUnit} (hf : ∀ x, Yields (f x) fun _ => True)
    (xs : List γ) : Yields (xs.forM f) fun _ => True := by
  induction xs with
  | nil => exact yields_pure trivial
  | cons x xs ih => exact yields_bind (hf x) fun _ _ => ih

end Yields

/-! ## The pieces and the collections -/

theorem yields_datum (id : Nat) : Yields (datum id) fun _ => True := by
  unfold datum
  refine yields_bind yields_get fun c hc => ?_
  split
  · exact yields_pure trivial
  · split
    · exact yields_bind (yields_set hc) fun _ _ => yields_pure trivial
    · exact yields_bind (yields_lift _) fun _ _ =>
        yields_bind (yields_set hc) fun _ _ => yields_pure trivial

theorem yields_key (id : Nat) : Yields (key id) fun _ => True := by
  unfold key
  refine yields_bind (yields_datum id) fun x _ => ?_
  split
  · exact yields_pure trivial
  · exact yields_throw _

theorem yields_mapping (id : Nat) : Yields (mapping id) DistinctKeys := by
  unfold mapping
  refine yields_bind yields_get fun c hc => ?_
  split
  · refine yields_bind (yields_lift _) fun flat _ => yields_bind (yields_set hc) fun _ _ => ?_
    refine yields_bind (yields_lift _) fun es _ => ?_
    refine yields_bind (yields_mapM (fun e => ?_) es) fun made _ =>
      yields_pure (distinctKeys_uniteEntries made)
    exact yields_bind (yields_key e.1) fun _ _ =>
      yields_bind (yields_datum e.2) fun _ _ => yields_pure trivial
  · exact yields_throw _

theorem yields_pair (id : Nat) : Yields (pair id) fun _ => True := by
  unfold pair
  refine yields_bind yields_get fun c _ => yields_bind (yields_lift _) fun es _ => ?_
  split
  · exact yields_bind (yields_datum _) fun _ _ =>
      yields_bind (yields_datum _) fun _ _ => yields_pure trivial
  · exact yields_bind yields_get fun _ _ => yields_throw _

theorem yields_sequence {α : Type} {item : Nat → Constructing α}
    (hitem : ∀ id, Yields (item id) fun _ => True) (id : Nat) :
    Yields (sequence item id) fun _ => True := by
  unfold sequence
  refine yields_bind yields_get fun c _ => ?_
  dsimp only
  split
  · exact yields_mapM hitem _
  · exact yields_throw _

theorem yields_contents (shape : Shape) (id : Nat) : Yields (contents shape id) Collection.Distinct := by
  cases shape with
  | dict => exact yields_bind (yields_mapping id) fun _ hes => yields_pure hes
  | set => exact yields_bind (yields_mapping id) fun _ _ => yields_pure trivial
  | pairs => exact yields_bind (yields_sequence yields_pair id) fun _ _ => yields_pure trivial
  | list => exact yields_bind (yields_sequence yields_datum id) fun _ _ => yields_pure trivial

theorem yields_fill (id : Nat) : Yields (fill id) fun _ => True := by
  unfold fill
  refine yields_bind yields_get fun _ _ => yields_bind (yields_contents _ id) fun made hmade => ?_
  refine yields_modify fun c hc x hx => ?_
  rcases Array.mem_or_eq_of_mem_setIfInBounds hx with hold | rfl
  · exact hc x hold
  · exact hmade

theorem yields_fillDue (levels : Nat) : Yields (fillDue levels) fun _ => True := by
  induction levels with
  | zero => exact yields_pure trivial
  | succ levels ih =>
    unfold fillDue
    refine yields_bind yields_get fun c _ => ?_
    dsimp only
    split
    · exact yields_pure trivial
    · refine yields_bind (yields_modify fun _ hc => hc) fun _ _ => ?_
      exact yields_bind (yields_forM yields_fill _) fun _ _ => ih

theorem sound_start (d : Document) : (start d).Sound := by
  intro x hx
  obtain ⟨-, rfl⟩ := Array.mem_replicate.mp hx
  trivial

end Construction

/-! ## Texts -/

theorem distinct_get {d : Data} (h : ∀ x ∈ d.collections, x.Distinct) (id : Nat) :
    (d.get id).Distinct := by
  unfold Data.get
  rw [Array.getD_eq_getD_getElem?]
  cases hid : d.collections[id]? with
  | none => trivial
  | some x => exact h x (Array.mem_of_getElem? hid)

theorem distinct_of_ofDocument {doc : Document} {d : Data} (h : Data.ofDocument doc = .ok d) :
    ∀ x ∈ d.collections, x.Distinct := by
  unfold Data.ofDocument at h
  dsimp only at h
  generalize hmake : (do
    let root ← Construction.datum doc.root
    Construction.fillDue (doc.nodes.size + 1)
    return root : Constructing Datum) = make at h
  have hyields : Construction.Yields make fun _ => True := by
    rw [← hmake]
    exact Construction.yields_bind (Construction.yields_datum doc.root) fun _ _ =>
      Construction.yields_bind (Construction.yields_fillDue _) fun _ _ =>
        Construction.yields_pure trivial
  obtain ⟨⟨root, c⟩, hrun, ⟨⟩⟩ := bind_eq_ok_iff.mp h
  exact (hyields _ root c (Construction.sound_start doc) hrun).1

theorem exists_document_of_load {text : String} {d : Data} (h : load text = .ok (some d)) :
    ∃ doc, Data.ofDocument doc = .ok d := by
  unfold load at h
  split at h
  · cases h
  · obtain ⟨found, -, hrest⟩ := bind_eq_ok_iff.mp h
    cases found with
    | none => cases hrest
    | some doc =>
      obtain ⟨d', hdata, ⟨⟩⟩ := bind_eq_ok_iff.mp hrest
      exact ⟨doc, hdata⟩

/-- No mapping in the data of a text has a key that is equal to a later one. -/
theorem distinctKeys_of_load {text : String} {d : Data} (h : load text = .ok (some d)) {id : Nat}
    {entries : List (Scalar × Datum)} (hid : d.get id = .dict entries) : DistinctKeys entries := by
  obtain ⟨doc, hdoc⟩ := exists_document_of_load h
  have hdistinct := distinct_get (distinct_of_ofDocument hdoc) id
  rw [hid] at hdistinct
  exact hdistinct

end BuildScript.Yaml
