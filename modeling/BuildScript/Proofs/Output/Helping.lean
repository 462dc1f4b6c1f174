import BuildScript.Help
import BuildScript.Proofs.Output.Entries
import BuildScript.Proofs.Registry.Answers
import BuildScript.Proofs.Registry.Declarations

/-!
What the help on a registry says. Signatures are plain texts (`plain_helpSignature`), and so are the
descriptions of functions, so on lines that are long enough (`Plugin.exists_fits`) they are printed as they
stand. A set has one chapter: its name, its description, and what there is to say of each of its functions
(`prints_setHelp`). Main statement: `help_chapters`, that after every history of changes the help is the
chapters of the sets that hold a namespace, in the order of the namespaces.
-/

namespace BuildScript

open Text (IsWord Plain Spaced isBlank lines plainSpaces)

/-! ## Signatures -/

/-- Names are words. -/
theorem IsIdentifier.isWord {s : String} (h : IsIdentifier s) : IsWord s.toList := by
  obtain ⟨c, cs, hs, hc, hcs⟩ := h
  have hletter : ∀ d : Char, 'a' ≤ d ∧ d ≤ 'z' → isBlank d = false := fun d hd =>
    Text.isBlank_of_isGraphic (le_trans (by decide) hd.1) (le_trans hd.2 (by decide))
  rw [hs]
  refine ⟨List.cons_ne_nil c cs, List.forall_mem_cons.mpr ⟨hletter c hc, fun d hd => ?_⟩⟩
  rcases hcs d hd with hsmall | hdigit | rfl
  · exact hletter d hsmall
  · exact Text.isBlank_of_isGraphic (le_trans (by decide) hdigit.1) (le_trans hdigit.2 (by decide))
  · decide

theorem isWord_name (t : TypeName) : IsWord t.name.toList := by
  have hname := t.isClassName_name
  rw [isClassName, Bool.and_eq_true, decide_eq_true_eq, List.all_eq_true] at hname
  obtain ⟨hne, hchars⟩ := hname
  refine ⟨fun hnil => hne (String.toList_eq_nil_iff.mp hnil), fun c hc => ?_⟩
  have hc := hchars c hc
  rw [Bool.and_eq_true, Bool.not_eq_true'] at hc
  exact hc.1

/-- Signatures are plain texts if the names in them are words. -/
theorem plain_signatureWith {d : Descriptor} {names : List String} (hspace : IsWord d.space.toList)
    (hname : IsWord d.name.toList) (hnames : ∀ n ∈ names, IsWord n.toList) :
    Plain (d.signatureWith names).toList := by
  have hparams : Spaced
      (", ".intercalate (List.zipWith (fun n t => n ++ ": " ++ t.name) names d.params)).toList := by
    rw [String.toList_intercalate, ← List.map_uncurry_zip_eq_zipWith, List.map_map]
    refine Text.spaced_intercalate (by decide) fun x hx => ?_
    obtain ⟨⟨n, t⟩, hmem, rfl⟩ := List.mem_map.mp hx
    have hn : Spaced n.toList := (hnames n (List.of_mem_zip hmem).1).spaced
    rw [Function.comp_apply, Function.uncurry_apply_pair, String.toList_append, String.toList_append]
    exact Text.spaced_append (Text.spaced_append hn (by decide)) (isWord_name t).spaced
  have hbetween : Spaced ("::".toList ++ (d.name.toList ++ ("(".toList ++
      ((", ".intercalate (List.zipWith (fun n t => n ++ ": " ++ t.name) names d.params)).toList ++
        ") -> ".toList)))) := by
    refine Text.spaced_append (by decide) (Text.spaced_append hname.spaced ?_)
    exact Text.spaced_append (by decide) (Text.spaced_append hparams (by decide))
  have hplain := (Text.plain_of_isWord hspace).append hbetween (Text.plain_of_isWord (isWord_name d.returns))
  simpa only [Descriptor.signatureWith, Descriptor.qualified, qualifiedName, String.toList_append,
    List.append_assoc] using hplain

namespace Plugin.Checked

variable {p : Plugin}

theorem isWord_space (h : p.Checked) : IsWord p.space.toList := by
  obtain ⟨id, given, offered, h⟩ := h
  obtain ⟨c, -, hdeclares⟩ := (ofCandidate_eq_ok_iff id given offered p).mp h
  exact hdeclares.space.2.isWord

theorem describes_of_mem (h : p.Checked) {d : Descriptor} (hd : d ∈ p.descriptors) :
    ∃ e, Describes p.cls p.space e d := by
  obtain ⟨e, -, he⟩ := h.entry_of_mem hd
  exact ⟨e, (describe_eq_ok_iff d).mp he⟩

end Plugin.Checked

/-! ## What the help says -/

/-- The parameters of the methods that the entries of the class name have words for names. -/
def SetClass.Named (c : SetClass) : Prop :=
  ∀ e ∈ c.entries, ∀ m ps, c.method? e.method = some m → m.taken = .ok ps → ∀ q ∈ ps, IsWord q.name.toList

/-- What there is to say of a function whose method has these parameters: its signature with their names, whether it
is deprecated, and its description if it has one. -/
def functionText (ps : List Parameter) (d : Descriptor) : String :=
  "  - " ++ d.signatureWith (ps.map (·.name)) ++ (if d.deprecated then " [deprecated]" else "") ++ "\n"
    ++ if d.description = "" then "" else "      " ++ d.description ++ "\n"

/-- The text is what there is to say of a function of the set, which is one of its namespace and has a parameter for
each of its method. -/
def Plugin.Tells (p : Plugin) (d : Descriptor) (text : String) : Prop :=
  d.space = p.space ∧
    ∃ m ps, p.cls.method? d.method = some m ∧ m.taken = .ok ps ∧ ps.length = d.arity ∧ text = functionText ps d

/-- The chapter on a set: its name, its description, and what there is to say of each of its functions, one after the
other by their names and numbers of parameters. -/
inductive Plugin.Chapter (p : Plugin) : String → Prop where
  | mk {about : String} {ds : List Descriptor} {texts : List String} :
      Laid "  " p.description about →
      (∀ d, d ∈ ds ↔ d ∈ p.descriptors) →
      (ds.Pairwise fun a b => toLex (a.name, a.arity) < toLex (b.name, b.arity)) →
      List.Forall₂ p.Tells ds texts →
      p.Chapter (colorOn Color.bold.code ++ p.space ++ colorOff ++ "\n" ++ (about ++ "\n") ++ String.join texts ++ "\n")

/-- Nothing that the help says of the set is broken over lines of the width. -/
structure Plugin.Fits (width : Int) (p : Plugin) : Prop where
  space : Whole { width } p.space
  description : Whole { width } p.description
  signature : ∀ d ∈ p.descriptors, Whole { width, restIndent := List.replicate 4 ' ' } (helpSignature p d)
  about : ∀ d ∈ p.descriptors, Whole { width } d.description

/-- All that the help says of the set. -/
def Plugin.helpTexts (p : Plugin) : List String :=
  p.space :: p.description :: p.descriptors.flatMap fun d => [helpSignature p d, d.description]

/-- On lines that are as long as each of its own, nothing is broken. -/
theorem Plugin.fits_of_le {p : Plugin} {width : Int} (hwidth : 0 < width)
    (h : ∀ text ∈ p.helpTexts, ∀ l ∈ lines text.toList, ((plainSpaces l.body).length : Int) ≤ width) :
    p.Fits width := by
  obtain ⟨hspace, hrest⟩ := List.forall_mem_cons.mp h
  obtain ⟨hdescription, hfunctions⟩ := List.forall_mem_cons.mp hrest
  have hfunction : ∀ d ∈ p.descriptors, ∀ text ∈ [helpSignature p d, d.description],
      ∀ l ∈ lines text.toList,
      ((plainSpaces l.body).length : Int) ≤ width := fun d hd text htext =>
    hfunctions text (List.mem_flatMap.mpr ⟨d, hd, htext⟩)
  exact
    { space := whole_of_le hwidth rfl hspace
      description := whole_of_le hwidth rfl hdescription
      signature := fun d hd => whole_of_le hwidth rfl (hfunction d hd _ (by simp))
      about := fun d hd => whole_of_le hwidth rfl (hfunction d hd _ (by simp)) }

/-- There are lines on which nothing of some sets is broken. -/
theorem Plugin.exists_fits (ps : List Plugin) :
    ∃ longest : Int, ∀ width, longest ≤ width → ∀ p ∈ ps, p.Fits width := by
  let lengths := (ps.flatMap helpTexts).flatMap fun text =>
    (lines text.toList).map fun l => (plainSpaces l.body).length
  refine ⟨lengths.max?.getD 0 + 1, fun width hwidth p hp => fits_of_le (by omega) fun text htext l hl => ?_⟩
  have hmem : (plainSpaces l.body).length ∈ lengths :=
    List.mem_flatMap.mpr ⟨text, List.mem_flatMap.mpr ⟨p, hp, htext⟩, List.mem_map_of_mem hl⟩
  have hle := List.le_max?_getD_of_mem (k := 0) hmem
  omega

section Functions

variable {columns width : Int} {p : Plugin} {d : Descriptor}

theorem plain_helpSignature (hp : p.Checked) (hnamed : p.cls.Named) (hd : d ∈ p.descriptors) :
    Plain (helpSignature p d).toList := by
  obtain ⟨e, he⟩ := hp.describes_of_mem hd
  have hspace : IsWord d.space.toList := he.space_eq ▸ hp.isWord_space
  obtain ⟨entry, hmem, hdescribe⟩ := hp.entry_of_mem hd
  obtain ⟨-, -, hmethod, -, m, ps, hm, htaken, harity⟩ := describe_eq_ok hdescribe
  have hnames : ∀ n ∈ p.argNames d, IsWord n.toList := by
    rw [p.argNames_of_method hm htaken harity]
    intro n hn
    obtain ⟨q, hq, rfl⟩ := List.mem_map.mp hn
    exact hnamed entry hmem m ps (hmethod ▸ hm) htaken q hq
  have hplain := plain_signatureWith hspace he.name.2.isWord hnames
  unfold helpSignature
  split
  · have hmark : Plain "[deprecated]".toList := Text.plain_of_isWord (by decide)
    have hspaced : Spaced [' '] := by decide
    simpa using hplain.append hspaced hmark
  · simpa using hplain

/-- A function of a set is told of in a line with its signature, and in one with its description if it has one. -/
theorem prints_functionHelp (hp : p.Checked) (hnamed : p.cls.Named) (hfits : p.Fits (lineWidth columns width))
    (hd : d ∈ p.descriptors) : ∃ text, p.Tells d text ∧ Prints columns (functionHelp width p d) text := by
  obtain ⟨m, ps, hm, htaken, harity⟩ := hp.method_of_mem hd
  obtain ⟨e, he⟩ := hp.describes_of_mem hd
  have hnames : p.argNames d = ps.map (·.name) := p.argNames_of_method hm htaken harity
  have hsignature : print columns { bullet := "  - ", wrapIndent := 4, width := some width } [helpSignature p d] =
      ⟨"  - " ++ helpSignature p d ++ "\n", none⟩ :=
    print_line (hfits.signature d hd) (plain_helpSignature hp hnamed hd)
  have hdescription : Prints columns
      (if d.description = "" then [] else [({ bullet := "      ", width := some width }, [d.description])])
      (if d.description = "" then "" else "      " ++ d.description ++ "\n") := by
    split
    · exact .nil columns
    · rename_i hne
      obtain ⟨_, -, hcollapse⟩ := he.method
      have hplain : Plain d.description.toList := by
        rw [hcollapse] at hne ⊢
        exact Text.plain_collapse hne
      rw [← String.append_empty (s := "      " ++ d.description ++ "\n")]
      exact .cons (print_line (hfits.about d hd) hplain) (.nil columns)
  refine ⟨functionText ps d, ⟨he.space_eq, m, ps, hm, htaken, harity, rfl⟩, ?_⟩
  rw [helpSignature, hnames, ← String.append_assoc] at hsignature
  unfold functionHelp helpSignature functionText
  rw [hnames]
  exact .cons hsignature hdescription

end Functions

/-! ## The sets -/

theorem Represents.prints_setHelp {r : Registry} {m : Catalogue} (h : Represents r m) {columns width : Int}
    {p : CheckedPlugin} (hp : p ∈ m) (hnamed : p.1.cls.Named) (hfits : p.1.Fits (lineWidth columns width)) :
    ∃ text, p.1.Chapter text ∧ Prints columns (setHelp r width p.1) text := by
  have hlisted : ∀ d, d ∈ r.listed (some p.1.space) ↔ d ∈ p.1.descriptors := by
    intro d
    rw [h.answers.mem_listed]
    constructor
    · rintro ⟨q, hq, hspace, hd⟩
      have hsame : p.1.space = q.1.space := Option.some.inj (hspace.resolve_left (Option.some_ne_none _))
      have hholder := h.holder?_of_mem hp
      rw [hsame, h.holder?_of_mem hq] at hholder
      rwa [← Option.some.inj hholder]
    · intro hd
      exact ⟨p, hp, .inr rfl, hd⟩
  have hordered : (r.listed (some p.1.space)).Pairwise
      fun a b => toLex (a.name, a.arity) < toLex (b.name, b.arity) := by
    refine (h.answers.listed_increasing _).imp_of_mem fun {a b} ha hb hab => ?_
    have hsame : a.space = b.space := by
      rw [p.2.space_of_mem ((hlisted a).mp ha), p.2.space_of_mem ((hlisted b).mp hb)]
    unfold FunctionKey.parts at hab
    rcases Prod.Lex.toLex_lt_toLex.mp hab with hlt | ⟨-, hlt⟩
    · exact absurd hlt (by simp [hsame])
    · exact hlt
  obtain ⟨texts, htexts⟩ := exists_forall₂ fun d hd =>
    prints_functionHelp p.2 hnamed hfits ((hlisted d).mp hd)
  let bold : PrintStyle := { color := some Color.bold.code, width := some width }
  have hname : print columns bold [p.1.space] =
      ⟨bold.opening ++ (bold.bullet ++ p.1.space) ++ bold.closing, none⟩ :=
    print_plain rfl hfits.space (Text.plain_of_isWord p.2.isWord_space)
  let indented : PrintStyle := { bullet := "  ", width := some width }
  have hfull : Whole (indented.margins (lineWidth columns width)) p.1.description := hfits.description
  obtain ⟨about, hlaid, habout⟩ := print_whole rfl hfull
  refine ⟨_, .mk hlaid hlisted hordered (htexts.imp fun _ _ ht => ht.1), ?_⟩
  have hhead : Prints columns _ _ := .cons hname (.cons habout (.nil columns))
  have hfunctions := Prints.flatMap (htexts.imp fun _ _ ht => ht.2)
  have hend : Prints columns [({ width := some width }, [])] "\n" := rfl
  simpa [setHelp, bold, indented, PrintStyle.opening, PrintStyle.closing, String.append_assoc] using
    (hhead.append hfunctions).append hend

namespace Registry

/-- The sets that a help is made of are those that hold a namespace, or that of the one that is asked for, in the order
of their namespaces. -/
theorem sortedSets_eq_map (r : Registry) (space : Option String) :
    ∃ es : List (String × Plugin), r.sortedSets space = es.map (·.2) ∧
      (es.Pairwise fun a b => a.1 < b.1) ∧
      ∀ k p, (k, p) ∈ es ↔ r.sets.get? k = some p ∧ (space = none ∨ space = some k) := by
  let wanted := r.sets.entries.filter fun e => space.isNone || space = some e.1
  refine ⟨wanted.mergeSort fun a b => !decide (b.1 < a.1), rfl, ?_, ?_⟩
  · have hwanted : (wanted.map (·.1)).Nodup := r.sets.nodup.sublist (List.filter_sublist.map _)
    have hless : ∀ a b : String, decide (a < b) = true ↔ id a < id b := fun _ _ => decide_eq_true_iff
    exact pairwise_mergeSort_keys Function.injective_id hless hwanted
  · intro k p
    rw [List.mem_mergeSort, List.mem_filter, Table.mem_entries_iff]
    simp

end Registry

/-- The plugin holds a namespace, and that is the one that is asked for, if one is. -/
def Catalogue.Asked (m : Catalogue) (space : Option String) (p : Plugin) : Prop :=
  m.holder? p.space = some p ∧ (space = none ∨ space = some p.space)

theorem Represents.sortedSets {r : Registry} {m : Catalogue} (h : Represents r m) (space : Option String) :
    ((r.sortedSets space).map (·.space)).Pairwise (· < ·) ∧
      ∀ p, p ∈ r.sortedSets space ↔ m.Asked space p := by
  obtain ⟨es, hes, hordered, hmem⟩ := r.sortedSets_eq_map space
  have hspace : ∀ e ∈ es, e.2.space = e.1 := by
    intro e he
    have hheld := ((hmem e.1 e.2).mp he).1
    rw [h.get?_sets] at hheld
    exact (Catalogue.holder?_mem hheld).2
  rw [hes]
  constructor
  · rw [List.map_map, List.pairwise_map]
    refine hordered.imp_of_mem fun {a b} ha hb hab => ?_
    show a.2.space < b.2.space
    rw [hspace a ha, hspace b hb]
    exact hab
  · intro p
    rw [Catalogue.Asked, ← h.get?_sets, ← hmem, List.mem_map]
    constructor
    · rintro ⟨e, he, rfl⟩
      rw [hspace e he]
      exact he
    · intro hp
      exact ⟨_, hp, rfl⟩

/-- After every history of changes, on lines on which nothing is broken, the help is the chapters of the sets that hold
a namespace, in the order of the namespaces. If one namespace is asked for, it is the chapter of the set that holds it,
and nothing if none does. -/
theorem help_chapters (cs : List Change) (columns : Int) (space : Option String) (width : Int)
    (hnamed : ∀ p, (Catalogue.ofChanges cs).Asked space p → p.cls.Named)
    (hfits : ∀ p, (Catalogue.ofChanges cs).Asked space p → p.Fits (lineWidth columns width)) :
    ∃ ps texts,
      (∀ p, p ∈ ps ↔ (Catalogue.ofChanges cs).Asked space p) ∧
      (ps.map (·.space)).Pairwise (· < ·) ∧
      List.Forall₂ Plugin.Chapter ps texts ∧
      (Registry.ofChanges cs).help columns space width = ⟨String.join texts, none⟩ := by
  have h := Represents.ofChanges cs
  obtain ⟨hordered, hmem⟩ := h.sortedSets space
  have hchapter : ∀ p ∈ (Registry.ofChanges cs).sortedSets space, ∃ text, p.Chapter text ∧
      Prints columns (setHelp (Registry.ofChanges cs) width p) text := by
    intro p hp
    have hasked := (hmem p).mp hp
    obtain ⟨⟨q, hq, rfl⟩, -⟩ := Catalogue.holder?_mem hasked.1
    exact h.prints_setHelp hq (hnamed q.1 hasked) (hfits q.1 hasked)
  obtain ⟨texts, htexts⟩ := exists_forall₂ hchapter
  refine ⟨_, texts, hmem, hordered, htexts.imp fun _ _ ht => ht.1, ?_⟩
  exact Prints.flatMap (htexts.imp fun _ _ ht => ht.2)

/-- A class with two functions of one name, one of them deprecated. -/
def tallyClass : SetClass :=
  { id := 1, name := "Tally", file := .ok "", space := .text "tally", doc := some "Counts things."
    entries :=
      [{ name := .text "add", method := "add_two", params := [.type .int, .type .int], returns := .type .int },
       { name := .text "add", method := "add_one", params := [.type .int], returns := .type .int
         deprecated := true }]
    attributes := (Table.empty.put "add_two" (.method
        { written := [{ name := "self" }, { name := "first" }, { name := "second" }]
          doc := some "Adds two\n numbers."
          run := fun _ memory _ => { result := .ok (.text ""), memory } })).put "add_one" (.method
        { written := [{ name := "self" }, { name := "number" }]
          run := fun _ memory _ => { result := .ok (.text ""), memory } })
    construct := fun _ => .ok .empty }

/-- The plugin of the class. -/
def tallyPlugin : CheckedPlugin :=
  ⟨{ id := 1, space := "tally", cls := tallyClass, description := "Counts things."
     descriptors :=
      [{ space := "tally", name := "add", method := "add_two", params := [.int, .int], returns := .int
         description := "Adds two numbers." },
       { space := "tally", name := "add", method := "add_one", params := [.int], returns := .int
         deprecated := true }] },
    1, none, .set tallyClass, by rfl⟩

theorem tallyClass_named : tallyClass.Named := by
  simp only [SetClass.Named, tallyClass, List.forall_mem_cons, List.not_mem_nil, false_imp_iff,
    implies_true, and_true]
  constructor
  all_goals
    rintro m ps hm hps
    cases hm
    cases hps
    decide

/-- With this set alone the help is one chapter, on lines of eighty characters. -/
theorem help_chapters_tally :
    let cs : List Change := [.register tallyPlugin]
    let m := Catalogue.ofChanges cs
    (∀ p, m.Asked none p → p.cls.Named) ∧ (∀ p, m.Asked none p → p.Fits (lineWidth 0 80)) ∧
      ∃ text, tallyPlugin.1.Chapter text ∧ (Registry.ofChanges cs).help 0 none 80 = ⟨text, none⟩ := by
  intro cs m
  have hasked : ∀ p, m.Asked none p ↔ p = tallyPlugin.1 := by
    have hm : m = [tallyPlugin] := rfl
    intro p
    rw [hm]
    constructor
    · intro hp
      obtain ⟨⟨q, hq, rfl⟩, -⟩ := Catalogue.holder?_mem hp.1
      rw [List.mem_singleton.mp hq]
    · rintro rfl
      exact ⟨rfl, .inl rfl⟩
  have hnamed : ∀ p, m.Asked none p → p.cls.Named := by
    intro p hp
    rw [(hasked p).mp hp]
    exact tallyClass_named
  have hfits : ∀ p, m.Asked none p → p.Fits (lineWidth 0 80) := by
    intro p hp
    rw [(hasked p).mp hp]
    exact Plugin.fits_of_le (by decide) (by decide)
  obtain ⟨ps, texts, hps, hordered, htexts, hhelp⟩ := help_chapters cs 0 none 80 hnamed hfits
  have hsole : ps = [tallyPlugin.1] := by
    have hspaces : (ps.map (·.space)).Nodup := hordered.imp ne_of_lt
    have hnodup : ps.Nodup := hspaces.of_map _
    refine List.perm_singleton.mp ((List.perm_ext_iff_of_nodup hnodup (List.nodup_singleton _)).mpr fun p => ?_)
    rw [hps, List.mem_singleton]
    exact hasked p
  rw [hsole] at htexts
  obtain ⟨text, _, htext, hnil, rfl⟩ := List.forall₂_cons_left_iff.mp htexts
  obtain rfl := List.forall₂_nil_left_iff.mp hnil
  refine ⟨hnamed, hfits, text, htext, ?_⟩
  rw [hhelp]
  simp [String.join]

end BuildScript
