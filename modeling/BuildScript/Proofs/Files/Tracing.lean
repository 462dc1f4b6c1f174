import BuildScript.Proofs.Files.Resolution
import BuildScript.Table

/-!
Resolved paths exist. While a link is open, what is left to follow takes fewer steps than its target
does, so a link that is met is not open (`Opened.not_mem`); and as the links that are open lie at
distinct places, there are never more of them than the tree has. Main statement:
`resolve_of_resolvesTo`, that a path whose names can be followed to an end has a resolved path, the
place where they end, if no link on the way has a path too long to be read.
-/

namespace BuildScript.Files

/-! ## The character that ends texts -/

theorem mem_of_mem_splitAtChar {sep c : Char} {cs p : List Char}
    (hp : p ∈ Text.splitAtChar sep cs) (hc : c ∈ p) : c ∈ cs := by
  induction cs generalizing p with
  | nil =>
    rw [Text.splitAtChar, List.mem_singleton] at hp
    rw [hp] at hc
    exact hc
  | cons x rest ih =>
    rw [Text.splitAtChar] at hp
    split at hp
    · rcases List.mem_cons.mp hp with rfl | hp
      · cases hc
      · exact List.mem_cons_of_mem _ (ih hp hc)
    · split at hp
      · rw [List.mem_singleton] at hp
        subst hp
        exact List.mem_cons.mpr (.inl (List.mem_singleton.mp hc))
      · rename_i q qs hsplit
        rcases List.mem_cons.mp hp with rfl | hp
        · rcases List.mem_cons.mp hc with rfl | hc
          · exact List.mem_cons_self
          · exact List.mem_cons_of_mem _ (ih (hsplit ▸ List.mem_cons_self) hc)
        · exact List.mem_cons_of_mem _ (ih (hsplit ▸ List.mem_cons_of_mem _ hp) hc)

/-- None of the names holds the character that ends texts. -/
def NoNul (names : List String) : Prop := ∀ name ∈ names, '\x00' ∉ name.toList

theorem NoNul.append {a b : List String} (ha : NoNul a) (hb : NoNul b) : NoNul (a ++ b) := by
  intro name hname
  rcases List.mem_append.mp hname with h | h
  · exact ha name h
  · exact hb name h

theorem noNul_pieces {s : String} (h : '\x00' ∉ s.toList) : NoNul (Path.pieces s) := by
  intro name hname hnul
  obtain ⟨p, hp, rfl⟩ := List.mem_map.mp hname
  rw [String.toList_ofList] at hnul
  exact h (mem_of_mem_splitAtChar hp hnul)

theorem hasNul_eq_false {root : Root} {names : List String} (h : NoNul names) :
    FileTree.hasNul ⟨root, names⟩ = false := by
  unfold FileTree.hasNul
  rw [List.any_eq_false]
  intro name hname
  rw [List.contains_iff_mem]
  exact h name hname

theorem noNul_of_hasNul {p : Path} (h : FileTree.hasNul p = false) : NoNul p.names := by
  intro name hname hnul
  unfold FileTree.hasNul at h
  have hno := List.any_eq_false.mp h name hname
  rw [List.contains_iff_mem] at hno
  exact hno hnul

/-- Going up adds no names but that of the directory above. -/
theorem Trail.mem_up {trail : Trail} {name : String} (h : name ∈ trail.up.names) :
    name ∈ trail.names ∨ name = ".." := by
  unfold Trail.up at h
  split at h
  · split at h
    · exact .inl h
    · exact .inr (List.mem_singleton.mp h)
  · exact (List.mem_append.mp h).imp_right List.mem_singleton.mp
  · exact .inl (List.dropLast_subset _ h)

theorem Trail.noNul_up {trail : Trail} (h : NoNul trail.names) : NoNul trail.up.names := by
  intro name hname
  rcases Trail.mem_up hname with hname | rfl
  · exact h name hname
  · decide

theorem Trail.down_inj {trail trail' : Trail} {name name' : String}
    (h : trail.down name = trail'.down name') : trail = trail' ∧ name = name' := by
  obtain ⟨absolute, names⟩ := trail
  obtain ⟨absolute', names'⟩ := trail'
  obtain ⟨rfl, hnames⟩ := Trail.mk.inj h
  obtain ⟨rfl, hname⟩ := List.append_inj' hnames rfl
  exact ⟨rfl, List.singleton_inj.mp hname⟩

namespace FileTree

variable {t : FileTree} {trail : Trail} {name target : String} {names rest : List String}
  {n fuel : Nat} {e : Trail} {seen seen' : List (Trail × Option Trail)}
  {places : List (List String)}

theorem noNul_ofLink (h : NoNul trail.names) (target : String) :
    NoNul (trail.ofLink target).names := by
  unfold Trail.ofLink
  split
  · exact fun name hname => absurd hname List.not_mem_nil
  · exact h

theorem noNul_down (h : NoNul trail.names) (hname : '\x00' ∉ name.toList) :
    NoNul (trail.down name).names := by
  refine h.append fun last hlast => ?_
  rw [List.mem_singleton.mp hlast]
  exact hname

theorem Follows.noNul (ht : t.Proper) (h : t.Follows n trail names e) (htrail : NoNul trail.names)
    (hnames : NoNul names) : NoNul e.names := by
  induction h with
  | nil => exact htrail
  | dot _ _ ih => exact ih htrail fun m hm => hnames m (List.mem_cons_of_mem _ hm)
  | up _ ih =>
    exact ih (Trail.noNul_up htrail) fun m hm => hnames m (List.mem_cons_of_mem _ hm)
  | down _ _ _ ih =>
    exact ih (noNul_down htrail (hnames _ List.mem_cons_self))
      fun m hm => hnames m (List.mem_cons_of_mem _ hm)
  | link _ hlink _ ih =>
    exact ih (noNul_ofLink htrail _) ((noNul_pieces (ht.targets _ _ hlink)).append
      fun m hm => hnames m (List.mem_cons_of_mem _ hm))

/-! ## Links that are open, and links that have been seen -/

/-- The places at which links are open are distinct, and following the target of each takes `n`
steps at least. -/
structure Opened (t : FileTree) (n : Nat) (places : List (List String)) : Prop where
  nodup : places.Nodup
  long : ∀ place ∈ places, ∃ (trail : Trail) (name target : String) (m : Nat) (e : Trail),
    IsOwnName name ∧ t.spot (trail.down name) = place ∧ t.nodeAt? place = some (.link target) ∧
      t.Follows m (trail.ofLink target) (Path.pieces target) e ∧ n ≤ m

namespace Opened

theorem mono {m : Nat} (h : t.Opened n places) (hmn : m ≤ n) : t.Opened m places where
  nodup := h.nodup
  long place hplace := by
    obtain ⟨trail, name, target, k, e, hname, hspot, hlink, hfollows, hle⟩ := h.long place hplace
    exact ⟨trail, name, target, k, e, hname, hspot, hlink, hfollows, Nat.le_trans hmn hle⟩

/-- A link whose target is followed in fewer steps is not open. -/
theorem not_mem (h : t.Opened n places) (hname : IsOwnName name)
    (hlink : t.nodeAt? (t.spot (trail.down name)) = some (.link target)) {m : Nat}
    (hfollows : t.Follows m (trail.ofLink target) (Path.pieces target) e) (hlt : m < n) :
    t.spot (trail.down name) ∉ places := by
  intro hmem
  obtain ⟨trail', name', target', k, e', hname', hspot, hlink', hfollows', hle⟩ :=
    h.long _ hmem
  obtain rfl : target' = target := Node.link.inj (Option.some.inj (hlink'.symm.trans hlink))
  -- the trails of the two directories end at one place, so the targets take as many steps
  rw [spot_down t _ hname.ne_up, spot_down t _ hname'.ne_up] at hspot
  have hdir : t.spot trail' = t.spot trail := (List.append_inj' hspot rfl).1
  have hstart : t.spot (trail'.ofLink target') = t.spot (trail.ofLink target') := by
    unfold Trail.ofLink
    split
    · rfl
    · exact hdir
  obtain ⟨e'', hsame, -⟩ := hfollows.of_spot_eq hstart
  have hkm := (hfollows'.unique hsame).1
  omega

theorem cons (h : t.Opened n places) (hname : IsOwnName name)
    (hlink : t.nodeAt? (t.spot (trail.down name)) = some (.link target)) {m : Nat}
    (hfollows : t.Follows m (trail.ofLink target) (Path.pieces target) e) (hlt : m < n) :
    t.Opened m (t.spot (trail.down name) :: places) where
  nodup := List.nodup_cons.mpr ⟨h.not_mem hname hlink hfollows hlt, h.nodup⟩
  long place hplace := by
    rcases List.mem_cons.mp hplace with rfl | hplace
    · exact ⟨trail, name, target, m, e, hname, rfl, hlink, hfollows, Nat.le_refl m⟩
    · exact (h.mono (Nat.le_of_lt hlt)).long place hplace

theorem length_le (h : t.Opened n places) : places.length ≤ t.root.countLinks := by
  refine length_le_countLinks h.nodup fun place hplace => ?_
  obtain ⟨-, -, target, -, -, -, -, hlink, -⟩ := h.long place hplace
  exact ⟨target, hlink⟩

end Opened

/-- What has been seen so far: a link is open only at one of these places, and otherwise it resolves
to where its target ends. -/
structure Seen (t : FileTree) (seen : List (Trail × Option Trail)) (places : List (List String)) :
    Prop where
  opened : ∀ q, seen.lookup q = some none → t.spot q ∈ places
  resolved : ∀ (trail : Trail) (name : String) (e : Trail),
    seen.lookup (trail.down name) = some (some e) →
      ∃ n target, t.nodeAt? (t.spot (trail.down name)) = some (.link target) ∧
        t.Follows n (trail.ofLink target) (Path.pieces target) e

namespace Seen

theorem opening (h : t.Seen seen places) (q : Trail) :
    t.Seen ((q, none) :: seen) (t.spot q :: places) where
  opened p hp := by
    rw [Table.lookup_cons] at hp
    by_cases hpq : p = q
    · rw [hpq]
      exact List.mem_cons_self
    · rw [if_neg hpq] at hp
      exact List.mem_cons_of_mem _ (h.opened p hp)
  resolved trail name e he := by
    rw [Table.lookup_cons] at he
    split at he
    · cases he
    · exact h.resolved trail name e he

/-- What was not open stays so. -/
def Keeps (seen seen' : List (Trail × Option Trail)) : Prop :=
  ∀ q, seen'.lookup q = some none → seen.lookup q = some none

theorem closing (h : t.Seen seen places) {opened : List (List String)} (h' : t.Seen seen' opened)
    (hkeeps : Keeps ((trail.down name, none) :: seen) seen')
    (hlink : t.nodeAt? (t.spot (trail.down name)) = some (.link target))
    (hfollows : t.Follows n (trail.ofLink target) (Path.pieces target) e) :
    t.Seen ((trail.down name, some e) :: seen') places ∧
      Keeps seen ((trail.down name, some e) :: seen') := by
  have hnone : Keeps seen ((trail.down name, some e) :: seen') := by
    intro q hq
    rw [Table.lookup_cons] at hq
    by_cases hqn : q = trail.down name
    · rw [if_pos hqn] at hq
      cases hq
    · rw [if_neg hqn] at hq
      have hq' := hkeeps q hq
      rw [Table.lookup_cons, if_neg hqn] at hq'
      exact hq'
  refine ⟨⟨fun q hq => h.opened q (hnone q hq), ?_⟩, hnone⟩
  intro trail' name' e' he'
  rw [Table.lookup_cons] at he'
  by_cases hdown : trail'.down name' = trail.down name
  · rw [if_pos hdown, Option.some.injEq, Option.some.injEq] at he'
    obtain ⟨rfl, rfl⟩ := Trail.down_inj hdown
    exact ⟨n, target, hlink, he' ▸ hfollows⟩
  · rw [if_neg hdown] at he'
    exact h'.resolved trail' name' e' he'

end Seen

/-! ## Tracing -/

/-- Every link that is met when names are followed has a path that is short enough to be read. -/
def Fits (t : FileTree) (trail : Trail) (names : List String) : Prop :=
  ∀ q target, t.Looks trail names q → t.nodeAt? (t.spot q) = some (.link target) →
    q.path.text.utf8ByteSize < pathByteLimit

namespace Fits

theorem nil (t : FileTree) (trail : Trail) : t.Fits trail [] := nofun

theorem up (h : t.Fits trail.up rest) : t.Fits trail (".." :: rest) := by
  intro q target hq hlink
  cases hq with
  | here hown => exact absurd rfl hown.ne_up
  | dot hskip => exact absurd hskip (by decide)
  | up hq => exact h q target hq hlink
  | down hown => exact absurd rfl hown.ne_up
  | link hown => exact absurd rfl hown.ne_up

theorem down (hname : IsOwnName name)
    (hno : ∀ target, t.nodeAt? (t.spot (trail.down name)) ≠ some (.link target))
    (h : t.Fits (trail.down name) rest) : t.Fits trail (name :: rest) := by
  intro q target hq hlink
  cases hq with
  | here => exact absurd hlink (hno target)
  | dot hskip => exact absurd hskip (not_or.mpr ⟨hname.ne_empty, hname.ne_dot⟩)
  | up => exact absurd rfl hname.ne_up
  | down _ _ hq => exact h q target hq hlink
  | link _ hhere => exact absurd hhere (hno _)

theorem link (hname : IsOwnName name)
    (hhere : t.nodeAt? (t.spot (trail.down name)) = some (.link target))
    (hshort : (trail.down name).path.text.utf8ByteSize < pathByteLimit)
    (h : t.Fits (trail.ofLink target) (Path.pieces target ++ rest)) : t.Fits trail (name :: rest) := by
  intro q target' hq hlink
  cases hq with
  | here => exact hshort
  | dot hskip => exact absurd hskip (not_or.mpr ⟨hname.ne_empty, hname.ne_dot⟩)
  | up => exact absurd rfl hname.ne_up
  | down _ hno => exact absurd hhere (hno _)
  | link _ hsame hq =>
    obtain rfl := Node.link.inj (Option.some.inj (hhere.symm.trans hsame))
    exact h q target' hq hlink

end Fits

/-- Names that can be followed to an end, from a trail without links, and nothing on the way that is
refused. -/
structure Traceable (t : FileTree) (n : Nat) (trail : Trail) (names : List String) (e : Trail) :
    Prop where
  follows : t.Follows n trail names e
  clean : t.Clean trail
  fits : t.Fits trail names
  noNul_trail : NoNul trail.names
  noNul : NoNul names

namespace Traceable

variable {m : Nat} {mid : Trail}

theorem noNul_rest (h : t.Traceable n trail (name :: rest) e) : NoNul rest :=
  fun last hlast => h.noNul last (List.mem_cons_of_mem _ hlast)

theorem hasNul_down (h : t.Traceable n trail (name :: rest) e) :
    hasNul (trail.down name).path = false :=
  hasNul_eq_false (noNul_down h.noNul_trail (h.noNul name List.mem_cons_self))

theorem dot (h : t.Traceable n trail (name :: rest) e) (hname : name = "" ∨ name = ".")
    (hrest : t.Follows m trail rest e) : t.Traceable m trail rest e :=
  ⟨hrest, h.clean, fun q l hq => h.fits q l (.dot hname hq), h.noNul_trail, h.noNul_rest⟩

theorem up (h : t.Traceable n trail (".." :: rest) e) (hrest : t.Follows m trail.up rest e) :
    t.Traceable m trail.up rest e :=
  ⟨hrest, h.clean.up, fun q l hq => h.fits q l (.up hq), Trail.noNul_up h.noNul_trail,
    h.noNul_rest⟩

theorem down (h : t.Traceable n trail (name :: rest) e) (hname : IsOwnName name)
    (hno : ∀ target, t.nodeAt? (t.spot (trail.down name)) ≠ some (.link target))
    (hrest : t.Follows m (trail.down name) rest e) : t.Traceable m (trail.down name) rest e :=
  ⟨hrest, h.clean.down hname hno, fun q l hq => h.fits q l (.down hname hno hq),
    noNul_down h.noNul_trail (h.noNul name List.mem_cons_self), h.noNul_rest⟩

section Link

variable (ht : t.Proper) (h : t.Traceable n trail (name :: rest) e) (hname : IsOwnName name)
  (hlink : t.nodeAt? (t.spot (trail.down name)) = some (.link target))
  (hinner : t.Follows m (trail.ofLink target) (Path.pieces target) mid)

include ht h hname hlink

theorem findLink_eq : t.findLink (trail.down name).path = .ok (.link target) :=
  (h.clean.findLink_eq_ok_link_iff ht hname (h.fits _ _ (.here hname) hlink) target).mpr hlink

include hinner

/-- The target of a link, which is followed first. -/
theorem inner : t.Traceable m (trail.ofLink target) (Path.pieces target) mid :=
  ⟨hinner, h.clean.ofLink target, fun q l hq => h.fits q l (.link hname hlink (hq.append rest)),
    noNul_ofLink h.noNul_trail target, noNul_pieces (ht.targets _ _ hlink)⟩

/-- What stands behind a link, from where its target ends. -/
theorem after {m' : Nat} (hrest : t.Follows m' mid rest e) : t.Traceable m' mid rest e :=
  ⟨hrest, hinner.clean (h.clean.ofLink target),
    fun q l hq => h.fits q l (.link hname hlink (hq.after hinner)),
    hinner.noNul ht (noNul_ofLink h.noNul_trail target) (noNul_pieces (ht.targets _ _ hlink)),
    h.noNul_rest⟩

end Link

end Traceable

/-- What is to hold while `n` steps are left: what has been seen is right, the links that are open
are longer, and there is fuel for all others. -/
structure Underway (t : FileTree) (n fuel : Nat) (seen : List (Trail × Option Trail))
    (places : List (List String)) : Prop where
  seen : t.Seen seen places
  opened : t.Opened n places
  fuel : t.root.countLinks ≤ fuel + places.length

theorem Underway.mono {m : Nat} (h : t.Underway n fuel seen places) (hmn : m ≤ n) :
    t.Underway m fuel seen places :=
  ⟨h.seen, h.opened.mono hmn, h.fuel⟩

/-- What can be followed to its end is traced to there. -/
theorem exists_trace (ht : t.Proper) (h : t.Traceable n trail names e)
    (hrun : t.Underway n fuel seen places) :
    ∃ seen', t.trace fuel seen trail names = .ok ⟨e, seen', true⟩ ∧ t.Seen seen' places ∧
      Seen.Keeps seen seen' := by
  induction n using Nat.strongRecOn generalizing fuel seen places trail names e with
  | _ n ih =>
    have hfollows := h.follows
    cases hfollows with
    | nil => exact ⟨seen, trace_nil, hrun.seen, fun q hq => hq⟩
    | dot hname hrest =>
      rw [trace_dot hname]
      exact ih _ (Nat.lt_succ_self _) (h.dot hname hrest) (hrun.mono (Nat.le_succ _))
    | up hrest =>
      rw [trace_up]
      exact ih _ (Nat.lt_succ_self _) (h.up hrest) (hrun.mono (Nat.le_succ _))
    | down hname hno hrest =>
      rw [trace_down hname h.hasNul_down (h.clean.findLink_ne_ok_link ht hname hno)]
      exact ih _ (Nat.lt_succ_self _) (h.down hname hno hrest) (hrun.mono (Nat.le_succ _))
    | @link _ _ _ name target rest hname hlink hall =>
      obtain ⟨n₁, n₂, mid, h₁, h₂, rfl⟩ := hall.split
      have hfind := h.findLink_eq ht hname hlink
      have hafter := h.after ht hname hlink h₁ h₂
      cases hlookup : seen.lookup (trail.down name) with
      | some known =>
        cases known with
        | none =>
          -- a link that is open takes more steps than are left
          have hopen := hrun.seen.opened _ hlookup
          exact absurd hopen (hrun.opened.not_mem hname hlink h₁ (by omega))
        | some resolved =>
          obtain ⟨m, target', hlink', hresolved⟩ :=
            hrun.seen.resolved trail name resolved hlookup
          obtain rfl : target' = target := Node.link.inj (Option.some.inj (hlink'.symm.trans hlink))
          obtain ⟨-, rfl⟩ := hresolved.unique h₁
          rw [trace_known hname h.hasNul_down hfind hlookup]
          exact ih n₂ (by omega) hafter (hrun.mono (by omega))
      | none =>
        have hopened := hrun.opened.cons hname hlink h₁ (by omega)
        have hroom := hopened.length_le
        have hfuel := hrun.fuel
        rw [List.length_cons] at hroom
        obtain ⟨fuel, rfl⟩ : ∃ f, fuel = f + 1 := ⟨fuel - 1, by omega⟩
        have hinside : t.Underway n₁ fuel ((trail.down name, none) :: seen)
            (t.spot (trail.down name) :: places) :=
          ⟨hrun.seen.opening (trail.down name), hopened, by rw [List.length_cons]; omega⟩
        obtain ⟨seen₁, hinner, hseen₁, hkeeps₁⟩ :=
          ih n₁ (by omega) (h.inner ht hname hlink h₁) hinside
        obtain ⟨hseen₂, hkeeps₂⟩ := hrun.seen.closing hseen₁ hkeeps₁ hlink h₁
        rw [trace_new hname h.hasNul_down hfind hlookup hinner]
        obtain ⟨seen₃, htrace, hseen₃, hkeeps₃⟩ :=
          ih n₂ (by omega) hafter ⟨hseen₂, hrun.opened.mono (by omega), hfuel⟩
        exact ⟨seen₃, htrace, hseen₃, fun q hq => hkeeps₂ q (hkeeps₃ q hq)⟩

/-- There are no links where a path is followed from. -/
theorem clean_start (t : FileTree) (absolute : Bool) : t.Clean ⟨absolute, []⟩ := by
  cases absolute with
  | true => exact .root
  | false => exact .dots 0

/-- The fuel is enough for names that can be followed to an end from the start of a path. -/
theorem exists_trace_start (ht : t.Proper) {absolute : Bool} (h : t.Follows n ⟨absolute, []⟩ names e)
    (hnul : NoNul names) (hfits : t.Fits ⟨absolute, []⟩ names) :
    ∃ seen, t.trace t.traceFuel [] ⟨absolute, []⟩ names = .ok ⟨e, seen, true⟩ := by
  have htraceable : t.Traceable n ⟨absolute, []⟩ names e :=
    ⟨h, t.clean_start absolute, hfits, fun name hname => absurd hname List.not_mem_nil, hnul⟩
  have hfuel : t.root.countLinks ≤ t.traceFuel + ([] : List (List String)).length := by
    unfold traceFuel
    rw [List.length_nil, Nat.add_zero]
    exact Nat.le_trans (Nat.le_succ _) (Nat.le_mul_of_pos_right _ (Nat.succ_pos _))
  have hrun : t.Underway n t.traceFuel [] [] := ⟨⟨nofun, nofun⟩, ⟨List.nodup_nil, nofun⟩, hfuel⟩
  obtain ⟨seen, htrace, -, -⟩ := exists_trace ht htraceable hrun
  exact ⟨seen, htrace⟩

/-- A path resolves to where its trace ends, unless looking that up is refused because of links. -/
theorem resolve_of_trace {p : Path}
    (htrace : t.trace t.traceFuel [] ⟨p.isAbsolute, []⟩ p.names = .ok ⟨e, seen, true⟩)
    (hfind : t.find ⟨.slash, t.spot e⟩ ≠ .error .tooManyLinks) :
    t.resolve p = .ok ⟨.slash, t.spot e⟩ := by
  unfold resolve
  rw [htrace]
  simp only [bind, Except.bind]
  split
  · rename_i h
    exact absurd h hfind
  · rfl

/-- A path resolves to the place where its names end, every link followed by its target. -/
def ResolvesTo (t : FileTree) (p r : Path) : Prop :=
  ∃ n e, t.Follows n ⟨p.isAbsolute, []⟩ p.names e ∧ r = ⟨.slash, t.spot e⟩

theorem resolve_of_resolvesTo (ht : t.Proper) {p r : Path} (h : t.ResolvesTo p r)
    (hnul : NoNul p.names) (hfits : t.Fits ⟨p.isAbsolute, []⟩ p.names) : t.resolve p = .ok r := by
  obtain ⟨n, e, hfollows, rfl⟩ := h
  obtain ⟨seen, htrace⟩ := exists_trace_start ht hfollows hnul hfits
  exact resolve_of_trace htrace ((hfollows.clean (t.clean_start _)).find_ne_tooManyLinks ht)

theorem NoCycle.exists_resolvesTo (h : t.NoCycle) (p : Path) : ∃ r, t.ResolvesTo p r := by
  obtain ⟨n, e, hfollows⟩ := h ⟨p.isAbsolute, []⟩ p.names
  exact ⟨_, n, e, hfollows, rfl⟩

theorem ResolvesTo.unique {p r r' : Path} (h : t.ResolvesTo p r) (h' : t.ResolvesTo p r') :
    r = r' := by
  obtain ⟨n, e, hfollows, rfl⟩ := h
  obtain ⟨n', e', hfollows', rfl⟩ := h'
  rw [(hfollows.unique hfollows').2]

end FileTree

end BuildScript.Files
