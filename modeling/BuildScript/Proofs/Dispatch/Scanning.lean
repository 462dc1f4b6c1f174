import BuildScript.Proofs.Dispatch.Offered
import BuildScript.Proofs.Files.Failing

/-!
What the function comes to that looks for a file in the probing paths: the path of the file, which is absolute, or
the failure that there is none, or a failed invocation where probing fails. Main statement: `scan_failures`, that
the last is so exactly where the search meets a path that the system refuses, or takes an entry whose links lead
back to themselves.
-/

namespace BuildScript

open Files (FileTree LookupError Path Trouble isPlainName)

namespace OtherError

theorem isNumbered_ofTrouble (e : LookupError) (path : String) :
    isNumbered (Trouble.system e path).className 2 = true := by
  cases e <;> rfl

/-- What is raised for a trouble with a path has the text of the trouble. -/
theorem text_ofTrouble (t : Trouble) : (ofTrouble t).text = t.message := by
  cases t with
  | linkCycle path => rfl
  | embeddedNul => rfl
  | system e path =>
    have hnumber : Number.intText e.code = Number.natText e.code := by
      unfold Number.intText Number.intChars
      rw [if_neg (Int.not_lt.mpr (Int.natCast_nonneg _)), Int.natAbs_natCast]
      rfl
    unfold ofTrouble text
    dsimp only [List.length_cons, List.length_nil, Nat.zero_add, Nat.reduceAdd]
    rw [isNumbered_ofTrouble]
    show "[Errno " ++ Number.intText e.code ++ "] " ++ e.text ++ (": " ++ Text.quoted path) = _
    rw [hnumber, ← String.append_assoc]
    rfl

theorem obstacle?_ofTrouble (t : Trouble) : (ofTrouble t).obstacle? = none := by
  cases t with
  | linkCycle path => rfl
  | embeddedNul => rfl
  | system e path =>
    have hshort : Number.isTooLong e.code = false := by cases e <;> decide +kernel
    simp [ofTrouble, obstacle?, parts, isNumbered_ofTrouble, Value.obstacleAll?, Value.obstacle?, hshort]

end OtherError

/-- A trouble with a path is a failed invocation. -/
theorem Call.settled_troubled (c : Call) (t : Trouble) :
    c.settled (Core.troubled t) =
      .ok (.failure (c.failing .invocationFailed ("Function call failed: " ++ t.message))) := by
  have hwrapped := Raised.wrapped_of_text (e := .other (.ofTrouble t)) "Function call failed" rfl
    (OtherError.obstacle?_ofTrouble t)
  have htext : "Function call failed" ++ ": " ++ (Raised.other (.ofTrouble t)).text =
      "Function call failed: " ++ t.message := by
    rw [Raised.text, OtherError.text_ofTrouble]
    rfl
  simp only [Core.troubled, Call.settled, hwrapped, c.failure_because, htext]

namespace Evaluation

variable {acts : List Act} {file : String}

/-- The call that looks for a file in the probing paths. -/
def scanCall (name : String) : Call := .about "nant" "scan-probing-paths" name

/-- Looking for a file comes to what its search comes to. -/
theorem Offers.scan_eq (h : Offers acts "nant" (Core.libraryFunctions file)) (s : Scene)
    (name : String) :
    result acts s (scanCall name) = (scanCall name).settled (Core.scanProbingPaths s name).1 := by
  have hforgetful : (Core.libraryFunctions file).Forgetful :=
    Core.forgetful_of_mem (show Core.libraryFunctions file ∈ Core.classes file by simp [Core.classes])
  exact h.result_named "scan-probing-paths" .text hforgetful
    (by simp [Core.libraryFunctions, Core.setClass]) (gives rfl rfl (by decide) (by decide) (by decide)) s name

theorem Offers.scan_of_error (h : Offers acts "nant" (Core.libraryFunctions file)) {s : Scene}
    {name : String} {e : Trouble}
    (hout : (s.host.tree.probe s.project.probingPaths name true).outcome = .error e) :
    result acts s (scanCall name) = .ok (.failure ((scanCall name).failing .invocationFailed
      ("Function call failed: " ++ e.message))) := by
  rw [h.scan_eq, Core.scanProbingPaths]
  dsimp only
  rw [hout]
  exact (scanCall name).settled_troubled e

/-- Probing fails exactly where the search meets a path that is refused, or an entry whose links lead back to
themselves: a link that a walk has found and that leads nowhere. The call is a failed invocation then. Else it comes
to the absolute path of the file, or to the failure that there is none. -/
theorem scan_failures (h : Offers acts "nant" (Core.libraryFunctions file)) (s : Scene)
    (hs : s.host.tree.Proper) (name : String) :
    (∀ directories recursive e,
        (s.host.tree.probe directories name recursive).outcome = .error e ↔
          isPlainName name = true ∧ s.host.tree.Fails recursive name directories e) ∧
      (∀ directories recursive e, isPlainName name = true →
        s.host.tree.Fails recursive name directories e →
        (∃ p, s.host.tree.Refuses p ∧ e = .system .nameTooLong p.text) ∨
          ∃ d ∈ directories, ∃ rel, s.host.tree.Takes recursive name d rel ∧
            (∃ r : Path, e = .linkCycle r.text) ∧
            (s.host.tree.Fits ⟨d.isAbsolute, []⟩ (FileTree.entryPath d rel name).names →
              s.host.tree.LeadsNowhere recursive name d rel)) ∧
      (∀ e, isPlainName name = true → s.host.tree.Fails true name s.project.probingPaths e →
        result acts s (scanCall name) = .ok (.failure ((scanCall name).failing .invocationFailed
          ("Function call failed: " ++ e.message)))) ∧
      ((∀ e, ¬(isPlainName name = true ∧ s.host.tree.Fails true name s.project.probingPaths e)) →
        (∃ p, (s.host.tree.probe s.project.probingPaths name true).outcome = .ok (some p) ∧
          p.isAbsolute = true ∧ result acts s (scanCall name) = .ok (.value (.text p.text))) ∨
        ((s.host.tree.probe s.project.probingPaths name true).outcome = .ok none ∧
          result acts s (scanCall name) = .ok (.failure ((scanCall name).failing .fileNotFound
            ("'" ++ name ++ "' could not be found in any of the configured probing paths."))))) := by
  refine ⟨fun directories recursive e => FileTree.probe_eq_error_iff hs e,
    fun directories recursive e hplain hfails => hfails.origin hs hplain, fun e hplain hfails =>
    h.scan_of_error ((FileTree.probe_eq_error_iff hs e).mpr ⟨hplain, hfails⟩), fun hno => ?_⟩
  rw [h.scan_eq, Core.scanProbingPaths]
  dsimp only
  cases hout : (s.host.tree.probe s.project.probingPaths name true).outcome with
  | error e => exact absurd ((FileTree.probe_eq_error_iff hs e).mp hout) (hno e)
  | ok found =>
    cases found with
    | none => exact .inr ⟨rfl, Call.settled_fault _ rfl _⟩
    | some p => exact .inl ⟨p, rfl, FileTree.isAbsolute_of_probe hs hout, rfl⟩

/-- A build in a tree with a box, which is the one probing path. -/
def boxScene (tree : FileTree) : Scene :=
  { project := { bareScene.project with probingPaths := [FileTree.boxPath] }
    host := { bareScene.host with tree } }

theorem offers_nant : Offers (registering (libraryPlugins "")) "nant" (Core.libraryFunctions "") :=
  offers_library "" (by simp [Core.classes]) rfl

/-- A file in the box is found. -/
theorem scan_own :
    FileTree.box.Proper ∧
      Offers (registering (libraryPlugins "")) "nant" (Core.libraryFunctions "") ∧
      result (registering (libraryPlugins "")) (boxScene FileTree.box) (scanCall "own") =
        .ok (.value (.text "/box/own")) := by
  have hfound : ((boxScene FileTree.box).host.tree.probe [FileTree.boxPath] "own" true).outcome =
      .ok (some ⟨.slash, ["box", "own"]⟩) :=
    FileTree.probe_box (by decide)
      (FileTree.leadsTo_of_find (by decide +kernel) (FileTree.find_of_some FileTree.locate_own rfl))
      (FileTree.resolve_of_locate FileTree.box_proper FileTree.locate_own
        (Files.noNul_of_hasNul (by decide +kernel)) FileTree.own_fits)
  refine ⟨FileTree.box_proper, offers_nant, ?_⟩
  obtain ⟨hfails, -, -, hfine⟩ :=
    scan_failures offers_nant (boxScene FileTree.box) FileTree.box_proper "own"
  obtain ⟨p, hp, -, hresult⟩ | ⟨hnone, -⟩ := hfine fun e he => by
    cases hfound.symm.trans ((hfails [FileTree.boxPath] true e).mpr he)
  · have htext : Path.text ⟨.slash, ["box", "own"]⟩ = "/box/own" := by decide +kernel
    rw [hresult, Option.some.inj (Except.ok.inj (hp.symm.trans hfound)), htext]
  · cases hfound.symm.trans hnone

/-- A link to itself in the box is found too, and looking for it is a failed invocation. -/
theorem scan_self :
    FileTree.snare.Proper ∧
      (FileTree.snare.probe [FileTree.boxPath] "lib" true).outcome = .error (.linkCycle "/box/lib") ∧
      result (registering (libraryPlugins "")) (boxScene FileTree.snare) (scanCall "lib") =
        .ok (.failure ((scanCall "lib").failing .invocationFailed
          "Function call failed: Symlink loop from '/box/lib'")) := by
  have hout : (FileTree.snare.probe [FileTree.boxPath] "lib" true).outcome =
      .error (.linkCycle "/box/lib") :=
    (FileTree.probe_eq_error_iff FileTree.snare_proper _).mpr ⟨by decide, FileTree.fails_self⟩
  have hmessage : "Function call failed: " ++ (Trouble.linkCycle "/box/lib").message =
      "Function call failed: Symlink loop from '/box/lib'" := by decide +kernel
  refine ⟨FileTree.snare_proper, hout, ?_⟩
  rw [← hmessage]
  exact offers_nant.scan_of_error (s := boxScene FileTree.snare) hout

end Evaluation

end BuildScript
