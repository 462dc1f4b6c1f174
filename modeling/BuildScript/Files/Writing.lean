import BuildScript.Files.Trouble

/-!
Writing to files: making sure that a file is there, and adding text at its end. A file that is opened is
told by the place where it really is.
-/

namespace BuildScript.Files

/-- The path from the root on, each `..` taken together with the name in front of it, whatever links
there are. -/
def Path.absolute (p : Path) (current : List String) : Path :=
  if p.isAbsolute then { p with names := foldParents p.names }
  else ⟨.slash, foldParents (current ++ p.names)⟩

namespace FileTree

/-- Makes an empty file if a path leads to nothing. -/
def touch (t : FileTree) (p : Path) : Except Trouble FileTree :=
  if hasNul p then .error .embeddedNul
  else match t.find p with
    | .ok _ => .ok t
    | .error _ =>
      match t.locateNew p with
      | .ok names => .ok (t.place names (.file ""))
      | .error e => .error (.system e p.text)

/-- Opens a file to add text at its end; it is made if it is not there. The result has the place of the
file. -/
def openToAdd (t : FileTree) (p : Path) : Except Trouble (FileTree × List String) :=
  match t.locateNew p with
  | .error e => .error (.system e p.text)
  | .ok names =>
    match t.nodeAt? names with
    | some (.file _) => .ok (t, names)
    | some _ => .error (.system .isDirectory p.text)
    | none => .ok (t.place names (.file ""), names)

/-- Adds text at the end of the file at a place. -/
def addText (t : FileTree) (names : List String) (text : String) : FileTree :=
  match t.nodeAt? names with
  | some (.file old) => t.place names (.file (old ++ text))
  | _ => t

end FileTree

end BuildScript.Files
