import BuildScript.Files.Trouble

/-!
Resolved paths: absolute, without links and without `..`. Names are taken one by one; a link is
replaced by what its target resolves to, a name that is no link, or is not there, stays, and `..` takes
the last name off. A link met again while it is being resolved ends the work: it and the names behind
it stay as they are. If the file system then finds a cycle at the result, there is no resolved path.
-/

namespace BuildScript.Files

/-- The part of a path that is already resolved, from the root or from the current directory. -/
structure Trail where
  absolute : Bool
  names : List String
  deriving Repr, DecidableEq, Inhabited

namespace Trail

/-- The trail as a path. -/
def path (t : Trail) : Path := ⟨if t.absolute then .slash else .relative, t.names⟩

/-- The trail one name further. -/
def down (t : Trail) (n : String) : Trail := { t with names := t.names ++ [n] }

/-- The trail of the directory above. -/
def up (t : Trail) : Trail :=
  match t.names.getLast? with
  | none => if t.absolute then t else { t with names := [".."] }
  | some ".." => t.down ".."
  | some _ => { t with names := t.names.dropLast }

/-- The names from the root on, for a trail in a current directory. -/
def fold (t : Trail) (current : List String) : List String :=
  Path.foldParents (if t.absolute then t.names else current ++ t.names)

end Trail

/-- What following a trail has come to: the trail, the links seen with what they resolve to (nothing
while that is open), and whether all names were taken. -/
structure Tracing where
  trail : Trail
  seen : List (Trail × Option Trail)
  complete : Bool

mutual

/-- The number of links among a node and those below it. -/
def Node.countLinks : Node → Nat
  | .file _ => 0
  | .link _ => 1
  | .dir es => countLinksIn es

/-- The number of links among entries and below them. -/
def countLinksIn : List (String × Node) → Nat
  | [] => 0
  | (_, n) :: rest => n.countLinks + countLinksIn rest

end

namespace FileTree

/-- Follows names from a trail on. `fuel` bounds how deep links may lie inside each other. -/
def trace (t : FileTree) (fuel : Nat) (seen : List (Trail × Option Trail)) (trail : Trail)
    (names : List String) : Except Trouble Tracing :=
  match names with
  | [] => .ok ⟨trail, seen, true⟩
  | name :: rest =>
    if name = "" || name = "." then t.trace fuel seen trail rest
    else if name = ".." then t.trace fuel seen trail.up rest
    else
      let next := trail.down name
      if hasNul next.path then .error .embeddedNul
      else match t.findLink next.path with
        | .ok (.link target) =>
          match seen.lookup next with
          | some (some resolved) => t.trace fuel seen resolved rest
          | some none => .ok ⟨⟨next.absolute, next.names ++ rest⟩, seen, false⟩
          | none =>
            match fuel with
            | 0 => .ok ⟨⟨next.absolute, next.names ++ rest⟩, seen, false⟩
            | fuel + 1 => do
              let start : Trail := if target.startsWith "/" then ⟨true, []⟩ else trail
              let inner ← t.trace fuel ((next, none) :: seen) start (Path.pieces target)
              if inner.complete then
                t.trace (fuel + 1) ((next, some inner.trail) :: inner.seen) inner.trail rest
              else .ok ⟨⟨inner.trail.absolute, inner.trail.names ++ rest⟩, inner.seen, false⟩
        | _ => t.trace fuel seen next rest
termination_by (fuel, names.length)

/-- A bound on how deep links may lie inside each other before one of them is met again. -/
def traceFuel (t : FileTree) : Nat := (t.root.countLinks + 1) * (t.current.length + 3)

/-- The resolved path. -/
def resolve (t : FileTree) (p : Path) : Except Trouble Path := do
  let tracing ← t.trace t.traceFuel [] ⟨p.isAbsolute, []⟩ p.names
  let resolved : Path := ⟨.slash, tracing.trail.fold t.current⟩
  match t.find resolved with
  | .error .tooManyLinks => .error (.linkCycle resolved.text)
  | _ => .ok resolved

end FileTree

end BuildScript.Files
