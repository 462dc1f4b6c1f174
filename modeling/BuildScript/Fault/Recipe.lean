import BuildScript.Fault.Basic

/-!
How faults and failures are taken apart, to be stored or sent, and made again. What is made again has a
recipe: a class and what it is to be called with, which is made again first, down to values. A fault is
made of its message, what led to it and its data. The fault of a call is made of the failure in place of
the message, which it takes from there; an error of the system takes its files back among its arguments.
-/

namespace BuildScript

/-- How something is made again. -/
inductive Recipe where
  | value (v : Value)
  | kind (k : FailureKind)
  /-- A class is called with what its own recipes make. -/
  | call (className : String) (args : List Recipe)

/-- The fault with a link in front of what led to it, if there is something. -/
def Link.onto (l : Link) : Option Raised → Fault
  | none => { head := l }
  | some r => .ofLink l r

/-- What a recipe makes. -/
inductive Piece where
  | value (v : Value)
  | kind (k : FailureKind)
  | failure (f : CallFailure)
  | raised (r : Raised)

namespace Piece

/-- The value that a piece is. -/
def value? : Piece → Option Value
  | value v => some v
  | _ => none

/-- What a piece says that led to a fault: nothing, or something that was raised. -/
def cause? : Piece → Option (Option Raised)
  | value .none => some none
  | raised r => some (some r)
  | _ => none

/-- A fault that is made of its own link, a piece for what led to it and one for the data. -/
def faultOf (head : Value → Link) (prior data : Piece) : Option Piece := do
  let cause ← prior.cause?
  let d ← data.value?
  return raised (.fault ((head d).onto cause))

/-- What the class of failures makes of pieces. -/
def makeFailure : List Piece → Option Piece
  | [value (.text space), value (.text function), kind k, value (.text message),
      value (.tuple arguments)] => some (failure ⟨space, function, k, message, arguments⟩)
  | _ => none

/-- What the class of failed calls makes of pieces. -/
def makeCall : List Piece → Option Piece
  | [failure f, prior, data] => faultOf (.call f) prior data
  | _ => none

/-- What another class of faults makes of pieces. -/
def makeOwn (cls : FaultClass) : List Piece → Option Piece
  | [value (.text message), prior, data] => faultOf (.own cls message) prior data
  | _ => none

/-- What a class from outside makes of pieces. -/
def makeOther (className : String) (pieces : List Piece) : Option Piece := do
  let args ← pieces.mapM value?
  match OtherError.make className args with
  | .ok e => return raised (.other e)
  | .error _ => none

/-- What the class of a name makes of pieces. -/
def make (className : String) (pieces : List Piece) : Option Piece :=
  if className = "CallFailure" then makeFailure pieces
  else if className = "FunctionCallError" then makeCall pieces
  else match FaultClass.ofName? className with
    | some cls => makeOwn cls pieces
    | none => makeOther className pieces

end Piece

namespace Recipe

mutual

/-- What a recipe makes; the individuals in the values are new ones, whose identities come from a
renaming of the old. -/
def build (rename : Nat → Nat) : Recipe → Option Piece
  | value v => some (.value (v.copy rename))
  | kind k => some (.kind k)
  | call className args => (buildAll rename args).bind (Piece.make className)

/-- What some recipes make. -/
def buildAll (rename : Nat → Nat) : List Recipe → Option (List Piece)
  | [] => some []
  | r :: rest => (r.build rename).bind fun p => (buildAll rename rest).map fun ps => p :: ps

end

end Recipe

/-- The recipe of a failure. -/
def CallFailure.recipe (f : CallFailure) : Recipe :=
  .call "CallFailure" [.value (.text f.space), .value (.text f.function), .kind f.kind,
    .value (.text f.message), .value (.tuple f.arguments)]

/-- What the class of a link is called with first: the message, or the failure that has it. -/
def Link.subject : Link → Recipe
  | own _ m _ => .value (.text m)
  | call f _ => f.recipe

/-- The recipe of a link, from that of what led to it. -/
def Link.recipe (l : Link) (prior : Recipe) : Recipe :=
  .call l.className [l.subject, prior, .value l.data]

/-- What the class of an error from outside is called with, its files among them. -/
def OtherError.arguments (e : OtherError) : List Value :=
  match e.files with
  | [] => e.args
  | [file] => e.args ++ [file]
  | file :: other :: _ => e.args ++ [file, .none, other]

/-- The recipe of an error from outside. -/
def OtherError.recipe (e : OtherError) : Recipe := .call e.className (e.arguments.map .value)

/-- The recipe of what a chain ends in. -/
def Fault.rootRecipe (f : Fault) : Recipe :=
  match f.root with
  | some e => e.recipe
  | none => .value .none

/-- The recipe of a fault, from the end of its chain. -/
def Fault.recipe (f : Fault) : Recipe := (f.head :: f.priors).foldr Link.recipe f.rootRecipe

end BuildScript
