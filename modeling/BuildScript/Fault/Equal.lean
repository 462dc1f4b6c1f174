import BuildScript.Fault.Basic

/-!
Equality of faults. A fault equals one of its own class or a special case of it with the same message
and data, when what led directly to each is of one class and has the same arguments. What lies further
back in the chain is not looked at. Where the right-hand fault is of a special case of the left-hand
one's class, it is the right-hand one that decides.
-/

namespace BuildScript

/-- The class and arguments of what led directly to a fault. -/
def Fault.cause? (f : Fault) : Option (String × List Value) :=
  match f.priors, f.root with
  | l :: _, _ => some (l.className, [.text l.message])
  | [], some e => some (e.className, e.args)
  | [], none => none

/-- Whether two causes are of one class with the same arguments. -/
def sameCause : Option (String × List Value) → Option (String × List Value) → Bool
  | none, none => true
  | some a, some b => a.1 = b.1 && Value.eqAll a.2 b.2
  | _, _ => false

namespace Link

/-- Whether the other link, of this link's class or a special case of it, holds the same. -/
def agrees : Link → Link → Bool
  | own _ m d, b => m = b.message && Value.eq d b.data
  | call f d, call g e => f.eq g && f.message = g.message && Value.eq d e
  | call _ _, own _ _ _ => false

end Link

namespace Fault

/-- Whether `a` takes `b` for equal. -/
def accepts (a b : Fault) : Bool :=
  b.head.below a.head && a.head.agrees b.head && sameCause a.cause? b.cause?

/-- Whether two faults are equal. -/
def eq (a b : Fault) : Bool :=
  if b.head.below a.head && !a.head.below b.head then b.accepts a else a.accepts b

/-- Whether two faults differ. The fault that decides whether they are equal is asked, and its answer turned
round. -/
def differs (a b : Fault) : Bool :=
  if b.head.below a.head && !a.head.below b.head then !b.accepts a else !a.accepts b

end Fault

/-- The copy of a failure, its individuals renamed. -/
def CallFailure.copy (rename : Nat → Nat) (f : CallFailure) : CallFailure :=
  { f with arguments := Value.copyAll rename f.arguments }

/-- The copy of a link, its individuals renamed. -/
def Link.copy (rename : Nat → Nat) : Link → Link
  | own c m d => own c m (d.copy rename)
  | call f d => call (f.copy rename) (d.copy rename)

/-- The copy of an error from outside, its individuals renamed. -/
def OtherError.copy (rename : Nat → Nat) (e : OtherError) : OtherError :=
  { e with args := Value.copyAll rename e.args, files := Value.copyAll rename e.files }

/-- The copy of a fault, rebuilt from its message, data and chain. -/
def Fault.copy (rename : Nat → Nat) (f : Fault) : Fault :=
  { head := f.head.copy rename, priors := f.priors.map (·.copy rename)
    root := f.root.map (·.copy rename) }

end BuildScript
