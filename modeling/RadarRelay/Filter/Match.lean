import RadarRelay.Filter.Evaluation
import RadarRelay.Activity

/-!
# Matching as part of an activity

Whether a file matches is asked while it is routed. An expression without a
value for the file is reported and counts as no match.
-/

namespace RadarRelay

namespace Expression

/-- Whether a file satisfies an expression. -/
def check {State : Type} (expression : Expression) (metadata : Metadata) :
    Activity State Bool := do
  match expression.fault? metadata with
  | some fault =>
      Activity.note "filter_evaluation_failed" "matcher"
        [ ("expression", expression.render),
          ("err", (Error.evaluation fault.message).message) ]
      return false
  | none => return expression.accepts metadata

end Expression

end RadarRelay
