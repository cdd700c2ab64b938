import RadarRelay.Filter.Match
import RadarRelay.Filter.Report
import RadarRelay.Filter.Tree

/-!
# Subscriptions

A subscription is an inbound routing rule: which files it accepts, from whom,
and where they are stored.
-/

namespace RadarRelay

open RadarRelay.Number RadarRelay.Text

structure Subscription where
  id : Option String
  active : Bool
  /-- Names of storages, one attempt for each entry. -/
  storages : List String
  filter : Filter
  allowDuplicates : Bool
  /-- Origins that may feed the subscription; all when there are none. -/
  allowedOrigins : List String
  statistics : List Hook

/-- Why a file is not dispatched to a subscription. -/
inductive SkipReason where
  | inactive
  | duplicate
  | originNotAllowed
  | filterMismatch
  deriving DecidableEq, Repr

/-- The wording of a reason. -/
def SkipReason.text : SkipReason → String
  | inactive => "inactive"
  | duplicate => "duplicate"
  | originNotAllowed => "origin_not_allowed"
  | filterMismatch => "filter_mismatch"

namespace Subscription

/-- The id in events; subscriptions without one show as `none`. -/
def shownId (subscription : Subscription) : String :=
  subscription.id.getD "none"

/-- Whether an origin may feed the subscription. -/
def permits (subscription : Subscription) (origin : String) : Bool :=
  subscription.allowedOrigins.isEmpty || subscription.allowedOrigins.contains origin

/-- The expression that files have to satisfy. -/
def expression (subscription : Subscription) : Expression :=
  subscription.filter.compile

/-- Why a file is not for the subscription, if it is not. The filter is asked last. -/
def skipReason? {State : Type} (subscription : Subscription) (duplicate : Bool) (origin : String)
    (metadata : Metadata) : Activity State (Option SkipReason) := do
  if !subscription.active then return some .inactive
  else if duplicate && !subscription.allowDuplicates then return some .duplicate
  else if !subscription.permits origin then return some .originNotAllowed
  else if ← subscription.expression.check metadata then return none
  else return some .filterMismatch

/-- A subscription in a report. -/
def report (subscription : Subscription) : String :=
  let id := match subscription.id with
    | some id => "Some(" ++ quoted id ++ ")"
    | none => "None"
  "Subscription \x7b id: " ++ id ++
    ", active: " ++ Event.boolText subscription.active ++
    ", storages: " ++ quotedList subscription.storages ++
    ", filter: " ++ subscription.filter.report ++
    ", allow_duplicates: " ++ Event.boolText subscription.allowDuplicates ++
    ", allowed_origins: " ++ quotedList subscription.allowedOrigins ++
    ", statistics: " ++ natText subscription.statistics.length ++ " \x7d"

end Subscription

end RadarRelay
