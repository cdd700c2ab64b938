import RadarRelay.Activity

/-!
# Counting events

Hooks are told of an event one after the other. A hook that fails is reported
and otherwise ignored.
-/

namespace RadarRelay

namespace Hook

variable {State : Type}

/-- Tells one hook of an event. -/
def increment (component origin : String) (metadata : Metadata) (hook : Hook) :
    Activity State Unit := do
  match ← Activity.request (.increment hook origin metadata) with
  | .ok () => return ()
  | .error error =>
      Activity.note "statistics_increment_failed" component
        [ ("statistics", hook.id),
          ("origin", Metadata.originText origin),
          ("file_id", metadata.fileId),
          ("err", error.message) ]

/-- Tells every hook of an event. -/
def incrementAll (component origin : String) (metadata : Metadata) (hooks : List Hook) :
    Activity State Unit :=
  Activity.each (increment component origin metadata) hooks

end Hook

end RadarRelay
