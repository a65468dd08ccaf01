import BeaconLight.Record.Versioned
import BeaconLight.Text.Blank

/-!
# Light client events

A node announces finality and optimistic updates on an event stream, each kind under a topic
of its own. Events of other topics and events without data are passed over.
-/

namespace BeaconLight

/-- A light client event. -/
inductive Event
  | finality (record : Versioned .finalityUpdate)
  | optimistic (record : Versioned .optimisticUpdate)
  deriving DecidableEq

namespace Event

/-- The topic of finality updates. -/
def finalityTopic : String := "light_client_finality_update"

/-- The topic of optimistic updates. -/
def optimisticTopic : String := "light_client_optimistic_update"

/-- The topic of an event. -/
def topic : Event → String
  | .finality _ => finalityTopic
  | .optimistic _ => optimisticTopic

/-- Reads an event from its topic and data; there is none when the topic is another or the
data blank. -/
def read? (topic : String) (data : List UInt8) : Except RecordError (Option Event) :=
  if data.all Text.isAsciiBlank then .ok none
  else if topic = finalityTopic then
    (Versioned.ofEvent .finalityUpdate data).map (some ∘ .finality)
  else if topic = optimisticTopic then
    (Versioned.ofEvent .optimisticUpdate data).map (some ∘ .optimistic)
  else .ok none

end Event

end BeaconLight
