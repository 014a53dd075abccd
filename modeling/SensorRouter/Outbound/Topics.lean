import SensorRouter.Message.Basic
import SensorRouter.Settings.Basic
import SensorRouter.Text.Template

/-!
Topics that messages are published on, expanded from the templates of the settings.
-/

namespace SensorRouter

namespace QueueSettings

/-- The topic on which messages of a kind go to trigger evaluation. -/
def triggerTopic (s : QueueSettings) (kind : MessageKind) : String :=
  Text.substitute s.triggerTemplate Text.typeMark kind.segment

/-- The topic on which messages of a kind are stored; control messages are not. -/
def storageTopic? (s : QueueSettings) : MessageKind → Option String
  | .measurement => some s.measurementStorageTopic
  | .text => some s.messageStorageTopic
  | .control => none

/-- The topic on which messages of a kind go to a live data target. -/
def liveTopic (s : QueueSettings) (kind : MessageKind) (target : String) : String :=
  Text.substitute (Text.substitute s.liveTemplate Text.typeMark kind.segment) Text.targetMark
    target

end QueueSettings

namespace RoutingSettings

/-- The topic of a sensor's actuators. -/
def actuatorTopic (s : RoutingSettings) (sensorId : String) : String :=
  Text.substitute s.actuatorTemplate Text.idMark sensorId

/-- The topic on which a message of a sensor is published again. -/
def publicTopic (s : RoutingSettings) (kind : MessageKind) (sensorId : String) : String :=
  Text.substitute (Text.substitute s.publicTemplate Text.typeMark kind.segment) Text.idMark sensorId

end RoutingSettings

end SensorRouter
