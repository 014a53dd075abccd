import SensorRouter.Message.Wire

/-!
Intake: a text that holds one message or a batch of messages. A batch is an array of messages; an
array that is no batch may still be one message in array form.
-/

namespace SensorRouter.Message

open Json (Document)

/-- The messages of a document, all of whose parts must have a value. -/
def listOfDocument (now : Instant) (d : Document) : Option (List Message) :=
  if d.value?.isNone then none
  else
    d.list? (ofDocument .byNameOrIndex now) <|>
      (ofDocument .byNameOrIndex now d).map fun m => [m]

/-- The messages of a text, taken in now whatever it says of that. -/
def intake (now : Instant) (bytes : ByteArray) : Option (List Message) :=
  ((Document.ofBytes bytes).bind (listOfDocument now)).map fun messages =>
    messages.map (restamp · now)

end SensorRouter.Message
