import SurveyDispatch.Text.Utf8

/-!
# Publishing

A publisher keeps every message it is given, in order.  Messages are numbered from one on.  A
message needs a topic.
-/

namespace SurveyDispatch

/-- A message that was published. -/
structure Published where
  /-- Its number in writing. -/
  id : String
  /-- The topic. -/
  topic : String
  /-- The bytes of the message. -/
  payload : Bytes
  deriving DecidableEq, Repr

/-- What was published so far. -/
structure Publisher where
  /-- The messages, the first one first. -/
  messages : List Published
  /-- The number of the last message. -/
  lastId : Nat
  deriving DecidableEq, Repr

namespace Publisher

/-- Nothing published. -/
def empty : Publisher := ⟨[], 0⟩

/-- Publishes a message and gives its id.  Without a topic nothing is published. -/
def publish (p : Publisher) (topic : String) (payload : Bytes) : Option String × Publisher :=
  if topic.isEmpty then (none, p)
  else
    let id := toString (p.lastId + 1)
    (some id, ⟨p.messages ++ [⟨id, topic, payload⟩], p.lastId + 1⟩)

/-- The messages of a topic. -/
def onTopic (p : Publisher) (topic : String) : List Published :=
  p.messages.filter (·.topic == topic)

end Publisher

end SurveyDispatch
