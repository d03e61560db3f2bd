import PageHarvest.Chat.Prompt
import PageHarvest.Json.Record
import PageHarvest.Text.Utf8

/-!
# Requests and replies of a chat

A request names a model and holds two messages, the instruction and the prompt, and asks for a JSON
object.  A reply offers choices, each with a message, whose content may be missing.
-/

namespace PageHarvest.Chat

open Json

/-- A message of a chat. -/
structure Message where
  role : String
  content : List Char
  deriving DecidableEq, Repr

/-- The message as a JSON value. -/
def Message.toJson (m : Message) : Value :=
  .record [("role", .text m.role.toList), ("content", .text m.content)]

/-- A request. -/
structure Request where
  model : String
  messages : List Message
  deriving DecidableEq, Repr

namespace Request

/-- The request about a text. -/
def about (model : String) (template text : List Char) : Request :=
  ⟨model, [⟨"system", instruction.toList⟩, ⟨"user", fill template text⟩]⟩

/-- The request as a JSON value.  What is answered to a request is to vary as little as possible. -/
def toJson (r : Request) : Value :=
  .record
    [("model", .text r.model.toList),
     ("messages", .array (r.messages.map Message.toJson)),
     ("response_format", .record [("type", .text "json_object".toList)]),
     ("temperature", .number "0.0".toList)]

/-- The request as text. -/
def toText (r : Request) : List Char := r.toJson.write

end Request

/-! ### Replies -/

/-- The contents of the choices of a reply. -/
structure Reply where
  contents : List (Option (List Char))
  deriving DecidableEq, Repr

namespace Reply

/-- What the only field of a record denotes. -/
def only? {α : Type} (name : String) (read : Option Value → Option α) (v : Value) : Option α :=
  (v.fields? [name] 1).bind fun fields => read fields.head?.join

/-- The content of a message. -/
def readMessage? (v : Value) : Option (Option (List Char)) :=
  only? "content" (optional? Value.asText?) v

/-- The content of a choice. -/
def readChoice? (v : Value) : Option (Option (List Char)) :=
  only? "message" (needed? readMessage?) v

/-- The reply that a JSON value denotes. -/
def ofJson? (v : Value) : Option Reply :=
  (only? "choices" (needed? (Value.asList? readChoice?)) v).map Reply.mk

/-- The reply that bytes spell. -/
def ofBytes? (bs : List UInt8) : Option Reply :=
  (Value.read? (Text.Utf8.decode bs)).bind ofJson?

/-- The content of the first choice. -/
def content? (r : Reply) : Option (List Char) := r.contents.head?.join

end Reply

end PageHarvest.Chat
