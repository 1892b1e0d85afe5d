import LinkRouting.Json
import LinkRouting.Log.Event
import LinkRouting.Text.Quoted

namespace LinkRouting.Log

namespace Field

def render : Field → String
  | quoted text => Text.quoted text
  | bare text => text
  | number value => toString value

def toJson : Field → Json
  | quoted text | bare text => .text text
  | number value => .integer value

end Field

namespace Event

def text (event : Event) : String :=
  " ".intercalate
    (event.message :: event.fields.map fun field => field.1 ++ "=" ++ field.2.render)

def toJson (event : Event) : Json :=
  .ofMembers
    (("message", .text event.message) ::
      event.fields.map fun field => (field.1, field.2.toJson))

end Event

end LinkRouting.Log
