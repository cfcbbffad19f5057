import ProcessDiagram.Description.Basic
import ProcessDiagram.Json.Basic

set_option autoImplicit false

namespace ProcessDiagram

def textList (texts : List String) : Json :=
  .list (texts.map Json.text)

def EventEntry.toJson (event : EventEntry) : Json :=
  .record [("name", .text event.name), ("description", .text event.description)]

def Step.toJson (step : Step) : Json :=
  .record [("id", (step.id.map Json.text).getD .null), ("name", .text step.name),
    ("description", .text step.description), ("type", .text step.kind.name),
    ("actor", .text step.actor), ("inputs", textList step.inputs),
    ("outputs", textList step.outputs), ("duration", .text step.duration)]

def Gateway.toJson (gateway : Gateway) : Json :=
  .record [("id", .text gateway.id), ("name", .text gateway.name),
    ("type", .text gateway.kind.name), ("condition", .text gateway.condition),
    ("outcomes", textList gateway.outcomes)]

namespace Description

def toFields (description : Description) : List (String × Json) :=
  [("name", .text description.name), ("description", .text description.description),
    ("steps", .list (description.steps.map Step.toJson)),
    ("gateways", .list (description.gateways.map Gateway.toJson)),
    ("start_events", .list (description.startEvents.map EventEntry.toJson)),
    ("end_events", .list (description.endEvents.map EventEntry.toJson))]

def toJson (description : Description) : Json :=
  .record description.toFields

end Description

end ProcessDiagram
