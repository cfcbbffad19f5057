import ProcessDiagram.Archetype.Basic

set_option autoImplicit false

namespace ProcessDiagram

structure Shape.Place where
  role : String
  kind : NodeKind
  label : String
  stem : String
  corner : Int × Int

structure Shape.Flow where
  source : String
  target : String
  condition : Option String := none

structure Shape where
  places : List Shape.Place
  flows : List Shape.Flow

namespace Shape

def Place.action (place : Place) : Action :=
  if place.kind = .task then .task place.label place.stem (some place.role)
  else .node place.kind place.label place.stem (some place.role) "" ""

def idOf (shape : Shape) (role : String) : String :=
  Draft.nodeId (shape.places.findIdx (fun place => place.role = role) + 1)

def Flow.action (shape : Shape) (flow : Flow) : Action :=
  .connect (shape.idOf flow.source) (shape.idOf flow.target) flow.condition

def actions (shape : Shape) : List Action :=
  shape.places.map Place.action ++ shape.flows.map (Flow.action shape)

def recipe (shape : Shape) : List (Except UnknownMember Action) :=
  shape.actions.map Except.ok

def table (shape : Shape) : Table String (Int × Int) :=
  shape.places.map fun place => (place.role, place.corner)

end Shape

end ProcessDiagram
