import ProcessDiagram.Description.Basic
import ProcessDiagram.Graph.Draft
import ProcessDiagram.Member
import ProcessDiagram.Text.Basic
import ProcessDiagram.Text.Casing

set_option autoImplicit false

namespace ProcessDiagram

inductive Action where
  | node (kind : NodeKind) (label stem : String) (role : Option String)
      (documentation actor : String)
  | task (label stem : String) (role : Option String)
  | connect (source target : String) (condition : Option String)
  | chain (ids : List String)
  | reserve (elementId : String)
deriving Repr

namespace Action

def labelKey (label : String) : String :=
  Text.lower (Text.strip label)

def stepNamed? (description : Description) (label : String) : Option Step :=
  description.steps.find? fun step => labelKey step.name = labelKey label

def run (description : Description) (draft : Draft) : Action → Draft
  | .node kind label stem role documentation actor =>
      draft.addNode kind label stem role documentation actor
  | .task label stem role =>
      match stepNamed? description label with
      | some step => draft.addNode .task label stem role step.description step.actor
      | none => draft.addNode .task label stem role
  | .connect source target condition => draft.connect source target condition
  | .chain ids => draft.chain ids
  | .reserve elementId => draft.reserve elementId

end Action

structure Archetype (Coordinate : Type) where
  name : String
  summary : String := ""
  accepts : Description → Bool
  -- The steps of the recipe; one that asks for an unknown kind of node fails when it is reached.
  recipe : List (Except UnknownMember Action)
  places : Table String (Coordinate × Coordinate) := []

namespace Archetype

variable {Coordinate : Type}

def runActions (description : Description) (draft : Draft) :
    List (Except UnknownMember Action) → Except UnknownMember Draft
  | [] => .ok draft
  | .ok action :: rest => runActions description (action.run description draft) rest
  | .error failure :: _ => .error failure

def runRecipe (archetype : Archetype Coordinate) (description : Description) (draft : Draft) :
    Except UnknownMember Draft :=
  runActions description draft archetype.recipe

def find? (archetypes : List (Archetype Coordinate)) (description : Description) :
    Option (Archetype Coordinate) :=
  archetypes.find? fun archetype => archetype.accepts description

def tables (archetypes : List (Archetype Coordinate)) :
    Table String (Table String (Coordinate × Coordinate)) :=
  Table.ofList ((archetypes.filter fun archetype => !archetype.places.isEmpty).map fun archetype =>
    (archetype.name, archetype.places))

end Archetype

end ProcessDiagram
