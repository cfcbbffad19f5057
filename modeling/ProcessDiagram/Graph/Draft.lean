import ProcessDiagram.Graph.Basic
import ProcessDiagram.Identifier.Allocator

set_option autoImplicit false

namespace ProcessDiagram

structure Draft where
  ids : Allocator
  nodes : List Node := []
  edges : List Edge := []

namespace Draft

def empty (token : String) : Draft where
  ids := { token }

def nodeId (number : Nat) : String :=
  "node_" ++ toString number

def nextId (draft : Draft) : String :=
  nodeId (draft.nodes.length + 1)

def addNode (draft : Draft) (kind : NodeKind) (label stem : String)
    (role : Option String := none) (documentation actor : String := "") : Draft :=
  let (elementId, ids) := draft.ids.allocate stem
  { draft with
    ids
    nodes := draft.nodes ++
      [⟨draft.nextId, elementId, kind, label, documentation, actor, role⟩] }

def connect (draft : Draft) (source target : String) (condition : Option String := none) : Draft :=
  { draft with edges := draft.edges ++ [⟨source, target, condition.filter (· ≠ "")⟩] }

def chain (draft : Draft) : List String → Draft
  | first :: second :: rest => (draft.connect first second).chain (second :: rest)
  | _ => draft

def reserve (draft : Draft) (elementId : String) : Draft :=
  { draft with ids := draft.ids.reserve elementId }

def graph (draft : Draft) (name : String) (archetype : Option String := none) : Graph :=
  ⟨name, draft.nodes, draft.edges, archetype⟩

end Draft

end ProcessDiagram
