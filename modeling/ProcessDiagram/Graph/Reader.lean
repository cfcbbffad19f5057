import ProcessDiagram.Fault
import ProcessDiagram.Graph.Basic
import ProcessDiagram.Json.Basic
import ProcessDiagram.Member

set_option autoImplicit false

namespace ProcessDiagram.Graph

def readText (data : Json) (key : String) : Except Fault String :=
  match data.field? key with
  | none => .error ⟨[key], .missing⟩
  | some (.text value) => .ok value
  | some _ => .error ⟨[key], .noText⟩

def readTextOr (otherwise : String) (data : Json) (key : String) : Except Fault String :=
  match data.field? key with
  | none => .ok otherwise
  | some (.text value) => .ok value
  | some _ => .error ⟨[key], .noText⟩

def readOptionalText (data : Json) (key : String) : Except Fault (Option String) :=
  match data.field? key with
  | none | some .null => .ok none
  | some (.text value) => .ok (some value)
  | some _ => .error ⟨[key], .noText⟩

def readKind (data : Json) : Except Fault NodeKind :=
  match data.field? "kind" with
  | none => .error ⟨["kind"], .missing⟩
  | some (.text value) =>
      match memberNamed? NodeKind.name NodeKind.all value with
      | some kind => .ok kind
      | none => .error ⟨["kind"], .noMember⟩
  | some _ => .error ⟨["kind"], .noMember⟩

def readNode (data : Json) : Except (List Fault) Node :=
  let id := readText data "id"
  let elementId := readText data "element_id"
  let kind := readKind data
  let label := readTextOr "" data "label"
  let documentation := readTextOr "" data "documentation"
  let actor := readTextOr "" data "actor"
  let role := readOptionalText data "role"
  match id, elementId, kind, label, documentation, actor, role with
  | .ok id, .ok elementId, .ok kind, .ok label, .ok documentation, .ok actor, .ok role =>
      .ok ⟨id, elementId, kind, label, documentation, actor, role⟩
  | id, elementId, kind, label, documentation, actor, role =>
      .error ([Fault.of? id, Fault.of? elementId, Fault.of? kind, Fault.of? label,
        Fault.of? documentation, Fault.of? actor, Fault.of? role].filterMap fun fault => fault)

def readEdge (data : Json) : Except (List Fault) Edge :=
  let keys := ["source_id", "target_id", "condition"]
  let named := Json.record (keys.zip data.items)
  let source := readText named "source_id"
  let target := readText named "target_id"
  let condition := readOptionalText named "condition"
  match source, target, condition with
  | .ok source, .ok target, .ok condition => .ok ⟨source, target, condition⟩
  | source, target, condition =>
      .error ([Fault.of? source, Fault.of? target, Fault.of? condition].filterMap
        fun fault => fault)

def read (data : Json) : Except (List Fault) Graph := do
  let nodes ← (data.field "nodes").items.mapM readNode
  let edges ← (data.field "edges").items.mapM readEdge
  let name := readTextOr "" data "name"
  let archetype := readOptionalText data "archetype"
  match name, archetype with
  | .ok name, .ok archetype => .ok ⟨name, nodes, edges, archetype⟩
  | name, archetype =>
      .error ([Fault.of? name, Fault.of? archetype].filterMap fun fault => fault)

end ProcessDiagram.Graph
