import ProcessDiagram.Validation.Rules
import ProcessDiagram.Xml.Reader

set_option autoImplicit false

namespace ProcessDiagram.Validation

def metricsOf (outline : Outline) : Metrics where
  flowNodes := outline.nodes.length
  sequenceFlows := outline.flows.length
  gateways := (outline.nodes.filter fun entry => entry.2.kind.isGateway).length

def processIssues (root process diagram : Element) (outline : Outline) : List Issue :=
  duplicateIds root ++ danglingEnds outline ++ danglingReferences outline ++ eventCounts outline ++
    deadEnds outline ++ unreachable outline ++ diagramIssues process outline diagram

def countIssues (processes diagrams : List Element) : List Issue :=
  when (processes.length ≠ 1) (problem .xmlStructure
      ("Expected exactly one process, found " ++ toString processes.length)) ++
    when (diagrams.length ≠ 1) (problem .xmlStructure
      ("Expected exactly one BPMNDiagram, found " ++ toString diagrams.length))

def check (root : Element) : Report :=
  let name := (root.name?.map Xml.ExpandedName.text).getD ""
  if root.name? ≠ some (modelName "definitions") then
    { issues :=
        [problem .xmlStructure ("Root element must be bpmn:definitions, found '" ++ name ++ "'")] }
  else
    let processes := childrenNamed (modelName "process") root
    let diagrams := childrenNamed (diagramName "BPMNDiagram") root
    match processes, diagrams with
    | [process], [diagram] =>
        let outline := Outline.ofProcess process
        ⟨processIssues root process diagram outline, some (metricsOf outline)⟩
    | _, _ => { issues := countIssues processes diagrams }

-- The words in which the parser refuses a text are its own: they are given, or left out.
def malformed (said : Option String) : Issue :=
  problem .xmlStructure ("XML well-formedness error" ++ (said.map (": " ++ ·)).getD "") none
    (some "Fix XML syntax to ensure well-formedness")

def validate (text : String) (said : Option String := none) : Report :=
  match Xml.read text with
  | some root => check root
  | none => { issues := [malformed said] }

end ProcessDiagram.Validation
