import ProcessDiagram.Description.Basic
import ProcessDiagram.Text.Basic
import ProcessDiagram.Text.Casing

set_option autoImplicit false

namespace ProcessDiagram

def Gateway.branches (gateway : Gateway) : List String :=
  ((gateway.outcomes.map Text.strip).filter (· ≠ "")).eraseDups

namespace Description

def key (text : String) : String :=
  Text.lower (Text.strip text)

def keysOf (texts : List String) : List String :=
  (texts.filter (· ≠ "")).map key

def gatewayAt? (gateways : List Gateway) (wanted : String) : Option Gateway :=
  gateways.find? fun gateway =>
    2 ≤ gateway.branches.length && (keysOf [gateway.id, gateway.name]).contains wanted

def gatewayOf? (gateways : List Gateway) (step : Step) : Option Gateway :=
  if step.kind = .gateway then
    (keysOf [step.id.getD "", step.name]).findSome? (gatewayAt? gateways)
  else none

end Description

end ProcessDiagram
