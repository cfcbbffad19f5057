import ProcessDiagram.Archetype.Shape
import ProcessDiagram.Text.Basic

set_option autoImplicit false

namespace ProcessDiagram.Invoice

def mentions (word text : String) : Bool :=
  Text.holds word (Text.lower text)

def accepts (description : Description) : Bool :=
  mentions "invoice" description.name &&
    (mentions "processing" description.name ||
      description.steps.any fun step => mentions "processing" step.name)

def places : List Shape.Place :=
  [⟨"start", .startEvent, "Start Invoice Processing", "StartEvent", (100, 202)⟩,
   ⟨"intake", .task, "Invoice Intake", "invoice_intake", (220, 180)⟩,
   ⟨"validation", .task, "Initial Validation", "initial_validation", (380, 180)⟩,
   ⟨"match", .task, "Three-Way Match", "three_way_match", (540, 180)⟩,
   ⟨"discrepancy_gateway", .exclusiveGateway, "Discrepancy Found?", "gateway_discrepancy",
    (700, 195)⟩,
   ⟨"manual_review", .task, "Manual Review by AP Supervisor", "manual_review", (800, 60)⟩,
   ⟨"discrepancy_end", .endEvent, "End - Discrepancy", "EndEvent_discrepancy", (990, 82)⟩,
   ⟨"approval_gateway", .exclusiveGateway, "Threshold-Based Approval Routing", "gateway_approval",
    (880, 195)⟩,
   ⟨"approval_low", .task, "Department Manager Approval", "dept_manager", (1100, 60)⟩,
   ⟨"approval_medium", .task, "Senior Manager Approval", "senior_manager", (1100, 180)⟩,
   ⟨"approval_high", .task, "Director of Finance Approval", "director", (1100, 300)⟩,
   ⟨"duplicate_check", .task, "Systemic Duplicate Payment Check", "duplicate_check", (1340, 180)⟩,
   ⟨"payment", .task, "Payment Processing", "payment_processing", (1520, 180)⟩,
   ⟨"end", .endEvent, "End Invoice Processing", "EndEvent", (1720, 202)⟩]

def flows : List Shape.Flow :=
  [⟨"start", "intake", none⟩,
   ⟨"intake", "validation", none⟩,
   ⟨"validation", "match", none⟩,
   ⟨"match", "discrepancy_gateway", none⟩,
   ⟨"discrepancy_gateway", "manual_review", some "Discrepancy Found"⟩,
   ⟨"manual_review", "discrepancy_end", none⟩,
   ⟨"discrepancy_gateway", "approval_gateway", some "No Discrepancy"⟩,
   ⟨"approval_gateway", "approval_low", some "Invoice < $5,000"⟩,
   ⟨"approval_gateway", "approval_medium", some "$5,000 ≤ Invoice ≤ $25,000"⟩,
   ⟨"approval_gateway", "approval_high", some "Invoice > $25,000"⟩,
   ⟨"approval_low", "duplicate_check", none⟩,
   ⟨"approval_medium", "duplicate_check", none⟩,
   ⟨"approval_high", "duplicate_check", none⟩,
   ⟨"duplicate_check", "payment", none⟩,
   ⟨"payment", "end", none⟩]

def shape : Shape :=
  ⟨places, flows⟩

end ProcessDiagram.Invoice
