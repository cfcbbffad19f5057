import ProcessDiagram.Archetype.Shape
import ProcessDiagram.Text.Basic

set_option autoImplicit false

namespace ProcessDiagram.Expense

def keywords : List String :=
  ["expense", "reimbursement", "travel", "petty cash", "employee expense", "travel expense",
   "business expense", "expense claim", "expense report", "out-of-pocket", "mileage", "per diem",
   "accommodation", "meal expense"]

def accepts (description : Description) : Bool :=
  keywords.any fun keyword => Text.holds keyword (Text.lower description.name)

def places : List Shape.Place :=
  [⟨"start", .startEvent, "Start Expense Reimbursement", "StartEvent", (100, 252)⟩,
   ⟨"submission", .task, "Employee Submits Expense Claim", "expense_submission", (220, 230)⟩,
   ⟨"receipt_validation", .task, "Receipt and Documentation Validation", "receipt_validation",
    (400, 230)⟩,
   ⟨"documentation_gateway", .exclusiveGateway, "Documentation Complete?", "gateway_documentation",
    (580, 245)⟩,
   ⟨"additional_docs", .task, "Request Additional Documentation", "additional_docs", (640, 110)⟩,
   ⟨"incomplete_end", .endEvent, "End - Incomplete Documentation", "EndEvent_incomplete",
    (840, 132)⟩,
   ⟨"approval_gateway", .exclusiveGateway, "Expense Amount-Based Approval",
    "gateway_expense_approval", (760, 245)⟩,
   ⟨"approval_low", .task, "Supervisor Approval", "supervisor_approval", (960, 110)⟩,
   ⟨"approval_medium", .task, "Department Manager Approval", "manager_approval", (960, 230)⟩,
   ⟨"approval_high", .task, "Finance Director Approval", "director_approval", (960, 350)⟩,
   ⟨"compliance_check", .task, "Policy Compliance and Duplicate Check", "compliance_check",
    (1200, 230)⟩,
   ⟨"compliance_gateway", .exclusiveGateway, "Policy Compliant?", "gateway_compliance",
    (1380, 245)⟩,
   ⟨"reject", .task, "Reject Non-Compliant Expense", "reject_expense", (1540, 370)⟩,
   ⟨"rejection_end", .endEvent, "End - Expense Rejected", "EndEvent_rejection", (1740, 392)⟩,
   ⟨"reimbursement", .task, "Process Reimbursement Payment", "reimbursement", (1580, 230)⟩,
   ⟨"notification", .task, "Notify Employee of Payment", "employee_notification", (1780, 230)⟩,
   ⟨"end", .endEvent, "End Expense Reimbursement", "EndEvent", (1980, 252)⟩]

def flows : List Shape.Flow :=
  [⟨"start", "submission", none⟩,
   ⟨"submission", "receipt_validation", none⟩,
   ⟨"receipt_validation", "documentation_gateway", none⟩,
   ⟨"documentation_gateway", "additional_docs", some "Incomplete Documentation"⟩,
   ⟨"additional_docs", "incomplete_end", none⟩,
   ⟨"documentation_gateway", "approval_gateway", some "Complete Documentation"⟩,
   ⟨"approval_gateway", "approval_low", some "Expense < $500"⟩,
   ⟨"approval_gateway", "approval_medium", some "$500 ≤ Expense ≤ $2,000"⟩,
   ⟨"approval_gateway", "approval_high", some "Expense > $2,000"⟩,
   ⟨"approval_low", "compliance_check", none⟩,
   ⟨"approval_medium", "compliance_check", none⟩,
   ⟨"approval_high", "compliance_check", none⟩,
   ⟨"compliance_check", "compliance_gateway", none⟩,
   ⟨"compliance_gateway", "reject", some "Non-Compliant"⟩,
   ⟨"reject", "rejection_end", none⟩,
   ⟨"compliance_gateway", "reimbursement", some "Compliant"⟩,
   ⟨"reimbursement", "notification", none⟩,
   ⟨"notification", "end", none⟩]

def shape : Shape :=
  ⟨places, flows⟩

end ProcessDiagram.Expense
