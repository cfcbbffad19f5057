import ProcessDiagram.Archetype.Expense
import ProcessDiagram.Archetype.Invoice

set_option autoImplicit false

namespace ProcessDiagram.Archetype

variable {Coordinate : Type}

def ofShape (coordinate : Int → Coordinate) (name summary : String)
    (accepts : Description → Bool) (shape : Shape) : Archetype Coordinate where
  name
  summary
  accepts
  recipe := shape.recipe
  places := shape.table.map fun (role, x, y) => (role, coordinate x, coordinate y)

def invoice (coordinate : Int → Coordinate) : Archetype Coordinate :=
  ofShape coordinate "invoice_processing"
    "Accounts payable invoice approval with three-way match and threshold routing"
    Invoice.accepts Invoice.shape

def expense (coordinate : Int → Coordinate) : Archetype Coordinate :=
  ofShape coordinate "expense_reimbursement"
    "Employee expense claim with documentation, approval and policy checks"
    Expense.accepts Expense.shape

def catalog (coordinate : Int → Coordinate) : List (Archetype Coordinate) :=
  [invoice coordinate, expense coordinate]

end ProcessDiagram.Archetype
