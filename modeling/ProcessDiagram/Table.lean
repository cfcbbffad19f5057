set_option autoImplicit false

namespace ProcessDiagram

abbrev Table (Key Value : Type) := List (Key × Value)

namespace Table

variable {Key Value : Type} [DecidableEq Key]

def get? (key : Key) : Table Key Value → Option Value
  | [] => none
  | (other, value) :: rest => if other = key then some value else get? key rest

def put (key : Key) (value : Value) : Table Key Value → Table Key Value
  | [] => [(key, value)]
  | (other, old) :: rest =>
      if other = key then (other, value) :: rest else (other, old) :: put key value rest

def ofList (pairs : List (Key × Value)) : Table Key Value :=
  pairs.foldl (fun table pair => put pair.1 pair.2 table) []

def keys (table : Table Key Value) : List Key :=
  table.map Prod.fst

def tally (keys : List Key) : Table Key Nat :=
  keys.foldl (fun table key => put key ((get? key table).getD 0 + 1) table) []

theorem get?_put (key other : Key) (value : Value) (table : Table Key Value) :
    get? other (put key value table) = if key = other then some value else get? other table := by
  induction table with
  | nil => simp [put, get?]
  | cons pair rest ih =>
      rcases pair with ⟨first, old⟩
      by_cases same : first = key
      · subst same
        by_cases hit : first = other <;> simp [put, get?, hit]
      · by_cases hit : first = other
        · subst hit
          have apart : ¬ key = first := fun equal => same equal.symm
          simp [put, get?, same, apart]
        · simp [put, get?, same, hit, ih]

end Table

end ProcessDiagram
