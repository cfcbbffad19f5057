import ProcessDiagram.Identifier.Basic
import ProcessDiagram.Table

set_option autoImplicit false

namespace ProcessDiagram

structure Allocator where
  token : String
  used : List String := []
  counters : Table String Nat := []

namespace Allocator

-- The first `limit` characters; a negative limit leaves out as many at the end.
def cut (limit : Int) (chars : List Char) : List Char :=
  if 0 ≤ limit then chars.take limit.toNat else chars.take (chars.length - (-limit).toNat)

def withTail (chars tail : List Char) : List Char :=
  cut ((Identifier.maxLength : Int) - tail.length) chars ++ tail

def base (token stem : String) : String :=
  String.ofList (withTail (Identifier.sanitizeChars stem.toList) ('_' :: token.toList))

def numbered (base : String) (count : Nat) : String :=
  String.ofList (withTail base.toList ('_' :: Nat.toDigits 10 count))

-- The first candidate after `count` that is not used, with its number. Candidates of different
-- numbers differ, so one more attempt than there are used ids is always enough.
def nextFree (used : List String) (base : String) : Nat → Nat → String × Nat
  | 0, count => (numbered base (count + 1), count + 1)
  | attempts + 1, count =>
      let candidate := numbered base (count + 1)
      if candidate ∈ used then nextFree used base attempts (count + 1)
      else (candidate, count + 1)

def allocate (ids : Allocator) (stem : String) : String × Allocator :=
  let first := base ids.token stem
  if first ∈ ids.used then
    let count := (Table.get? first ids.counters).getD 1
    let (chosen, count) := nextFree ids.used first ids.used.length count
    (chosen, { ids with
      used := chosen :: ids.used, counters := Table.put first count ids.counters })
  else (first, { ids with used := first :: ids.used })

def reserve (ids : Allocator) (id : String) : Allocator :=
  { ids with used := id :: ids.used }

def contains (ids : Allocator) (id : String) : Bool :=
  id ∈ ids.used

inductive Operation where
  | allocate (stem : String)
  | reserve (id : String)
  | contains (id : String)

inductive Answer where
  | id (value : String)
  | done
  | found (value : Bool)

def answer (ids : Allocator) : Operation → Answer × Allocator
  | .allocate stem =>
      let (chosen, ids) := ids.allocate stem
      (.id chosen, ids)
  | .reserve id => (.done, ids.reserve id)
  | .contains id => (.found (ids.contains id), ids)

def run (ids : Allocator) : List Operation → List Answer × Allocator
  | [] => ([], ids)
  | operation :: rest =>
      let (first, ids) := ids.answer operation
      let (others, ids) := ids.run rest
      (first :: others, ids)

end Allocator

end ProcessDiagram
