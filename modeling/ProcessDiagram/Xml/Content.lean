import ProcessDiagram.Xml.Tag
import ProcessDiagram.Xml.Written

set_option autoImplicit false

namespace ProcessDiagram.Xml

abbrev Content := List (Node ExpandedName)

def joinContent : Content → Content → Content
  | [], others => others
  | [.text first], .text second :: others => .text (first ++ second) :: others
  | node :: nodes, others => node :: joinContent nodes others

inductive Segment where
  | text (value : List Char)
  | entity (name : List Char)
deriving DecidableEq, Repr

def addChar (c : Char) : List Segment → List Segment
  | .text value :: rest => .text (c :: value) :: rest
  | segments => .text [c] :: segments

def segments : List Piece → List Segment
  | [] => []
  | .literal c :: rest | .escaped c :: rest => addChar c (segments rest)
  | .entity name :: rest =>
      match predefined? name with
      | some c => addChar c (segments rest)
      | none => .entity name :: segments rest

namespace Reading

def maxDepth : Nat := 256

abbrev Expansion := Surroundings → List Char → Reading Content

def readSegments (expand : Expansion) (place : Surroundings) : List Segment → Reading Content
  | [] => pure []
  | segment :: rest => do
      let first ← match segment with
        | .text value => pure [Node.text (String.ofList value)]
        | .entity name => expand place name
      let others ← readSegments expand place rest
      return joinContent first others

def enter (place : Surroundings) (tag : Tag) : Surroundings :=
  { place with scope := tag.scope, depth := place.depth + 1 }

mutual
def readNode (expand : Expansion) (place : Surroundings) : Written → Reading Content
  | .element raw attributes children =>
      if maxDepth ≤ place.depth then refuse
      else do
        let tag ← readTag place raw attributes
        let content ← readNodes expand (enter place tag) children
        return [.element tag.name tag.attributes content]
  | .characters raw => do
      let pieces ← lift (pieces? raw)
      readSegments expand place (segments pieces)
  | .verbatim value => pure [.text (String.ofList value)]
  | .comment value => pure [.comment (String.ofList value)]
  | .instruction target data => do
      readTarget target
      return [.instruction (String.ofList target) (String.ofList data)]

def readNodes (expand : Expansion) (place : Surroundings) : List Written → Reading Content
  | [] => pure []
  | node :: rest => do
      let first ← readNode expand place node
      let others ← readNodes expand place rest
      return joinContent first others
end

def inside (place : Surroundings) (nesting : Nat) : Surroundings where
  scope := Scope.initial
  depth := place.depth + 1
  inEntity := true
  nesting := nesting

def readText (read : List Written → Reading Content) (text : List Char) :
    Reading EntityContent := do
  let found ← get
  set { found with entityIds := [] }
  charge (sizeOf text)
  let nodes ← read (← lift (Written.forest? text))
  let after ← get
  set { after with entityIds := found.entityIds }
  return ⟨nodes, after.added - found.added, after.entityIds⟩

-- Puts the content of an entity into the place of a reference. Its ids count from there on, if the
-- document has any by then.
def copy (content : EntityContent) : Reading Content := do
  modify fun found =>
    { found with
      ids := if found.ids.isEmpty then [] else content.ids ++ found.ids
      entityIds := content.ids ++ found.entityIds }
  return content.nodes

-- An entity that was read is not read again, unless there was nothing in it.
def readOnce (read : Reading EntityContent) (name : List Char) : Reading Content := do
  let found ← get
  match (Table.get? name found.contents).filter fun content => !content.nodes.isEmpty with
  | some content =>
      charge (content.size - referenceSize)
      copy content
  | none =>
      let content ← read
      modify fun found => { found with contents := Table.put name content found.contents }
      copy content

def expandWith (read : Surroundings → List Char → Reading EntityContent) : Expansion :=
  fun place name => do
    let found ← get
    match Table.get? name found.doctype.entities with
    | some (.internal text) => readOnce (read place text) name
    | some _ => refuse
    | none =>
        missEntity
        return []

def expandEntity : Nat → Expansion
  | 0 => expandWith fun _ _ => refuse
  | fuel + 1 => expandWith fun place text =>
      if maxDepth ≤ place.depth then refuse
      else readText (readNodes (expandEntity fuel) (inside place fuel)) text

def readContent (written : Written) : Reading Content :=
  readNode (expandEntity maxNesting) {} written

end Reading

end ProcessDiagram.Xml
