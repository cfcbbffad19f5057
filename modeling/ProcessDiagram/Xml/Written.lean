import ProcessDiagram.Xml.Token

set_option autoImplicit false

namespace ProcessDiagram.Xml

inductive Written where
  | element (name : List Char) (attributes : List RawAttribute) (children : List Written)
  | characters (raw : List Char)
  | verbatim (value : List Char)
  | comment (value : List Char)
  | instruction (target data : List Char)

-- An element that is still open, with the children read so far, the last one first.
structure Frame where
  name : List Char
  attributes : List RawAttribute
  read : List Written

namespace Frame

def close (frame : Frame) : Written :=
  .element frame.name frame.attributes frame.read.reverse

def isClosedBy (frame : Frame) (raw : List Char) : Bool :=
  (afterWord? frame.name raw).any fun rest => rest.all isSpace

end Frame

-- The elements still open, the innermost first, and what was read outside of all, last one
-- first.
structure Assembly where
  frames : List Frame := []
  read : List Written := []

namespace Assembly

def add (assembly : Assembly) (node : Written) : Assembly :=
  match assembly.frames with
  | [] => { assembly with read := node :: assembly.read }
  | frame :: outer =>
      { assembly with frames := { frame with read := node :: frame.read } :: outer }

def openFrame (assembly : Assembly) (frame : Frame) (closed : Bool) : Assembly :=
  if closed then assembly.add frame.close
  else { assembly with frames := frame :: assembly.frames }

def close? (assembly : Assembly) (raw : List Char) : Option Assembly :=
  match assembly.frames with
  | [] => none
  | frame :: outer =>
      if frame.isClosedBy raw then some ({ assembly with frames := outer }.add frame.close)
      else none

def addToken? (assembly : Assembly) : Token → Option Assembly
  | .startTag name attributes closed => some (assembly.openFrame ⟨name, attributes, []⟩ closed)
  | .endTag raw => assembly.close? raw
  | .characters raw => some (assembly.add (.characters raw))
  | .verbatim value => some (assembly.add (.verbatim value))
  | .comment value => some (assembly.add (.comment value))
  | .instruction target data => some (assembly.add (.instruction target data))

def isNode (assembly : Assembly) : Bool :=
  assembly.frames.isEmpty && !assembly.read.isEmpty

def scanNode (assembly : Assembly) : Nat → List Char → Option (Assembly × List Char)
  | 0, _ => none
  | fuel + 1, input =>
      if assembly.isNode then some (assembly, input)
      else do
        let (token, rest) ← scanToken? input
        scanNode (← assembly.addToken? token) fuel rest

def scanAll (assembly : Assembly) : Nat → List Char → Option Assembly
  | _, [] => some assembly
  | 0, _ => none
  | fuel + 1, input => do
      let (token, rest) ← scanToken? input
      scanAll (← assembly.addToken? token) fuel rest

end Assembly

namespace Written

-- The first node of an input, and what follows it; there are never more tokens than characters.
def scan? (input : List Char) : Option (Written × List Char) := do
  let (assembly, rest) ← ({} : Assembly).scanNode (input.length + 1) input
  let node ← assembly.read.head?
  some (node, rest)

def forest? (input : List Char) : Option (List Written) := do
  let assembly ← ({} : Assembly).scanAll input.length input
  if assembly.frames.isEmpty then some assembly.read.reverse else none

end Written

end ProcessDiagram.Xml
