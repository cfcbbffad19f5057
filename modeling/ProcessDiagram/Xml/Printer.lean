import ProcessDiagram.Xml.Tree

set_option autoImplicit false

namespace ProcessDiagram.Xml

def escapeContentChar (c : Char) : List Char :=
  if c = '&' then ['&', 'a', 'm', 'p', ';']
  else if c = '<' then ['&', 'l', 't', ';']
  else if c = '>' then ['&', 'g', 't', ';']
  else if c = '\r' then ['&', '#', '1', '3', ';']
  else [c]

def escapeAttributeChar (c : Char) : List Char :=
  if c = '"' then ['&', 'q', 'u', 'o', 't', ';']
  else if c = '\t' then ['&', '#', '9', ';']
  else if c = '\n' then ['&', '#', '1', '0', ';']
  else escapeContentChar c

def printAttribute (pair : QualifiedName × String) : List Char :=
  ' ' :: pair.1.chars ++
    '=' :: '"' :: pair.2.toList.flatMap escapeAttributeChar ++ ['"']

def lineStart (depth : Nat) : List Char :=
  '\n' :: List.replicate (2 * depth) ' '

mutual
def printNode (depth : Option Nat) : Node QualifiedName → List Char
  | .text value => value.toList.flatMap escapeContentChar
  | .comment value => '<' :: '!' :: '-' :: '-' :: value.toList ++ ['-', '-', '>']
  | .instruction target data =>
      '<' :: '?' :: target.toList ++ (if data = "" then [] else ' ' :: data.toList) ++ ['?', '>']
  | .element name attributes [] =>
      '<' :: name.chars ++ attributes.flatMap printAttribute ++ ['/', '>']
  | .element name attributes (first :: rest) =>
      let inner := if (first :: rest).any Node.isText then none else depth
      '<' :: name.chars ++ attributes.flatMap printAttribute ++ '>' ::
        printChildren (inner.map (· + 1)) (first :: rest) ++
        (match inner with | none => [] | some depth => lineStart depth) ++
        '<' :: '/' :: name.chars ++ ['>']

def printChildren (depth : Option Nat) : List (Node QualifiedName) → List Char
  | [] => []
  | child :: rest =>
      (match depth with | none => [] | some depth => lineStart depth) ++
        printNode depth child ++ printChildren depth rest
end

def declaration : String :=
  "<?xml version='1.0' encoding='UTF-8'?>"

def printDocument (root : Node QualifiedName) : String :=
  declaration ++ "\n" ++ String.ofList (printNode (some 0) root) ++ "\n"

end ProcessDiagram.Xml
