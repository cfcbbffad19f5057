set_option autoImplicit false

namespace ProcessDiagram.Identifier

def maxLength : Nat := 50

def tokenLength : Nat := 8

def isNameChar (c : Char) : Bool :=
  c.isAlphanum || c = '_' || c = '-'

def isFirstChar (c : Char) : Bool :=
  c.isAlpha || c = '_'

def cleanChar (c : Char) : Char :=
  if isNameChar c then c else '_'

def sanitizeChars : List Char → List Char
  | [] => ['_']
  | first :: rest =>
      ((if isFirstChar first then first else '_') :: rest.map cleanChar).take maxLength

def sanitize (text : String) : String :=
  String.ofList (sanitizeChars text.toList)

def tokenOf (digits : String) : String :=
  String.ofList (digits.toList.take tokenLength)

end ProcessDiagram.Identifier
