import ProcessDiagram.Text.CaseTable

set_option autoImplicit false

namespace ProcessDiagram.Text

def isCased (c : Char) : Bool :=
  inRanges casedRanges c.toNat

def isCaseIgnorable (c : Char) : Bool :=
  inRanges caseIgnorableRanges c.toNat

def simpleCase (runs : List CaseRun) (c : Char) : Char :=
  match runs.findSome? fun run => run.image? c.toNat with
  | some code => Char.ofNat code
  | none => c

def meetsCased (chars : List Char) : Bool :=
  match chars.dropWhile isCaseIgnorable with
  | [] => false
  | c :: _ => isCased c

-- Lower case of what follows the characters `before`, which are given nearest first.
def lowerFrom (before : List Char) : List Char → List Char
  | [] => []
  | c :: rest =>
      if c = 'Σ' then
        (if meetsCased before && !meetsCased rest then 'ς' else 'σ') :: lowerFrom (c :: before) rest
      else if c = 'İ' then 'i' :: '\u0307' :: lowerFrom (c :: before) rest
      else if c.toNat < 0x80 then c.toLower :: lowerFrom (c :: before) rest
      else simpleCase lowerRuns c :: lowerFrom (c :: before) rest

def lower (text : String) : String :=
  String.ofList (lowerFrom [] text.toList)

def upperChar (c : Char) : List Char :=
  if c.toNat < 0x80 then [c.toUpper]
  else match upperExpansions.lookup c.toNat with
    | some codes => codes.map Char.ofNat
    | none => [simpleCase upperRuns c]

def upper (text : String) : String :=
  String.ofList (text.toList.flatMap upperChar)

end ProcessDiagram.Text
