import ProcessDiagram.Xml.Tree

set_option autoImplicit false

namespace ProcessDiagram.Document

def modelSpace : String := "http://www.omg.org/spec/BPMN/20100524/MODEL"

def diagramSpace : String := "http://www.omg.org/spec/BPMN/20100524/DI"

def boxSpace : String := "http://www.omg.org/spec/DD/20100524/DC"

def pointSpace : String := "http://www.omg.org/spec/DD/20100524/DI"

def instanceSpace : String := "http://www.w3.org/2001/XMLSchema-instance"

def spaces : List (String × String) :=
  [("bpmn", modelSpace), ("bpmndi", diagramSpace), ("dc", boxSpace), ("di", pointSpace),
   ("xsi", instanceSpace)]

def declarations : List (Xml.QualifiedName × String) :=
  spaces.map fun (qualifier, space) => (⟨"xmlns", qualifier⟩, space)

def model (name : String) : Xml.QualifiedName := ⟨"bpmn", name⟩

def diagram (name : String) : Xml.QualifiedName := ⟨"bpmndi", name⟩

def box (name : String) : Xml.QualifiedName := ⟨"dc", name⟩

def point (name : String) : Xml.QualifiedName := ⟨"di", name⟩

def plain (name value : String) : Xml.QualifiedName × String := (⟨"", name⟩, value)

end ProcessDiagram.Document
