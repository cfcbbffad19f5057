import ProcessDiagram.Document.Writer
import ProcessDiagram.Graph.Draft

set_option autoImplicit false

namespace ProcessDiagram

theorem digits_injective (first second : Nat)
    (same : Nat.toDigits 10 first = Nat.toDigits 10 second) : first = second := by
  have numbers := congrArg (fun digits => Nat.ofDigitChars 10 digits 0) same
  simpa using numbers

theorem number_text_injective (first second : Nat) (same : toString first = toString second) :
    first = second := by
  have chars := congrArg String.toList same
  rw [Nat.toString_eq_ofList_toDigits, Nat.toString_eq_ofList_toDigits, String.toList_ofList,
    String.toList_ofList] at chars
  exact digits_injective first second chars

theorem append_injective (front first second : String) (same : front ++ first = front ++ second) :
    first = second := by
  have chars := congrArg String.toList same
  rw [String.toList_append, String.toList_append] at chars
  exact String.toList_injective (List.append_cancel_left chars)

theorem node_id_injective (first second : Nat) (same : Draft.nodeId first = Draft.nodeId second) :
    first = second :=
  number_text_injective first second (append_injective _ _ _ same)

theorem flow_id_injective (token : String) (first second : Nat)
    (same : Document.flowId token first = Document.flowId token second) : first = second := by
  have numbers := number_text_injective _ _ (append_injective _ _ _ same)
  omega

end ProcessDiagram
