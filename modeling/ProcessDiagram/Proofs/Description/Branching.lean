import Mathlib.Data.List.Basic
import ProcessDiagram.Description.Branching

set_option autoImplicit false

namespace ProcessDiagram

def Gateway.Answers (gateway : Gateway) (wanted : String) : Prop :=
  2 ≤ gateway.branches.length ∧
    ∃ text, (text = gateway.id ∨ text = gateway.name) ∧ text ≠ "" ∧ Description.key text = wanted

namespace Description

def FirstToAnswer (gateways : List Gateway) (wanted : String) (gateway : Gateway) : Prop :=
  ∃ before after, gateways = before ++ gateway :: after ∧ gateway.Answers wanted ∧
    ∀ other ∈ before, ¬ other.Answers wanted

def NamesGateway (gateways : List Gateway) (text : String) (gateway : Gateway) : Prop :=
  text ≠ "" ∧ FirstToAnswer gateways (key text) gateway

def Honours (gateways : List Gateway) (step : Step) (gateway : Gateway) : Prop :=
  step.kind = .gateway ∧
    (NamesGateway gateways (step.id.getD "") gateway ∨
      (∀ other, ¬ NamesGateway gateways (step.id.getD "") other) ∧
        NamesGateway gateways step.name gateway)

theorem answers_iff (gateway : Gateway) (wanted : String) :
    (2 ≤ gateway.branches.length && (keysOf [gateway.id, gateway.name]).contains wanted) = true ↔
      gateway.Answers wanted := by
  rw [Bool.and_eq_true, decide_eq_true_eq, List.contains_iff_mem, Gateway.Answers, keysOf,
    List.mem_map]
  simp only [List.mem_filter, List.mem_cons, List.not_mem_nil, or_false, decide_eq_true_eq,
    and_assoc]

theorem gateway_at_iff (gateways : List Gateway) (wanted : String) (gateway : Gateway) :
    gatewayAt? gateways wanted = some gateway ↔ FirstToAnswer gateways wanted gateway := by
  rw [gatewayAt?, List.find?_eq_some_iff_append, answers_iff]
  constructor
  · rintro ⟨answers, before, after, split, earlier⟩
    refine ⟨before, after, split, answers, ?_⟩
    intro other member found
    have refused := earlier other member
    rw [(answers_iff other wanted).mpr found] at refused
    cases refused
  · rintro ⟨before, after, split, answers, earlier⟩
    refine ⟨answers, before, after, split, ?_⟩
    intro other member
    rw [Bool.not_eq_true', ← Bool.not_eq_true, answers_iff]
    exact earlier other member

theorem names_iff (gateways : List Gateway) (text : String) (gateway : Gateway) :
    (keysOf [text]).findSome? (gatewayAt? gateways) = some gateway ↔
      NamesGateway gateways text gateway := by
  rw [NamesGateway]
  by_cases empty : text = ""
  · simp [keysOf, empty]
  · simp [keysOf, empty, gateway_at_iff]

theorem honours_iff (gateways : List Gateway) (step : Step) (gateway : Gateway) :
    gatewayOf? gateways step = some gateway ↔ Honours gateways step gateway := by
  have split : keysOf [step.id.getD "", step.name] =
      keysOf [step.id.getD ""] ++ keysOf [step.name] := by
    rw [keysOf, keysOf, keysOf, ← List.map_append, ← List.filter_append]
    rfl
  rw [gatewayOf?, Honours]
  by_cases branches : step.kind = .gateway
  · rw [if_pos branches, split, List.findSome?_append, ← names_iff, ← names_iff]
    simp only [branches, true_and, ← names_iff]
    cases (keysOf [step.id.getD ""]).findSome? (gatewayAt? gateways) with
    | none => simp
    | some other => simp
  · rw [if_neg branches]
    simp [branches]

theorem honours_unique (gateways : List Gateway) (step : Step) (first second : Gateway)
    (one : Honours gateways step first) (other : Honours gateways step second) : first = second :=
  Option.some.inj (((honours_iff gateways step first).mpr one).symm.trans
    ((honours_iff gateways step second).mpr other))

end Description

end ProcessDiagram
