import ProcessDiagram.Layout.Arrangement
import ProcessDiagram.Proofs.Each
import ProcessDiagram.Proofs.Graph.Sound
import ProcessDiagram.Proofs.Layout.Rank

set_option autoImplicit false

namespace ProcessDiagram

variable {Number : Type} [Scalar Number]

namespace Placement

open Scalar

def linearBox (entry : Node × Nat) : Box Number :=
  cornerAt entry.1.kind (ofInt (column entry.2)) (ofInt (baseLine entry.1.kind))

def lanesBox (entry : (Node × Nat) × Nat) : Box Number :=
  let size := entry.1.1.kind.size (ofInt laneTaskWidth)
  Box.centeredAt (ofInt (column entry.2 + laneTaskWidth / 2))
    (ofInt (100 + entry.1.2 * 150 + 75)) size.1 size.2

def layeredBox (ranks rows : Table String Nat) (node : Node) : Box Number :=
  let size := node.kind.size (ofInt taskWidth)
  Box.centeredAt (ofInt (column ((Table.get? node.id ranks).getD 0) + taskWidth / 2))
    (ofInt (220 + (Table.get? node.id rows).getD 0 * 150)) size.1 size.2

theorem linear_entries (nodes : List Node) :
    (linear nodes : Boxes Number) =
      Table.ofList (nodes.zipIdx.map fun entry => (entry.1.id, linearBox entry)) := rfl

theorem lanes_entries (graph : Graph) :
    (lanes graph : Boxes Number) =
      Table.ofList ((graph.nodes.zip (lanesFrom graph.actors 0 graph.nodes)).zipIdx.map
        fun entry => (entry.1.1.id, lanesBox entry)) := rfl

theorem layered_entries (graph : Graph) (ranks : Table String Nat)
    (found : Rank.ofGraph graph = .ok ranks) :
    (layered graph : Except String (Boxes Number)) = .ok (Table.ofList (graph.nodes.map
      fun node => (node.id, layeredBox ranks (Row.ofGraph graph) node))) := by
  rw [layered, found]
  rfl

theorem layered_made (graph : Graph) (boxes : Boxes Number) (made : layered graph = .ok boxes) :
    ∃ ranks, boxes = Table.ofList (graph.nodes.map fun node =>
      (node.id, layeredBox ranks (Row.ofGraph graph) node)) := by
  obtain ⟨ranks, found, _⟩ := Each.bind_ok _ _ _ made
  rw [layered_entries graph ranks found] at made
  exact ⟨ranks, (Except.ok.inj made).symm⟩

theorem lanes_length (actors : List String) (lane : Nat) (nodes : List Node) :
    (lanesFrom actors lane nodes).length = nodes.length := by
  induction nodes generalizing lane with
  | nil => rfl
  | cons node rest ih => rw [lanesFrom, List.length_cons, ih, List.length_cons]

theorem numbered_ids (nodes : List Node) :
    (nodes.zipIdx.map fun entry => entry.1.id) = nodes.map Node.id := by
  have first := congrArg (List.map Node.id) (List.zipIdx_map_fst 0 nodes)
  rwa [List.map_map] at first

theorem lane_ids (graph : Graph) :
    ((graph.nodes.zip (lanesFrom graph.actors 0 graph.nodes)).zipIdx.map
      fun entry => entry.1.1.id) = graph.ids := by
  have enough := Nat.le_of_eq (lanes_length graph.actors 0 graph.nodes).symm
  have first := List.zipIdx_map_fst 0 (graph.nodes.zip (lanesFrom graph.actors 0 graph.nodes))
  have zipped := congrArg (List.map (Node.id ∘ Prod.fst)) first
  rw [List.map_map, ← List.map_map (l := graph.nodes.zip _), List.map_fst_zip enough] at zipped
  exact zipped

theorem keys_linear (nodes : List Node) (id : String) :
    id ∈ Table.keys (linear nodes : Boxes Number) ↔ id ∈ nodes.map Node.id := by
  rw [linear_entries, Table.mem_keys_of_list, Table.keys_entries, numbered_ids]

theorem keys_lanes (graph : Graph) (id : String) :
    id ∈ Table.keys (lanes graph : Boxes Number) ↔ id ∈ graph.ids := by
  rw [lanes_entries, Table.mem_keys_of_list, Table.keys_entries, lane_ids]

theorem keys_park (y : Number) (nodes : List (Node × Nat)) (boxes : Boxes Number) (id : String) :
    id ∈ Table.keys (nodes.foldl (fun boxes (node, index) =>
        Table.put node.id (cornerAt node.kind (ofInt (column index)) y) boxes) boxes) ↔
      id ∈ Table.keys boxes ∨ ∃ entry ∈ nodes, entry.1.id = id := by
  induction nodes generalizing boxes with
  | nil => simp
  | cons entry rest ih =>
      rw [List.foldl_cons, ih, Table.mem_keys_put, List.exists_mem_cons_iff]
      constructor
      · rintro ((same | old) | later)
        · exact .inr (.inl same.symm)
        · exact .inl old
        · exact .inr (.inr later)
      · rintro (old | same | later)
        · exact .inl (.inr old)
        · exact .inl (.inl same.symm)
        · exact .inr later

theorem keys_by_role (table : RoleTable Number) (nodes : List Node) (node : Node)
    (member : node ∈ nodes) : node.id ∈ Table.keys (byRole table nodes) := by
  rw [byRole, park, keys_park]
  cases corner : corner? table node with
  | some place =>
      left
      rw [Table.mem_keys_of_list, Table.keys, List.map_filterMap]
      exact List.mem_filterMap.mpr ⟨node, member, by rw [corner]; rfl⟩
  | none =>
      right
      have unplaced : node ∈ unplaced table nodes :=
        List.mem_filter.mpr ⟨member, by rw [corner]; rfl⟩
      obtain ⟨index, known⟩ := List.mem_iff_getElem?.mp unplaced
      exact ⟨(node, index), List.mem_zipIdx_iff_getElem?.mpr known, rfl⟩

end Placement

namespace Diagram

theorem place_whole (tables : Table String (RoleTable Number)) (strategy : Strategy)
    (graph : Graph) (boxes : Boxes Number) (placed : place tables strategy graph = .ok boxes) :
    ∀ id ∈ graph.ids, id ∈ Table.keys boxes := by
  intro id member
  cases strategy with
  | auto =>
      cases placed
      exact (Placement.keys_linear graph.nodes id).mpr member
  | linear =>
      cases placed
      exact (Placement.keys_linear graph.nodes id).mpr member
  | lanes =>
      cases placed
      exact (Placement.keys_lanes graph id).mpr member
  | archetype =>
      cases placed
      obtain ⟨node, inside, rfl⟩ := List.mem_map.mp member
      exact Placement.keys_by_role _ graph.nodes node inside
  | layered =>
      obtain ⟨ranks, entries⟩ := Placement.layered_made graph boxes
        ((Each.renamed_ok _ _ _).mp placed)
      rw [entries, Table.mem_keys_of_list, Table.keys_entries]
      exact member

theorem place_ok (tables : Table String (RoleTable Number)) (strategy : Strategy) (graph : Graph)
    (distinct : graph.ids.Nodup)
    (connected : ∀ edge ∈ graph.edges, edge.source ∈ graph.ids ∧ edge.target ∈ graph.ids) :
    ∃ boxes, place tables strategy graph = .ok boxes ∧
      ∀ id ∈ graph.ids, id ∈ Table.keys boxes := by
  suffices placed : ∃ boxes, place tables strategy graph = .ok boxes from
    placed.imp fun boxes found => ⟨found, place_whole tables strategy graph boxes found⟩
  cases strategy with
  | auto => exact ⟨_, rfl⟩
  | linear => exact ⟨_, rfl⟩
  | lanes => exact ⟨_, rfl⟩
  | archetype => exact ⟨_, rfl⟩
  | layered =>
      obtain ⟨ranks, found⟩ := Rank.ranks_exist graph distinct fun edge member =>
        (connected edge member).2
      exact ⟨_, (Each.renamed_ok _ _ _).mpr (Placement.layered_entries graph ranks found)⟩

theorem between_length (source target : Box Number) :
    2 ≤ (Route.between source target).length := by
  rw [Route.between]
  split
  · simp
  · split <;> simp

theorem route_ok (boxes : Boxes Number) (edge : Edge) (index : Nat)
    (source : edge.source ∈ Table.keys boxes) (target : edge.target ∈ Table.keys boxes) :
    ∃ points, routeEdge boxes (edge, index) = .ok ((index : Int), points) := by
  obtain ⟨from_box, sourceFound⟩ := Table.get_exists _ _ source
  obtain ⟨to_box, targetFound⟩ := Table.get_exists _ _ target
  exact ⟨Route.between from_box to_box, by simp only [routeEdge, sourceFound, targetFound]⟩

theorem routed_entry (boxes : Boxes Number) (entry : Edge × Nat)
    (route : Int × List (Point Number)) (routed : routeEdge boxes entry = .ok route) :
    route.1 = (entry.2 : Int) ∧ ∃ source target, Table.get? entry.1.source boxes = some source ∧
      Table.get? entry.1.target boxes = some target ∧ route.2 = Route.between source target := by
  obtain ⟨edge, index⟩ := entry
  rw [routeEdge] at routed
  cases source : Table.get? edge.source boxes with
  | none => simp [source] at routed
  | some start =>
      cases target : Table.get? edge.target boxes with
      | none => simp [source, target] at routed
      | some finish =>
          simp only [source, target] at routed
          cases routed
          exact ⟨rfl, start, finish, rfl, rfl, rfl⟩

theorem routes_by_place (boxes : Boxes Number) (edges : List Edge)
    (routes : Table Int (List (Point Number)))
    (routed : edges.zipIdx.mapM (routeEdge boxes) = .ok routes) (index : Nat) (edge : Edge)
    (here : edges[index]? = some edge) :
    ∃ source target, Table.get? edge.source boxes = some source ∧
      Table.get? edge.target boxes = some target ∧
      Table.get? (index : Int) routes = some (Route.between source target) := by
  have fits := ((Each.all_ok _ _ _).mp routed).imp fun entry route found =>
    routed_entry boxes entry route found
  have keys : Table.keys routes = (edges.zipIdx.map Prod.snd).map Int.ofNat := by
    rw [List.map_map]
    exact Each.map_same (fun entry => Int.ofNat entry.2) Prod.fst _ _
      (fits.imp fun _ _ both => both.1)
  have single : (Table.keys routes).Nodup := by
    rw [keys, List.zipIdx_map_snd]
    exact (List.nodup_range' 1).map fun _ _ => Int.ofNat.inj
  have bound := (List.getElem?_eq_some_iff.mp here).choose
  have inside : index < edges.zipIdx.length := by
    rw [List.length_zipIdx]
    exact bound
  have reached : index < routes.length := fits.length_eq ▸ inside
  obtain ⟨key, source, target, sourceFound, targetFound, points⟩ := fits.get inside reached
  simp only [List.get_eq_getElem, List.getElem_zipIdx, Nat.zero_add]
    at key sourceFound targetFound points
  rw [(List.getElem?_eq_some_iff.mp here).choose_spec] at sourceFound targetFound
  refine ⟨source, target, sourceFound, targetFound, ?_⟩
  apply Table.get_of_mem _ _ _ single
  rw [← key, ← points]
  exact List.getElem_mem reached

theorem of_graph_made (tables : Table String (RoleTable Number)) (requested : Strategy)
    (graph : Graph) (diagram : Diagram Number) (made : ofGraph tables requested graph = .ok diagram) :
    place tables (strategyFor tables requested graph) graph = .ok diagram.boxes ∧
      graph.edges.zipIdx.mapM (routeEdge diagram.boxes) = .ok diagram.routes := by
  obtain ⟨boxes, placed, made⟩ := Each.bind_ok _ _ _ made
  obtain ⟨routes, routed, made⟩ := Each.bind_ok _ _ _ made
  cases made
  exact ⟨placed, routed⟩

theorem of_graph_ok (tables : Table String (RoleTable Number)) (requested : Strategy)
    (graph : Graph)
    (connected : ∀ edge ∈ graph.edges, edge.source ∈ graph.ids ∧ edge.target ∈ graph.ids)
    (boxes : Boxes Number)
    (placed : place tables (strategyFor tables requested graph) graph = .ok boxes)
    (whole : ∀ id ∈ graph.ids, id ∈ Table.keys boxes) :
    ∃ diagram, ofGraph tables requested graph = .ok diagram ∧ diagram.boxes = boxes ∧
      ∀ index < graph.edges.length, ∃ points,
        Table.get? (index : Int) diagram.routes = some points ∧ 2 ≤ points.length := by
  obtain ⟨routes, routed, _⟩ := Each.all_found (routeEdge boxes) graph.edges.zipIdx
    (fun _ _ => True) (by
      rintro ⟨edge, index⟩ member
      obtain ⟨source, target⟩ := connected edge (List.fst_mem_of_mem_zipIdx member)
      obtain ⟨points, route⟩ := route_ok boxes edge index (whole _ source) (whole _ target)
      exact ⟨_, route, trivial⟩)
  refine ⟨⟨strategyFor tables requested graph, boxes, routes⟩, ?_, rfl, ?_⟩
  · rw [ofGraph, placed]
    simp only [bind, Except.bind, routed]
    rfl
  · intro index bound
    obtain ⟨source, target, _, _, found⟩ := routes_by_place boxes graph.edges routes routed index
      graph.edges[index] (List.getElem?_eq_getElem bound)
    exact ⟨_, found, between_length source target⟩

theorem sound_laid_out (tables : Table String (RoleTable Number)) (requested : Strategy)
    (graph : Graph) (sound : graph.Sound) :
    ∃ diagram, ofGraph tables requested graph = .ok diagram ∧
      (∀ node ∈ graph.nodes, ∃ box, Table.get? node.id diagram.boxes = some box) ∧
      ∀ index < graph.edges.length, ∃ points,
        Table.get? (index : Int) diagram.routes = some points ∧ 2 ≤ points.length := by
  obtain ⟨boxes, placed, whole⟩ :=
    place_ok tables (strategyFor tables requested graph) graph sound.distinct sound.connected
  obtain ⟨diagram, found, same, routed⟩ :=
    of_graph_ok tables requested graph sound.connected boxes placed whole
  refine ⟨diagram, found, ?_, routed⟩
  intro node member
  rw [same]
  exact Table.get_exists _ _ (whole _ (List.mem_map_of_mem member))

end Diagram

end ProcessDiagram
