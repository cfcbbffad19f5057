import ProcessDiagram.Proofs.Layout.Overlap

set_option autoImplicit false

namespace ProcessDiagram

theorem Scalar.greatest_cons (first next : ℚ) (rest : List ℚ) :
    greatest first (next :: rest) = greatest (max first next) rest := by
  rw [greatest, List.foldl_cons]
  by_cases less : first < next
  · rw [if_pos less, max_eq_right less.le, greatest]
  · rw [if_neg less, max_eq_left (not_lt.mp less), greatest]

theorem Scalar.le_greatest (first : ℚ) (others : List ℚ) :
    ∀ value ∈ first :: others, value ≤ greatest first others := by
  induction others generalizing first with
  | nil => simp [greatest]
  | cons next rest ih =>
      rw [greatest_cons]
      obtain ⟨bound, later⟩ := List.forall_mem_cons.mp (ih (max first next))
      simp only [List.forall_mem_cons]
      exact ⟨(le_max_left first next).trans bound, (le_max_right first next).trans bound, later⟩

namespace Placement

section Boxes

variable (table : RoleTable ℚ) (nodes : List Node)

def HasPlace (node : Node) (corner : ℚ × ℚ) : Prop :=
  ∃ role, node.role = some role ∧ role ≠ "" ∧ Table.get? role table = some corner

theorem corner_iff (node : Node) (corner : ℚ × ℚ) :
    corner? table node = some corner ↔ HasPlace table node corner := by
  rw [corner?, HasPlace]
  cases node.role with
  | none => simp
  | some role =>
      by_cases empty : role = ""
      · simp [empty]
      · simp [empty]

def placedBoxes : Boxes ℚ :=
  nodes.filterMap fun node =>
    (corner? table node).map fun corner => (node.id, cornerAt node.kind corner.1 corner.2)

def parkedBoxes (y : ℚ) : Boxes ℚ :=
  nodes.zipIdx.map fun entry =>
    (entry.1.id, cornerAt entry.1.kind (Scalar.ofInt (column entry.2)) y)

theorem mem_placed (entry : String × Box ℚ) :
    entry ∈ placedBoxes table nodes ↔ ∃ node ∈ nodes, ∃ corner, HasPlace table node corner ∧
      (node.id, cornerAt node.kind corner.1 corner.2) = entry := by
  rw [placedBoxes, List.mem_filterMap]
  simp only [Option.map_eq_some_iff, corner_iff]

theorem mem_parked (y : ℚ) (entry : String × Box ℚ) :
    entry ∈ parkedBoxes nodes y ↔ ∃ node index, nodes[index]? = some node ∧
      (node.id, cornerAt node.kind (Scalar.ofInt (column index)) y) = entry := by
  rw [parkedBoxes, List.mem_map]
  simp only [Prod.exists, List.mem_zipIdx_iff_getElem?]

theorem mem_unplaced (node : Node) :
    node ∈ unplaced table nodes ↔ node ∈ nodes ∧ ∀ corner, ¬ HasPlace table node corner := by
  rw [unplaced, List.mem_filter, Option.isNone_iff_eq_none, Option.eq_none_iff_forall_ne_some]
  simp only [ne_eq, corner_iff]

theorem keys_placed : Table.keys (placedBoxes table nodes) =
    (nodes.filter fun node => (corner? table node).isSome).map Node.id := by
  induction nodes with
  | nil => rfl
  | cons node rest ih =>
      rw [placedBoxes] at ih ⊢
      cases corner : corner? table node with
      | none => simp [corner, ih]
      | some place => simp [corner, ih]

theorem keys_parked (y : ℚ) : Table.keys (parkedBoxes nodes y) = nodes.map Node.id := by
  rw [parkedBoxes, Table.keys_entries, numbered_ids]

theorem role_keys_distinct (distinct : (nodes.map Node.id).Nodup) (y : ℚ) :
    (Table.keys (placedBoxes table nodes ++ parkedBoxes (unplaced table nodes) y)).Nodup := by
  have apart := List.filter_append_perm (fun node => (corner? table node).isSome) nodes
  simp only [Option.not_isSome] at apart
  have ids := (apart.map Node.id).nodup_iff.mpr distinct
  rw [List.map_append] at ids
  have keys : Table.keys (placedBoxes table nodes ++ parkedBoxes (unplaced table nodes) y) =
      Table.keys (placedBoxes table nodes) ++ Table.keys (parkedBoxes (unplaced table nodes) y) :=
    List.map_append
  rw [keys, keys_placed, keys_parked]
  exact ids

theorem by_role_boxes (distinct : (nodes.map Node.id).Nodup) :
    byRole table nodes = placedBoxes table nodes ++ parkedBoxes (unplaced table nodes)
      (lowerEnd (placedBoxes table nodes) + Scalar.ofInt 100) := by
  have keys := role_keys_distinct table nodes distinct
    (lowerEnd (placedBoxes table nodes) + Scalar.ofInt 100)
  have placed : Table.ofList (placedBoxes table nodes) = placedBoxes table nodes := by
    apply Table.of_list_distinct
    rw [keys_placed]
    exact distinct.sublist (List.filter_sublist.map Node.id)
  have whole := Table.put_all_fresh _ _ keys
  rw [parkedBoxes, List.foldl_map] at whole
  rw [byRole]
  change park (lowerEnd (Table.ofList (placedBoxes table nodes)) + _)
    (Table.ofList (placedBoxes table nodes)) _ = _
  rw [placed]
  exact whole

theorem placed_above (entry : String × Box ℚ) (member : entry ∈ placedBoxes table nodes) :
    entry.2.bottom ≤ lowerEnd (placedBoxes table nodes) := by
  generalize placedBoxes table nodes = boxes at member
  cases boxes with
  | nil => cases member
  | cons first rest =>
      have listed : entry.2.bottom ∈ ((first :: rest).map Prod.snd).map Box.bottom :=
        List.mem_map_of_mem (List.mem_map_of_mem member)
      exact Scalar.le_greatest first.2.bottom ((rest.map Prod.snd).map Box.bottom) _ listed

theorem parked_below (other : List Node) (entry beside : String × Box ℚ)
    (placed : entry ∈ placedBoxes table nodes)
    (parked : beside ∈ parkedBoxes other
      (lowerEnd (placedBoxes table nodes) + Scalar.ofInt 100)) :
    entry.2.overlaps beside.2 = false := by
  obtain ⟨node, index, _, rfl⟩ := (mem_parked other _ beside).mp parked
  have above := placed_above table nodes entry placed
  have margin : (0 : ℚ) ≤ Scalar.ofInt 100 := Int.cast_nonneg (by decide)
  refine (Box.apart_iff _ _).mpr (.inr (.inr (.inr ?_)))
  exact above.trans (le_add_of_nonneg_right margin)

theorem parked_beside (y : ℚ) (entry beside : String × Box ℚ) (one : entry ∈ parkedBoxes nodes y)
    (two : beside ∈ parkedBoxes nodes y) (differ : entry.1 ≠ beside.1) :
    entry.2.overlaps beside.2 = false := by
  obtain ⟨node, index, here, rfl⟩ := (mem_parked nodes y entry).mp one
  obtain ⟨other, next, there, rfl⟩ := (mem_parked nodes y beside).mp two
  have apart : index ≠ next := by
    rintro rfl
    rw [here] at there
    exact differ (congrArg Node.id (Option.some.inj there))
  exact columns_apart index next apart _ _ (corner_column node.kind index y)
    (corner_column other.kind next y)

end Boxes

structure Parked (table : RoleTable ℚ) (nodes : List Node) (boxes : Boxes ℚ) : Prop where
  whole : ∀ node ∈ nodes, ∃ box, Table.get? node.id boxes = some box
  placed : ∀ node ∈ nodes, ∀ corner, HasPlace table node corner →
    ∃ box, Table.get? node.id boxes = some box ∧ box.x = corner.1 ∧ box.y = corner.2
  apart : ∀ node ∈ nodes, (∀ corner, ¬ HasPlace table node corner) →
    ∀ box, Table.get? node.id boxes = some box → ∀ entry ∈ boxes, entry.1 ≠ node.id →
      box.overlaps entry.2 = false ∧ entry.2.overlaps box = false
  pairs : ∀ first second, (first, second) ∈ Diagram.overlapsIn boxes →
    ∃ one ∈ nodes, ∃ two ∈ nodes, one.id = first ∧ two.id = second ∧ first ≠ second ∧
      (∃ corner, HasPlace table one corner) ∧ ∃ corner, HasPlace table two corner

section Apart

variable (table : RoleTable ℚ) (nodes : List Node) (distinct : (nodes.map Node.id).Nodup)

include distinct

theorem parked_entry (node : Node) (member : node ∈ nodes)
    (free : ∀ corner, ¬ HasPlace table node corner) (box : Box ℚ)
    (found : Table.get? node.id (byRole table nodes) = some box) :
    (node.id, box) ∈ parkedBoxes (unplaced table nodes)
      (lowerEnd (placedBoxes table nodes) + Scalar.ofInt 100) := by
  rw [by_role_boxes table nodes distinct] at found
  rcases List.mem_append.mp (Table.get_mem _ _ _ found) with placed | parked
  · obtain ⟨other, inside, corner, place, same⟩ := (mem_placed table nodes _).mp placed
    have ids : other.id = node.id := congrArg Prod.fst same
    obtain rfl := List.inj_on_of_nodup_map distinct inside member ids
    exact absurd place (free corner)
  · exact parked

theorem unplaced_apart (node : Node) (member : node ∈ nodes)
    (free : ∀ corner, ¬ HasPlace table node corner) (box : Box ℚ)
    (found : Table.get? node.id (byRole table nodes) = some box) (entry : String × Box ℚ)
    (listed : entry ∈ byRole table nodes) (differ : entry.1 ≠ node.id) :
    entry.2.overlaps box = false := by
  have parked := parked_entry table nodes distinct node member free box found
  rw [by_role_boxes table nodes distinct] at listed
  rcases List.mem_append.mp listed with placed | beside
  · exact parked_below table nodes _ entry (node.id, box) placed parked
  · exact parked_beside _ _ entry (node.id, box) beside parked differ

theorem entry_node (entry : String × Box ℚ) (listed : entry ∈ byRole table nodes) :
    ∃ node ∈ nodes, node.id = entry.1 ∧
      Table.get? node.id (byRole table nodes) = some entry.2 := by
  have keys := role_keys_distinct table nodes distinct
    (lowerEnd (placedBoxes table nodes) + Scalar.ofInt 100)
  rw [← by_role_boxes table nodes distinct] at keys
  have found := Table.get_of_mem entry.1 entry.2 _ keys listed
  rw [by_role_boxes table nodes distinct] at listed
  rcases List.mem_append.mp listed with placed | parked
  · obtain ⟨node, inside, _, _, rfl⟩ := (mem_placed table nodes entry).mp placed
    exact ⟨node, inside, rfl, found⟩
  · obtain ⟨node, index, here, rfl⟩ := (mem_parked _ _ entry).mp parked
    have inside := ((mem_unplaced table nodes node).mp (List.mem_of_getElem? here)).1
    exact ⟨node, inside, rfl, found⟩

theorem by_role_parked : Parked table nodes (byRole table nodes) := by
  have keys := role_keys_distinct table nodes distinct
    (lowerEnd (placedBoxes table nodes) + Scalar.ofInt 100)
  rw [← by_role_boxes table nodes distinct] at keys
  refine ⟨?_, ?_, ?_, ?_⟩
  · exact fun node member => Table.get_exists _ _ (keys_by_role table nodes node member)
  · intro node member corner place
    have listed : (node.id, cornerAt node.kind corner.1 corner.2) ∈ byRole table nodes := by
      rw [by_role_boxes table nodes distinct]
      exact List.mem_append_left _
        ((mem_placed table nodes _).mpr ⟨node, member, corner, place, rfl⟩)
    exact ⟨_, Table.get_of_mem _ _ _ keys listed, rfl, rfl⟩
  · intro node member free box found entry listed differ
    have apart := unplaced_apart table nodes distinct node member free box found entry listed differ
    exact ⟨Box.overlaps_comm box entry.2 ▸ apart, apart⟩
  · intro first second meets
    obtain ⟨box, other, inside, overlap⟩ := (Diagram.overlapping_entries _ _ _).mp meets
    have one_listed := inside.subset List.mem_cons_self
    have two_listed := inside.subset (List.mem_cons_of_mem _ List.mem_cons_self)
    have differ : first ≠ second := by
      have single := keys.sublist (inside.map Prod.fst)
      simpa using single
    obtain ⟨one, member, rfl, found⟩ := entry_node table nodes distinct _ one_listed
    obtain ⟨two, also, rfl, beside⟩ := entry_node table nodes distinct _ two_listed
    refine ⟨one, member, two, also, rfl, rfl, differ, ?_, ?_⟩
    · by_contra free
      have apart := unplaced_apart table nodes distinct one member (not_exists.mp free) box found
        _ two_listed differ.symm
      rw [Box.overlaps_comm, overlap] at apart
      cases apart
    · by_contra free
      have apart := unplaced_apart table nodes distinct two also (not_exists.mp free) other beside
        _ one_listed differ
      rw [overlap] at apart
      cases apart

end Apart

end Placement

end ProcessDiagram
