import Mathlib.Algebra.Order.Field.Basic
import ProcessDiagram.Proofs.Layout.Overlap

set_option autoImplicit false

namespace ProcessDiagram

namespace Box

structure Positive (box : Box ℚ) : Prop where
  wide : 0 < box.width
  high : 0 < box.height

instance (box : Box ℚ) : Decidable box.Positive :=
  decidable_of_iff (0 < box.width ∧ 0 < box.height)
    ⟨fun sides => ⟨sides.1, sides.2⟩, fun positive => ⟨positive.wide, positive.high⟩⟩

-- The sides of a box do not belong to its inside.
structure Inside (box : Box ℚ) (point : Point ℚ) : Prop where
  left : box.x < point.x
  right : point.x < box.right
  top : box.y < point.y
  bottom : point.y < box.bottom

theorem stretches_meet (low high otherLow otherHigh : ℚ) (long : low < high)
    (otherLong : otherLow < otherHigh) :
    low < otherHigh ∧ otherLow < high ↔
      ∃ place, (low < place ∧ place < high) ∧ otherLow < place ∧ place < otherHigh := by
  constructor
  · rintro ⟨before, after⟩
    have room : max low otherLow < min high otherHigh :=
      max_lt (lt_min long before) (lt_min after otherLong)
    obtain ⟨place, above, below⟩ := exists_between room
    obtain ⟨low_place, other_low⟩ := max_lt_iff.mp above
    obtain ⟨place_high, other_high⟩ := lt_min_iff.mp below
    exact ⟨place, ⟨low_place, place_high⟩, other_low, other_high⟩
  · rintro ⟨place, ⟨above, below⟩, otherAbove, otherBelow⟩
    exact ⟨above.trans otherBelow, otherAbove.trans below⟩

theorem overlaps_iff_shared (box other : Box ℚ) (positive : box.Positive)
    (otherPositive : other.Positive) :
    box.overlaps other = true ↔ ∃ point, box.Inside point ∧ other.Inside point := by
  have across := stretches_meet box.x box.right other.x other.right
    (lt_add_of_pos_right _ positive.wide) (lt_add_of_pos_right _ otherPositive.wide)
  have along := stretches_meet box.y box.bottom other.y other.bottom
    (lt_add_of_pos_right _ positive.high) (lt_add_of_pos_right _ otherPositive.high)
  simp only [overlaps, Bool.and_eq_true, decide_eq_true_eq, and_assoc]
  rw [← and_assoc, across, along]
  constructor
  · rintro ⟨⟨x, ⟨left, right⟩, otherLeft, otherRight⟩, y, ⟨top, bottom⟩, otherTop, otherBottom⟩
    exact ⟨⟨x, y⟩, ⟨left, right, top, bottom⟩, otherLeft, otherRight, otherTop, otherBottom⟩
  · rintro ⟨⟨x, y⟩, inside, other⟩
    exact ⟨⟨x, ⟨inside.left, inside.right⟩, other.left, other.right⟩,
      y, ⟨inside.top, inside.bottom⟩, other.top, other.bottom⟩

end Box

namespace Diagram

theorem overlaps_listed (table : Table String (Box ℚ)) (first second : String)
    (told : (first, second) ∈ overlapsIn table) : [first, second].Sublist (Table.keys table) := by
  obtain ⟨_, _, inside, _⟩ := (overlapping_entries table first second).mp told
  exact inside.map Prod.fst

theorem overlaps_once (table : Table String (Box ℚ)) (distinct : (Table.keys table).Nodup) :
    (overlapsIn table).Nodup := by
  induction table with
  | nil => exact List.nodup_nil
  | cons entry rest ih =>
      rw [Table.keys_cons, List.nodup_cons] at distinct
      rw [overlapsIn, List.nodup_append]
      refine ⟨?_, ih distinct.2, ?_⟩
      · have kept := (List.filter_sublist (p := fun later => entry.2.overlaps later.2)
          (l := rest)).map Prod.fst
        have single := distinct.2.sublist kept
        rw [List.Nodup, List.pairwise_map]
        refine (List.pairwise_map.mp single).imp ?_
        intro one two apart same
        exact apart (congrArg Prod.snd same)
      · rintro ⟨first, second⟩ here other later rfl
        obtain ⟨_, _, same⟩ := List.mem_map.mp here
        obtain ⟨rfl, _⟩ := Prod.mk.inj same
        exact distinct.1 ((overlaps_listed rest _ _ later).subset List.mem_cons_self)

def Shared (diagram : Diagram ℚ) (first second : String) : Prop :=
  ∃ box other point, Table.get? first diagram.boxes = some box ∧
    Table.get? second diagram.boxes = some other ∧ box.Inside point ∧ other.Inside point

theorem shared_symm (diagram : Diagram ℚ) (first second : String)
    (shared : diagram.Shared first second) : diagram.Shared second first := by
  obtain ⟨box, other, point, found, otherFound, inside, otherInside⟩ := shared
  exact ⟨other, box, point, otherFound, found, otherInside, inside⟩

theorem listed_either (keys : List String) (first second : String) (known : first ∈ keys)
    (otherKnown : second ∈ keys) (apart : first ≠ second) :
    [first, second].Sublist keys ∨ [second, first].Sublist keys := by
  induction keys with
  | nil => cases known
  | cons key rest ih =>
      rcases List.mem_cons.mp known with rfl | later <;>
        rcases List.mem_cons.mp otherKnown with rfl | otherLater
      · exact absurd rfl apart
      · exact .inl ((List.singleton_sublist.mpr otherLater).cons_cons first)
      · exact .inr ((List.singleton_sublist.mpr later).cons_cons second)
      · exact (ih later otherLater).imp (·.cons key) (·.cons key)

theorem listed_one_way (keys : List String) (distinct : keys.Nodup) (first second : String)
    (inside : [first, second].Sublist keys) : ¬ [second, first].Sublist keys := by
  have places : keys.Pairwise fun one two => keys.idxOf one < keys.idxOf two := by
    rw [List.pairwise_iff_getElem]
    intro low high low_inside high_inside before
    rwa [distinct.idxOf_getElem, distinct.idxOf_getElem]
  intro back
  exact Nat.lt_asymm (List.pairwise_iff_forall_sublist.mp places inside)
    (List.pairwise_iff_forall_sublist.mp places back)

theorem shared_known (diagram : Diagram ℚ) (first second : String)
    (shared : diagram.Shared first second) :
    first ∈ Table.keys diagram.boxes ∧ second ∈ Table.keys diagram.boxes := by
  obtain ⟨box, other, _, found, otherFound, _⟩ := shared
  exact ⟨(Table.mem_keys _ _).mpr ⟨box, Table.get_mem _ _ _ found⟩,
    (Table.mem_keys _ _).mpr ⟨other, Table.get_mem _ _ _ otherFound⟩⟩

section Positive

variable (diagram : Diagram ℚ) (distinct : (Table.keys diagram.boxes).Nodup)
  (positive : ∀ entry ∈ diagram.boxes, entry.2.Positive)

include distinct positive

theorem overlapping_iff (first second : String) :
    (first, second) ∈ diagram.overlappingPairs ↔
      [first, second].Sublist (Table.keys diagram.boxes) ∧ diagram.Shared first second := by
  rw [overlappingPairs, overlapping_entries]
  constructor
  · rintro ⟨box, other, inside, meets⟩
    have member : (first, box) ∈ diagram.boxes := inside.subset List.mem_cons_self
    have otherMember : (second, other) ∈ diagram.boxes :=
      inside.subset (List.mem_cons_of_mem _ List.mem_cons_self)
    obtain ⟨point, shared⟩ := (Box.overlaps_iff_shared box other (positive _ member)
      (positive _ otherMember)).mp meets
    exact ⟨inside.map Prod.fst, box, other, point, Table.get_of_mem _ _ _ distinct member,
      Table.get_of_mem _ _ _ distinct otherMember, shared⟩
  · rintro ⟨inside, box, other, point, found, otherFound, shared⟩
    obtain ⟨entries, part, ids⟩ := List.sublist_map_iff.mp inside
    obtain ⟨one, others, rfl, rfl, rest⟩ := List.map_eq_cons_iff.mp ids.symm
    obtain ⟨two, after, rfl, rfl, nothing⟩ := List.map_eq_cons_iff.mp rest
    obtain rfl := List.map_eq_nil_iff.mp nothing
    have member : one ∈ diagram.boxes := part.subset List.mem_cons_self
    have otherMember : two ∈ diagram.boxes := part.subset (List.mem_cons_of_mem _ List.mem_cons_self)
    rw [Table.get_of_mem one.1 one.2 _ distinct member, Option.some.injEq] at found
    rw [Table.get_of_mem two.1 two.2 _ distinct otherMember, Option.some.injEq] at otherFound
    subst found otherFound
    exact ⟨one.2, two.2, part, (Box.overlaps_iff_shared one.2 two.2 (positive one member)
      (positive two otherMember)).mpr ⟨point, shared⟩⟩

theorem shared_told_once (first second : String) (apart : first ≠ second)
    (shared : diagram.Shared first second) :
    diagram.overlappingPairs.count (first, second) +
      diagram.overlappingPairs.count (second, first) = 1 := by
  have single : diagram.overlappingPairs.Nodup := overlaps_once diagram.boxes distinct
  have told := diagram.overlapping_iff distinct positive first second
  have toldBack := diagram.overlapping_iff distinct positive second first
  obtain ⟨known, otherKnown⟩ := diagram.shared_known first second shared
  rcases listed_either _ first second known otherKnown apart with inside | inside
  · have absent : (second, first) ∉ diagram.overlappingPairs := fun member =>
      listed_one_way _ distinct first second inside (toldBack.mp member).1
    rw [List.count_eq_one_of_mem single (told.mpr ⟨inside, shared⟩),
      List.count_eq_zero_of_not_mem absent]
  · have absent : (first, second) ∉ diagram.overlappingPairs := fun member =>
      listed_one_way _ distinct second first inside (told.mp member).1
    rw [List.count_eq_zero_of_not_mem absent, List.count_eq_one_of_mem single
      (toldBack.mpr ⟨inside, diagram.shared_symm first second shared⟩)]

end Positive

/-- Overlapping boxes have an inner point in common, and a diagram tells of each pair of them once, in
the order of its table. -/
theorem overlaps_told_once (diagram : Diagram ℚ) (distinct : (Table.keys diagram.boxes).Nodup)
    (positive : ∀ entry ∈ diagram.boxes, entry.2.Positive) :
    (∀ box other : Box ℚ, box.Positive → other.Positive →
      box.overlaps other = other.overlaps box ∧
        (box.overlaps other = true ↔ ∃ point, box.Inside point ∧ other.Inside point)) ∧
    diagram.overlappingPairs.Nodup ∧
    (∀ first second, (first, second) ∈ diagram.overlappingPairs ↔
      [first, second].Sublist (Table.keys diagram.boxes) ∧ diagram.Shared first second) ∧
    ∀ first second, first ≠ second → diagram.Shared first second →
      diagram.overlappingPairs.count (first, second) +
        diagram.overlappingPairs.count (second, first) = 1 :=
  ⟨fun box other wide otherWide =>
      ⟨Box.overlaps_comm box other, Box.overlaps_iff_shared box other wide otherWide⟩,
    overlaps_once diagram.boxes distinct, diagram.overlapping_iff distinct positive,
    diagram.shared_told_once distinct positive⟩

/-- A small box inside a large one, a box across the corner of the large one, one that touches it, and
one apart from all. -/
def crowdedDiagram : Diagram ℚ where
  strategy := .archetype
  boxes := [("large", ⟨0, 0, 100, 80⟩), ("touching", ⟨100, 0, 50, 80⟩), ("small", ⟨10, 10, 20, 20⟩),
    ("corner", ⟨99, 79, 30, 30⟩), ("far", ⟨300, 0, 36, 36⟩)]

theorem crowded_overlaps_told :
    (Table.keys crowdedDiagram.boxes).Nodup ∧
      (∀ entry ∈ crowdedDiagram.boxes, entry.2.Positive) ∧
      crowdedDiagram.overlappingPairs =
        [("large", "small"), ("large", "corner"), ("touching", "corner")] ∧
      crowdedDiagram.Shared "corner" "large" ∧ ¬ crowdedDiagram.Shared "large" "touching" := by
  have distinct : (Table.keys crowdedDiagram.boxes).Nodup := by decide
  have positive : ∀ entry ∈ crowdedDiagram.boxes, entry.2.Positive := by decide +kernel
  have told : crowdedDiagram.overlappingPairs =
      [("large", "small"), ("large", "corner"), ("touching", "corner")] := by
    decide +kernel
  obtain ⟨_, _, pairs, _⟩ := overlaps_told_once crowdedDiagram distinct positive
  refine ⟨distinct, positive, told, ?_, ?_⟩
  · have listed : ("large", "corner") ∈ crowdedDiagram.overlappingPairs := by
      rw [told]
      decide
    exact shared_symm _ _ _ ((pairs "large" "corner").mp listed).2
  · intro shared
    have listed := (pairs "large" "touching").mpr ⟨by decide, shared⟩
    rw [told] at listed
    revert listed
    decide

end Diagram

end ProcessDiagram
