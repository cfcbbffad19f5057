import Mathlib.Algebra.Group.Nat.Defs
import Mathlib.Data.List.Perm.Subperm
import ProcessDiagram.Proofs.Identifier.Allocator

set_option autoImplicit false

namespace ProcessDiagram

namespace Identifier

def IsName : List Char → Prop
  | [] => False
  | first :: rest => isFirstChar first ∧ ∀ c ∈ rest, isNameChar c

theorem sanitized_name (chars : List Char) : IsName (sanitizeChars chars) := by
  have named := sanitized_named chars
  cases chars with
  | nil => exact ⟨by decide, fun _ none => (nomatch none)⟩
  | cons first rest =>
      refine ⟨?_, fun c later => named c (List.mem_cons_of_mem _ later)⟩
      by_cases good : isFirstChar first
      · rw [if_pos good]
        exact good
      · rw [if_neg good]
        decide

end Identifier

namespace Allocator

open Identifier (IsName Named isNameChar maxLength)

theorem with_tail_eq (chars tail : List Char) (fits : tail.length ≤ maxLength) :
    withTail chars tail = chars.take (maxLength - tail.length) ++ tail := by
  have positive : (0 : Int) ≤ (maxLength : Int) - tail.length := by omega
  have limit : ((maxLength : Int) - tail.length).toNat = maxLength - tail.length := by omega
  rw [withTail, cut, if_pos positive, limit]

theorem with_tail_length (chars tail : List Char) (fits : tail.length ≤ maxLength) :
    (withTail chars tail).length ≤ maxLength := by
  rw [with_tail_eq chars tail fits, List.length_append, List.length_take]
  omega

theorem with_tail_name (chars tail : List Char) (name : IsName chars)
    (named : ∀ c ∈ tail, isNameChar c) (short : tail.length < maxLength) :
    IsName (withTail chars tail) := by
  rw [with_tail_eq chars tail (Nat.le_of_lt short)]
  obtain ⟨room, positive⟩ := Nat.exists_eq_add_of_lt short
  have kept : maxLength - tail.length = room + 1 := by omega
  rw [kept]
  cases chars with
  | nil => cases name
  | cons first rest =>
      refine ⟨name.1, ?_⟩
      intro c member
      rcases List.mem_append.mp member with front | behind
      · exact name.2 c (List.mem_of_mem_take front)
      · exact named c behind

def candidate (token stem : String) : Nat → String
  | 0 => base token stem
  | index + 1 => numbered (base token stem) (index + 2)

def FirstFree (taken : List String) (candidates : Nat → String) (id : String) : Prop :=
  ∃ index, id = candidates index ∧ id ∉ taken ∧ ∀ earlier < index, candidates earlier ∈ taken

theorem first_free_same (taken others : List String) (candidates : Nat → String) (id : String)
    (same : ∀ other, other ∈ taken ↔ other ∈ others) (first : FirstFree taken candidates id) :
    FirstFree others candidates id := by
  obtain ⟨index, found, free, passed⟩ := first
  exact ⟨index, found, mt (same id).mpr free, fun earlier below =>
    (same _).mp (passed earlier below)⟩

theorem first_free_bound (taken : List String) (token stem id : String)
    (first : FirstFree taken (candidate token stem) id) :
    ∃ index ≤ taken.length + 1, id = candidate token stem index := by
  obtain ⟨index, found, _, passed⟩ := first
  refine ⟨index, ?_, found⟩
  let tried := (List.range (index - 1)).map fun earlier => candidate token stem (earlier + 1)
  have different : tried.Nodup := by
    refine List.nodup_range.map ?_
    intro one two same
    have numbers := numbered_injective _ _ _ same
    omega
  have inside : tried ⊆ taken := by
    intro other member
    obtain ⟨earlier, bound, rfl⟩ := List.mem_map.mp member
    have below := List.mem_range.mp bound
    exact passed (earlier + 1) (by omega)
  have count := (List.subperm_of_subset different inside).length_le
  simp only [tried, List.length_map, List.length_range] at count
  omega

theorem base_length (token stem : String) (short : token.length ≤ 40) :
    (base token stem).length ≤ maxLength := by
  rw [base, String.length_ofList]
  apply with_tail_length
  rw [List.length_cons, String.length_toList, maxLength]
  omega

theorem base_name (token stem : String) (short : token.length ≤ 40) (named : Named token) :
    IsName (base token stem).toList := by
  rw [base, String.toList_ofList]
  apply with_tail_name _ _ (Identifier.sanitized_name _)
  · intro c member
    rcases List.mem_cons.mp member with rfl | later
    · decide
    · exact named c later
  · rw [List.length_cons, String.length_toList, maxLength]
    omega

theorem candidate_name (token stem : String) (index : Nat) (short : token.length ≤ 40)
    (named : Named token) (few : index < 10 ^ 8) :
    IsName (candidate token stem index).toList ∧
      (candidate token stem index).length ≤ maxLength := by
  have name := base_name token stem short named
  cases index with
  | zero =>
      rw [candidate]
      exact ⟨name, base_length token stem short⟩
  | succ index =>
      have digits : (Nat.toDigits 10 (index + 2)).length ≤ 9 :=
        (Nat.length_toDigits_le_iff (by decide) (by decide)).mpr (by omega)
      have tail : ('_' :: Nat.toDigits 10 (index + 2)).length < maxLength := by
        rw [List.length_cons, maxLength]
        omega
      rw [candidate, numbered, String.toList_ofList, String.length_ofList]
      refine ⟨?_, with_tail_length _ _ (Nat.le_of_lt tail)⟩
      refine with_tail_name _ _ name ?_ tail
      intro c member
      rcases List.mem_cons.mp member with rfl | later
      · decide
      · exact Identifier.hex_named c (Identifier.digits_hex _ c later)

-- The search for a number as a loop that has no bound of its own.
inductive Search (used : List String) (base : String) : Nat → Nat → Prop where
  | found (count : Nat) (free : numbered base (count + 1) ∉ used) :
      Search used base count (count + 1)
  | next (count number : Nat) (taken : numbered base (count + 1) ∈ used)
      (rest : Search used base (count + 1) number) : Search used base count number

theorem search_reaches (used : List String) (base : String) (number : Nat)
    (free : numbered base number ∉ used) (steps count : Nat) (last : count + steps + 1 = number)
    (passed : ∀ tried, count < tried → tried < number → numbered base tried ∈ used) :
    Search used base count number := by
  induction steps generalizing count with
  | zero =>
      subst last
      exact .found count free
  | succ steps ih =>
      refine .next count number (passed (count + 1) (by omega) (by omega)) ?_
      exact ih (count + 1) (by omega) fun tried above below => passed tried (by omega) below

theorem search_passed (used : List String) (base : String) (count number : Nat)
    (search : Search used base count number) :
    count < number ∧ ∀ tried, count < tried → tried < number → numbered base tried ∈ used := by
  induction search with
  | found count _ => exact ⟨Nat.lt_succ_self count, fun tried above below => by omega⟩
  | next count number taken _ ih =>
      obtain ⟨later, passed⟩ := ih
      refine ⟨by omega, ?_⟩
      intro tried above below
      by_cases first : tried = count + 1
      · rw [first]
        exact taken
      · exact passed tried (by omega) below

-- The number that was tried last for an id; one stands for the plain id.
def lastTried (ids : Allocator) (base : String) : Nat :=
  (Table.get? base ids.counters).getD 1

inductive Allocates (ids : Allocator) (stem : String) : String × Allocator → Prop where
  | plain (free : base ids.token stem ∉ ids.used) :
      Allocates ids stem
        (base ids.token stem, { ids with used := base ids.token stem :: ids.used })
  | numbered (number : Nat) (taken : base ids.token stem ∈ ids.used)
      (search : Search ids.used (base ids.token stem) (ids.lastTried (base ids.token stem)) number) :
      Allocates ids stem (numbered (base ids.token stem) number, { ids with
        used := numbered (base ids.token stem) number :: ids.used
        counters := Table.put (base ids.token stem) number ids.counters })

theorem allocate_ends (ids : Allocator) (stem : String) :
    Allocates ids stem (ids.allocate stem) := by
  have fresh := allocate_fresh ids stem
  by_cases taken : base ids.token stem ∈ ids.used
  · obtain ⟨number, chosen, later, passed⟩ := next_free_numbered ids.used (base ids.token stem)
      ids.used.length (ids.lastTried (base ids.token stem))
    rw [lastTried] at chosen
    rw [allocate] at fresh ⊢
    simp only [if_pos taken, chosen] at fresh ⊢
    obtain ⟨steps, last⟩ := Nat.exists_eq_add_of_lt later
    exact .numbered number taken (search_reaches _ _ number fresh steps _ last.symm passed)
  · rw [allocate]
    simp only [if_neg taken]
    exact .plain taken

-- All numbers up to the one tried last are used.
structure Counted (ids : Allocator) (base : String) : Prop where
  positive : 1 ≤ ids.lastTried base
  used : ∀ number, 2 ≤ number → number ≤ ids.lastTried base → numbered base number ∈ ids.used

theorem allocate_first_free (ids : Allocator) (stem : String)
    (counted : Counted ids (base ids.token stem)) :
    FirstFree ids.used (candidate ids.token stem) (ids.allocate stem).1 := by
  have fresh := allocate_fresh ids stem
  have ends := allocate_ends ids stem
  generalize ids.allocate stem = result at fresh ends ⊢
  cases ends with
  | plain free => exact ⟨0, rfl, free, fun earlier below => absurd below (Nat.not_lt_zero earlier)⟩
  | numbered number taken search =>
      obtain ⟨later, passed⟩ := search_passed _ _ _ _ search
      have positive := counted.positive
      obtain ⟨index, rfl⟩ : ∃ index, number = index + 2 := ⟨number - 2, by omega⟩
      refine ⟨index + 1, rfl, fresh, ?_⟩
      intro earlier below
      cases earlier with
      | zero => exact taken
      | succ earlier =>
          -- A number up to the last one tried is used already; the others the search passed over.
          by_cases old : earlier + 2 ≤ ids.lastTried (base ids.token stem)
          · exact counted.used _ (by omega) old
          · exact passed _ (by omega) (by omega)

theorem counted_wider (ids later : Allocator) (base : String) (counted : Counted ids base)
    (tried : later.lastTried base = ids.lastTried base) (wider : ids.used ⊆ later.used) :
    Counted later base := by
  constructor
  · rw [tried]
    exact counted.positive
  · intro number above below
    exact wider (counted.used number above (tried ▸ below))

theorem allocate_counted (ids : Allocator) (stem : String)
    (counted : ∀ base, Counted ids base) (other : String) :
    Counted (ids.allocate stem).2 other := by
  have ends := allocate_ends ids stem
  generalize ids.allocate stem = result at ends ⊢
  cases ends with
  | plain free => exact counted_wider ids _ other (counted other) rfl (List.subset_cons_self _ _)
  | numbered number taken search =>
      obtain ⟨later, passed⟩ := search_passed _ _ _ _ search
      by_cases same : base ids.token stem = other
      · subst same
        have tried : lastTried { ids with
            used := numbered (base ids.token stem) number :: ids.used
            counters := Table.put (base ids.token stem) number ids.counters }
            (base ids.token stem) = number := by
          rw [lastTried, Table.get?_put, if_pos rfl, Option.getD_some]
        have positive := (counted (base ids.token stem)).positive
        constructor
        · rw [tried]
          omega
        · intro earlier above below
          rw [tried] at below
          by_cases last : earlier = number
          · rw [last]
            exact List.mem_cons_self
          · by_cases old : earlier ≤ ids.lastTried (base ids.token stem)
            · exact List.mem_cons_of_mem _ ((counted _).used earlier above old)
            · exact List.mem_cons_of_mem _ (passed earlier (by omega) (by omega))
      · refine counted_wider ids _ other (counted other) ?_ (List.subset_cons_self _ _)
        rw [lastTried, Table.get?_put, if_neg same, lastTried]

abbrev Event := Operation × Answer

def Event.takes? : Event → Option String
  | (.allocate _, .id value) => some value
  | (.reserve id, _) => some id
  | _ => none

def taken (events : List Event) : List String :=
  events.filterMap Event.takes?

def history (ids : Allocator) (operations : List Operation) : List Event :=
  operations.zip (ids.run operations).1

inductive Answered (token : String) (taken : List String) : Operation → Answer → Prop where
  | allocated (stem id : String) (first : FirstFree taken (candidate token stem) id) :
      Answered token taken (.allocate stem) (.id id)
  | reserved (id : String) : Answered token taken (.reserve id) .done
  | sought (id : String) (found : Bool) (right : found = true ↔ id ∈ taken) :
      Answered token taken (.contains id) (.found found)

-- What an allocator keeps of the events so far.
structure Accounted (token : String) (events : List Event) (ids : Allocator) : Prop where
  token : ids.token = token
  used : ∀ id, id ∈ ids.used ↔ id ∈ taken events
  counted : ∀ base, Counted ids base

theorem start_accounted (token : String) : Accounted token [] { token } := by
  refine ⟨rfl, fun _ => Iff.rfl, fun base => ⟨Nat.le_refl 1, ?_⟩⟩
  intro number above below
  have last : lastTried { token } base = 1 := rfl
  rw [last] at below
  omega

theorem taken_append (events : List Event) (event : Event) (id : String) :
    id ∈ taken (events ++ [event]) ↔ id ∈ taken events ∨ event.takes? = some id := by
  rw [taken, List.filterMap_append, List.mem_append, List.mem_filterMap (l := [event])]
  simp [taken]

theorem taken_length (events : List Event) : (taken events).length ≤ events.length :=
  List.length_filterMap_le _ _

section Step

variable (token : String) (events : List Event) (ids : Allocator)
  (accounted : Accounted token events ids)

include accounted

theorem answer_right (operation : Operation) :
    Answered token (taken events) operation (ids.answer operation).1 := by
  cases operation with
  | allocate stem =>
      have first := allocate_first_free ids stem (accounted.counted _)
      rw [accounted.token] at first
      exact .allocated stem _ (first_free_same _ _ _ _ accounted.used first)
  | reserve id => exact .reserved id
  | contains id =>
      refine .sought id _ ?_
      rw [contains, decide_eq_true_iff]
      exact accounted.used id

theorem answer_accounted (operation : Operation) :
    Accounted token (events ++ [(operation, (ids.answer operation).1)])
      (ids.answer operation).2 := by
  cases operation with
  | allocate stem =>
      refine ⟨(allocate_token ids stem).trans accounted.token, ?_,
        allocate_counted ids stem accounted.counted⟩
      intro id
      have used := allocate_used ids stem
      rw [taken_append, ← accounted.used id]
      change id ∈ (ids.allocate stem).2.used ↔ _ ∨ some (ids.allocate stem).1 = some id
      rw [used, List.mem_cons, Option.some.injEq, or_comm, eq_comm]
  | reserve id =>
      refine ⟨accounted.token, ?_, ?_⟩
      · intro other
        rw [taken_append, ← accounted.used other]
        change other ∈ id :: ids.used ↔ _ ∨ some id = some other
        rw [List.mem_cons, Option.some.injEq, or_comm, eq_comm]
      · intro base
        exact counted_wider ids _ base (accounted.counted base) rfl (List.subset_cons_self _ _)
  | contains id =>
      refine ⟨accounted.token, ?_, accounted.counted⟩
      intro other
      rw [taken_append, ← accounted.used other]
      exact ⟨.inl, fun known => known.resolve_right fun none => (nomatch none)⟩

end Step

theorem run_length (ids : Allocator) (operations : List Operation) :
    (ids.run operations).1.length = operations.length := by
  induction operations generalizing ids with
  | nil => rfl
  | cons operation rest ih => exact congrArg Nat.succ (ih _)

theorem run_right (token : String) (operations : List Operation) (events : List Event)
    (ids : Allocator) (accounted : Accounted token events ids) (before after : List Event)
    (operation : Operation) (answer : Answer)
    (split : history ids operations = before ++ (operation, answer) :: after) :
    Answered token (taken (events ++ before)) operation answer := by
  induction operations generalizing ids events before with
  | nil => exact absurd (congrArg List.length split) (by simp [history])
  | cons first rest ih =>
      have unfolded : history ids (first :: rest) =
          (first, (ids.answer first).1) :: history (ids.answer first).2 rest := rfl
      rw [unfolded] at split
      cases before with
      | nil =>
          obtain ⟨same, _⟩ := List.cons.inj split
          obtain ⟨rfl, rfl⟩ := Prod.mk.inj same
          rw [List.append_nil]
          exact answer_right token events ids accounted first
      | cons event before =>
          obtain ⟨rfl, others⟩ := List.cons.inj split
          have next := ih _ _ (answer_accounted token events ids accounted first) before others
          rwa [List.append_assoc, List.singleton_append] at next

theorem history_right (token : String) (operations : List Operation) (before after : List Event)
    (operation : Operation) (answer : Answer)
    (split : history { token } operations = before ++ (operation, answer) :: after) :
    Answered token (taken before) operation answer :=
  run_right token operations [] { token } (start_accounted token) before after operation answer split

theorem history_candidate (token : String) (operations : List Operation) (stem id : String)
    (member : (.allocate stem, .id id) ∈ history { token } operations) :
    ∃ index ≤ operations.length, id = candidate token stem index := by
  obtain ⟨before, after, split⟩ := List.append_of_mem member
  have right := history_right token operations before after _ _ split
  have total := congrArg List.length split
  rw [history, List.length_zip, run_length, Nat.min_self, List.length_append,
    List.length_cons] at total
  cases right with
  | allocated _ _ first =>
      obtain ⟨index, bound, found⟩ := first_free_bound (taken before) token stem id first
      have few := taken_length before
      exact ⟨index, by omega, found⟩

/-- Every id that an allocator hands out is new to all it has handed out or reserved: the first of the
candidates of its stem that was free, although the search goes on from the number tried last. -/
theorem histories_fresh_and_named (token : String) (short : token.length ≤ 40)
    (named : Named token) (operations : List Operation) (few : operations.length < 10 ^ 8) :
    (∀ ids stem, Allocates ids stem (ids.allocate stem)) ∧
      (run { token } operations).1.length = operations.length ∧
      ∀ before operation answer after,
        history { token } operations = before ++ (operation, answer) :: after →
          Answered token (taken before) operation answer ∧
            ∀ id, answer = .id id → IsName id.toList ∧ id.length ≤ maxLength := by
  refine ⟨allocate_ends, run_length _ _, ?_⟩
  intro before operation answer after split
  have right := history_right token operations before after operation answer split
  refine ⟨right, ?_⟩
  rintro id rfl
  cases right with
  | allocated stem _ first =>
      have member : (Operation.allocate stem, Answer.id id) ∈ history { token } operations := by
        rw [split]
        exact List.mem_append_right _ List.mem_cons_self
      obtain ⟨index, bound, rfl⟩ := history_candidate token operations stem id member
      exact candidate_name token stem index short named (by omega)

/-- The second id of the stem is reserved, so that its second allocation gets the third. -/
def crowdedOperations : List Operation :=
  [.reserve "a_t_2", .allocate "a", .allocate "a", .contains "a_t_3"]

theorem crowded_history_fresh :
    "t".length ≤ 40 ∧ Named "t" ∧ crowdedOperations.length < 10 ^ 8 ∧
      Answered "t" ["a_t_2", "a_t"] (.allocate "a") (.id "a_t_3") ∧
      IsName "a_t_3".toList ∧ "a_t_3".length ≤ maxLength := by
  have short : "t".length ≤ 40 := by decide
  have named : Named "t" := List.all_eq_true.mp (by decide)
  have few : crowdedOperations.length < 10 ^ 8 := by decide
  obtain ⟨_, _, answered⟩ := histories_fresh_and_named "t" short named crowdedOperations few
  have split : history { token := "t" } crowdedOperations =
      [(.reserve "a_t_2", .done), (.allocate "a", .id "a_t")] ++
        (.allocate "a", .id "a_t_3") :: [(.contains "a_t_3", .found true)] := by rfl
  obtain ⟨right, shape⟩ := answered _ _ _ _ split
  exact ⟨short, named, few, right, shape _ rfl⟩

end Allocator

end ProcessDiagram
