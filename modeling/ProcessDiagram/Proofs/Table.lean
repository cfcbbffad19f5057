import Mathlib.Data.List.Nodup
import ProcessDiagram.Table

set_option autoImplicit false

namespace ProcessDiagram.Table

variable {Key Value : Type}

@[simp] theorem keys_nil : keys ([] : Table Key Value) = [] := rfl

@[simp] theorem keys_cons (pair : Key × Value) (rest : Table Key Value) :
    keys (pair :: rest) = pair.1 :: keys rest := rfl

theorem mem_keys (key : Key) (table : Table Key Value) :
    key ∈ keys table ↔ ∃ value, (key, value) ∈ table := by
  simp [keys]

variable [DecidableEq Key]

theorem get_mem (key : Key) (value : Value) (table : Table Key Value)
    (found : get? key table = some value) : (key, value) ∈ table := by
  induction table with
  | nil => simp [get?] at found
  | cons pair rest ih =>
      obtain ⟨other, old⟩ := pair
      by_cases same : other = key
      · subst same
        simp only [get?, if_true, Option.some.injEq] at found
        subst found
        exact List.mem_cons_self
      · rw [get?, if_neg same] at found
        exact List.mem_cons_of_mem _ (ih found)

theorem get_is_some (key : Key) (table : Table Key Value) :
    (get? key table).isSome ↔ key ∈ keys table := by
  induction table with
  | nil => simp [get?]
  | cons pair rest ih =>
      obtain ⟨other, old⟩ := pair
      by_cases same : other = key
      · simp [get?, same]
      · have apart : ¬ key = other := fun equal => same equal.symm
        simp [get?, same, apart, ih]

theorem get_exists (key : Key) (table : Table Key Value) (known : key ∈ keys table) :
    ∃ value, get? key table = some value :=
  Option.isSome_iff_exists.mp ((get_is_some key table).mpr known)

theorem get_of_mem (key : Key) (value : Value) (table : Table Key Value)
    (distinct : (keys table).Nodup) (member : (key, value) ∈ table) :
    get? key table = some value := by
  induction table with
  | nil => simp at member
  | cons pair rest ih =>
      obtain ⟨other, old⟩ := pair
      rw [keys_cons, List.nodup_cons] at distinct
      rcases List.mem_cons.mp member with same | later
      · cases same
        simp [get?]
      · have known : key ∈ keys rest := (mem_keys key rest).mpr ⟨value, later⟩
        have apart : other ≠ key := fun equal => distinct.1 (equal ▸ known)
        rw [get?, if_neg apart]
        exact ih distinct.2 later

theorem keys_put (key : Key) (value : Value) (table : Table Key Value) :
    keys (put key value table) = if key ∈ keys table then keys table else keys table ++ [key] := by
  induction table with
  | nil => simp [put, keys]
  | cons pair rest ih =>
      obtain ⟨other, old⟩ := pair
      by_cases same : other = key
      · simp [put, same]
      · have apart : ¬ key = other := fun equal => same equal.symm
        by_cases known : key ∈ keys rest <;> simp [put, same, apart, ih, known]

theorem mem_keys_put (key other : Key) (value : Value) (table : Table Key Value) :
    other ∈ keys (put key value table) ↔ other = key ∨ other ∈ keys table := by
  rw [keys_put]
  by_cases known : key ∈ keys table
  · rw [if_pos known]
    constructor
    · exact Or.inr
    · rintro (rfl | later)
      · exact known
      · exact later
  · simp [known, or_comm]

theorem put_distinct (key : Key) (value : Value) (table : Table Key Value)
    (distinct : (keys table).Nodup) : (keys (put key value table)).Nodup := by
  rw [keys_put]
  by_cases known : key ∈ keys table
  · rwa [if_pos known]
  · rw [if_neg known, List.nodup_append]
    refine ⟨distinct, List.nodup_singleton key, ?_⟩
    intro other member last single
    rw [List.mem_singleton.mp single]
    exact fun same => known (same ▸ member)

theorem put_fresh (key : Key) (value : Value) (table : Table Key Value)
    (fresh : key ∉ keys table) : put key value table = table ++ [(key, value)] := by
  induction table with
  | nil => rfl
  | cons pair rest ih =>
      obtain ⟨other, old⟩ := pair
      rw [keys_cons, List.mem_cons, not_or] at fresh
      have apart : ¬ other = key := fun equal => fresh.1 equal.symm
      rw [put, if_neg apart, ih fresh.2, List.cons_append]

theorem mem_put (key : Key) (value : Value) (table : Table Key Value) (entry : Key × Value)
    (member : entry ∈ put key value table) : entry.2 = value ∨ entry ∈ table := by
  induction table with
  | nil => exact .inl (congrArg Prod.snd (List.mem_singleton.mp member))
  | cons pair rest ih =>
      obtain ⟨other, old⟩ := pair
      by_cases same : other = key
      · rw [put, if_pos same] at member
        cases List.mem_cons.mp member with
        | inl first => exact .inl (congrArg Prod.snd first)
        | inr later => exact .inr (List.mem_cons_of_mem _ later)
      · rw [put, if_neg same] at member
        cases List.mem_cons.mp member with
        | inl first => exact .inr (List.mem_cons.mpr (.inl first))
        | inr later => exact (ih later).imp_right (List.mem_cons_of_mem _)

theorem put_all_fresh (pairs : List (Key × Value)) (table : Table Key Value)
    (distinct : (keys (table ++ pairs)).Nodup) :
    pairs.foldl (fun table pair => put pair.1 pair.2 table) table = table ++ pairs := by
  induction pairs generalizing table with
  | nil => simp
  | cons pair rest ih =>
      have apart : keys (table ++ pair :: rest) = keys table ++ pair.1 :: keys rest := by simp [keys]
      have fresh : pair.1 ∉ keys table := by
        rw [apart, List.nodup_append] at distinct
        exact fun member => distinct.2.2 pair.1 member pair.1 List.mem_cons_self rfl
      rw [List.foldl_cons, put_fresh pair.1 pair.2 table fresh, ih]
      · simp
      · simpa using distinct

theorem of_list_distinct (pairs : List (Key × Value)) (distinct : (keys pairs).Nodup) :
    ofList pairs = pairs := by
  rw [ofList, put_all_fresh pairs [] distinct, List.nil_append]

theorem keys_put_all (pairs : List (Key × Value)) (table : Table Key Value) (key : Key) :
    key ∈ keys (pairs.foldl (fun table pair => put pair.1 pair.2 table) table) ↔
      key ∈ keys table ∨ key ∈ keys pairs := by
  induction pairs generalizing table with
  | nil => simp
  | cons pair rest ih =>
      rw [List.foldl_cons, ih, mem_keys_put, keys_cons, List.mem_cons]
      tauto

theorem of_list_keys_distinct (pairs : List (Key × Value)) : (keys (ofList pairs)).Nodup := by
  suffices general : ∀ table : Table Key Value, (keys table).Nodup →
      (keys (pairs.foldl (fun table pair => put pair.1 pair.2 table) table)).Nodup from
    general [] List.nodup_nil
  induction pairs with
  | nil => exact fun _ distinct => distinct
  | cons first rest ih => exact fun table distinct => ih _ (put_distinct _ _ table distinct)

theorem values_put_all (good : Value → Prop) (pairs : List (Key × Value)) (table : Table Key Value)
    (fits : ∀ pair ∈ pairs, good pair.2) (old : ∀ entry ∈ table, good entry.2) :
    ∀ entry ∈ pairs.foldl (fun table pair => put pair.1 pair.2 table) table, good entry.2 := by
  induction pairs generalizing table with
  | nil => exact old
  | cons pair rest ih =>
      rw [List.forall_mem_cons] at fits
      apply ih _ fits.2
      intro entry member
      cases mem_put _ _ _ _ member with
      | inl fresh => exact fresh ▸ fits.1
      | inr known => exact old entry known

theorem values_of_list (good : Value → Prop) (pairs : List (Key × Value))
    (fits : ∀ pair ∈ pairs, good pair.2) : ∀ entry ∈ ofList pairs, good entry.2 :=
  values_put_all good pairs [] fits fun _ none => (nomatch none)

theorem mem_keys_of_list (pairs : List (Key × Value)) (key : Key) :
    key ∈ keys (ofList pairs) ↔ key ∈ keys pairs := by
  rw [ofList, keys_put_all]
  simp

section Entries

variable {Source : Type} (sources : List Source) (key : Source → Key) (value : Source → Value)

omit [DecidableEq Key] in
theorem keys_entries :
    keys (sources.map fun source => (key source, value source)) = sources.map key := by
  rw [keys, List.map_map]
  rfl

theorem entries_distinct (distinct : (sources.map key).Nodup) :
    ofList (sources.map fun source => (key source, value source)) =
      sources.map fun source => (key source, value source) := by
  apply of_list_distinct
  rw [keys_entries]
  exact distinct

theorem get_entry (distinct : (sources.map key).Nodup) (source : Source)
    (member : source ∈ sources) :
    get? (key source) (ofList (sources.map fun source => (key source, value source))) =
      some (value source) := by
  rw [entries_distinct sources key value distinct]
  apply get_of_mem
  · rw [keys_entries]
    exact distinct
  · exact List.mem_map.mpr ⟨source, member, rfl⟩

end Entries

section Changes

variable {Other : Type} (change : Value → Other)

theorem get_mapped (key : Key) (table : Table Key Value) :
    get? key (table.map fun entry => (entry.1, change entry.2)) = (get? key table).map change := by
  induction table with
  | nil => rfl
  | cons pair rest ih =>
      by_cases same : pair.1 = key
      · simp [get?, same]
      · simpa [get?, same] using ih

theorem put_mapped (key : Key) (value : Value) (table : Table Key Value) :
    (put key value table).map (fun entry => (entry.1, change entry.2)) =
      put key (change value) (table.map fun entry => (entry.1, change entry.2)) := by
  induction table with
  | nil => rfl
  | cons pair rest ih =>
      by_cases same : pair.1 = key
      · simp [put, same]
      · simpa [put, same] using ih

theorem of_list_mapped (pairs : List (Key × Value)) :
    (ofList pairs).map (fun entry => (entry.1, change entry.2)) =
      ofList (pairs.map fun pair => (pair.1, change pair.2)) := by
  suffices general : ∀ table : Table Key Value,
      (pairs.foldl (fun table pair => put pair.1 pair.2 table) table).map
          (fun entry => (entry.1, change entry.2)) =
        (pairs.map fun pair => (pair.1, change pair.2)).foldl
          (fun table pair => put pair.1 pair.2 table)
          (table.map fun entry => (entry.1, change entry.2)) from general []
  induction pairs with
  | nil => exact fun _ => rfl
  | cons pair rest ih =>
      intro table
      rw [List.foldl_cons, ih, put_mapped, List.map_cons, List.foldl_cons]

end Changes

theorem get_tally_from (texts : List Key) (table : Table Key Nat) (key : Key) :
    (get? key (texts.foldl (fun table key => put key ((get? key table).getD 0 + 1) table)
      table)).getD 0 = (get? key table).getD 0 + texts.count key := by
  induction texts generalizing table with
  | nil => simp
  | cons first rest ih =>
      rw [List.foldl_cons, ih, get?_put, List.count_cons]
      by_cases same : first = key
      · subst same
        simp only [if_true, Option.getD_some, beq_self_eq_true]
        omega
      · simp [same]

theorem get_tally (texts : List Key) (key : Key) :
    (get? key (tally texts)).getD 0 = texts.count key := by
  rw [tally, get_tally_from]
  simp [get?]

theorem tally_distinct (texts : List Key) : (keys (tally texts)).Nodup := by
  suffices general : ∀ table : Table Key Nat, (keys table).Nodup →
      (keys (texts.foldl (fun table key => put key ((get? key table).getD 0 + 1) table)
        table)).Nodup from general [] List.nodup_nil
  induction texts with
  | nil => exact fun _ distinct => distinct
  | cons first rest ih => exact fun table distinct => ih _ (put_distinct _ _ table distinct)

theorem mem_tally (texts : List Key) (key : Key) (count : Nat)
    (member : (key, count) ∈ tally texts) : count = texts.count key := by
  rw [← get_tally, get_of_mem key count _ (tally_distinct texts) member, Option.getD_some]

theorem tally_has (texts : List Key) (key : Key) (present : key ∈ texts) :
    (key, texts.count key) ∈ tally texts := by
  have positive := List.count_pos_iff.mpr present
  rw [← get_tally] at positive ⊢
  cases found : get? key (tally texts) with
  | none => simp [found] at positive
  | some count => exact get_mem key count _ found

end ProcessDiagram.Table
