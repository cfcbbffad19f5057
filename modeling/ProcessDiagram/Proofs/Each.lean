import Mathlib.Data.List.Forall2

set_option autoImplicit false

namespace ProcessDiagram.Each

variable {Source Target Other Failure : Type}

theorem ok_exists (result : Except Failure Source) (passes : result.isOk = true) :
    ∃ source, result = .ok source := by
  cases result with
  | error failure => cases passes
  | ok source => exact ⟨source, rfl⟩

theorem bind_ok (first : Except Failure Source) (next : Source → Except Failure Target)
    (target : Target) (run : (first >>= next) = .ok target) :
    ∃ source, first = .ok source ∧ next source = .ok target := by
  cases first with
  | error failure => cases run
  | ok source => exact ⟨source, rfl, run⟩

theorem bind_error (first : Except Failure Source) (next : Source → Except Failure Target)
    (failure : Failure) :
    (first >>= next) = .error failure ↔
      first = .error failure ∨ ∃ source, first = .ok source ∧ next source = .error failure := by
  cases first with
  | error other =>
      change Except.error other = _ ↔ _
      simp
  | ok source =>
      change next source = _ ↔ _
      simp

theorem renamed_ok (rename : Failure → Other) (result : Except Failure Source) (source : Source) :
    result.mapError rename = .ok source ↔ result = .ok source := by
  cases result with
  | error failure => simp [Except.mapError]
  | ok other => simp [Except.mapError]

theorem renamed_error (rename : Failure → Other) (result : Except Failure Source) (other : Other) :
    result.mapError rename = .error other ↔
      ∃ failure, result = .error failure ∧ rename failure = other := by
  cases result with
  | error failure => simp [Except.mapError]
  | ok source => simp [Except.mapError]

theorem mapped_error (change : Source → Target) (result : Except Failure Source)
    (failure : Failure) : result.map change = .error failure ↔ result = .error failure := by
  cases result with
  | error other => simp [Except.map]
  | ok source => simp [Except.map]

theorem all_ok (step : Source → Except Failure Target) (sources : List Source)
    (targets : List Target) :
    sources.mapM step = .ok targets ↔
      List.Forall₂ (fun source target => step source = .ok target) sources targets := by
  constructor
  · intro run
    induction sources generalizing targets with
    | nil =>
        cases run
        exact .nil
    | cons source rest ih =>
        rw [List.mapM_cons] at run
        obtain ⟨target, one, run⟩ := bind_ok _ _ _ run
        obtain ⟨later, others, run⟩ := bind_ok _ _ _ run
        cases run
        exact .cons one (ih later others)
  · intro each
    induction each with
    | nil => rfl
    | cons one _ ih =>
        rw [List.mapM_cons, one, ih]
        rfl

theorem all_found (step : Source → Except Failure Target) (sources : List Source)
    (fits : Source → Target → Prop)
    (each : ∀ source ∈ sources, ∃ target, step source = .ok target ∧ fits source target) :
    ∃ targets, sources.mapM step = .ok targets ∧ List.Forall₂ fits sources targets := by
  induction sources with
  | nil => exact ⟨[], rfl, .nil⟩
  | cons source rest ih =>
      obtain ⟨target, first, good⟩ := each source List.mem_cons_self
      obtain ⟨targets, others, goods⟩ := ih fun other member =>
        each other (List.mem_cons_of_mem _ member)
      refine ⟨target :: targets, ?_, .cons good goods⟩
      rw [List.mapM_cons, first, others]
      rfl

theorem all_some (step : Source → Option Target) (sources : List Source) (targets : List Target)
    (each : List.Forall₂ (fun source target => step source = some target) sources targets) :
    sources.mapM step = some targets := by
  induction each with
  | nil => rfl
  | cons one _ ih =>
      rw [List.mapM_cons, one, ih]
      rfl

theorem map_some (read : Source → Option Target) (write : Other → Source) (shown : Other → Target)
    (others : List Other) (back : ∀ other ∈ others, read (write other) = some (shown other)) :
    (others.map write).mapM read = some (others.map shown) := by
  apply all_some
  rw [List.forall₂_map_left_iff, List.forall₂_map_right_iff, List.forall₂_same]
  exact back

theorem map_same (read : Source → Other) (shown : Target → Other) (sources : List Source)
    (targets : List Target)
    (each : List.Forall₂ (fun source target => shown target = read source) sources targets) :
    targets.map shown = sources.map read := by
  induction each with
  | nil => rfl
  | cons one _ ih => rw [List.map_cons, List.map_cons, one, ih]

theorem partner (fits : Source → Target → Prop) (sources : List Source) (targets : List Target)
    (each : List.Forall₂ fits sources targets) (target : Target) (member : target ∈ targets) :
    ∃ source, (source, target) ∈ sources.zip targets := by
  induction each with
  | nil => cases member
  | @cons source other _ _ _ _ ih =>
      cases List.mem_cons.mp member with
      | inl same =>
          rw [same]
          exact ⟨source, List.mem_cons_self⟩
      | inr later =>
          obtain ⟨found, paired⟩ := ih later
          exact ⟨found, List.mem_cons_of_mem _ paired⟩

theorem all_checked (check : Source → Except Failure Unit) (sources : List Source) :
    sources.forM check = .ok () ↔ ∀ source ∈ sources, check source = .ok () := by
  induction sources with
  | nil => exact ⟨fun _ _ member => (nomatch member), fun _ => rfl⟩
  | cons source rest ih =>
      rw [List.forall_mem_cons, ← ih]
      change (check source >>= fun _ => rest.forM check) = _ ↔ _
      cases check source with
      | error failure => exact ⟨fun same => (nomatch same), fun both => (nomatch both.1)⟩
      | ok done => exact ⟨fun passed => ⟨rfl, passed⟩, fun both => both.2⟩

-- An entry for which something does not hold, with its place, and no such entry before it.
structure First (good : Source → Prop) (sources : List Source) (index : Nat) (source : Source) :
    Prop where
  found : sources[index]? = some source
  bad : ¬ good source
  before : ∀ earlier < index, ∀ other, sources[earlier]? = some other → good other

theorem First.member (good : Source → Prop) (sources : List Source) (index : Nat) (source : Source)
    (first : First good sources index source) : source ∈ sources :=
  List.mem_of_getElem? first.found

theorem first_cons (good : Source → Prop) (source other : Source) (rest : List Source)
    (index : Nat) :
    First good (source :: rest) index other ↔
      (index = 0 ∧ other = source ∧ ¬ good source) ∨
        ∃ later, index = later + 1 ∧ good source ∧ First good rest later other := by
  constructor
  · rintro ⟨found, bad, before⟩
    cases index with
    | zero =>
        cases found
        exact .inl ⟨rfl, rfl, bad⟩
    | succ later =>
        refine .inr ⟨later, rfl, before 0 (Nat.succ_pos _) source rfl, found, bad, ?_⟩
        exact fun earlier less => before (earlier + 1) (Nat.succ_lt_succ less)
  · rintro (⟨rfl, rfl, bad⟩ | ⟨later, rfl, held, found, bad, before⟩)
    · exact ⟨rfl, bad, fun _ none => absurd none (Nat.not_lt_zero _)⟩
    · refine ⟨found, bad, ?_⟩
      intro earlier less one there
      cases earlier with
      | zero =>
          cases there
          exact held
      | succ earlier => exact before earlier (Nat.lt_of_succ_lt_succ less) one there

theorem first_exists (good : Source → Prop) (sources : List Source) :
    (∃ index source, First good sources index source) ↔ ∃ source ∈ sources, ¬ good source := by
  constructor
  · rintro ⟨index, source, first⟩
    exact ⟨source, first.member, first.bad⟩
  · induction sources with
    | nil =>
        rintro ⟨_, none, _⟩
        cases none
    | cons source rest ih =>
        rintro ⟨other, member, bad⟩
        by_cases held : good source
        · have later : other ∈ rest := by
            cases List.mem_cons.mp member with
            | inl same => exact absurd held (same ▸ bad)
            | inr later => exact later
          obtain ⟨index, found, first⟩ := ih ⟨other, later, bad⟩
          exact ⟨index + 1, found, (first_cons ..).mpr (.inr ⟨index, rfl, held, first⟩)⟩
        · exact ⟨0, source, (first_cons ..).mpr (.inl ⟨rfl, rfl, held⟩)⟩

theorem first_map (good : Target → Prop) (change : Source → Target) (sources : List Source)
    (index : Nat) (target : Target) :
    First good (sources.map change) index target ↔
      ∃ source, First (fun other => good (change other)) sources index source ∧
        change source = target := by
  constructor
  · rintro ⟨found, bad, before⟩
    rw [List.getElem?_map, Option.map_eq_some_iff] at found
    obtain ⟨source, there, rfl⟩ := found
    refine ⟨source, ⟨there, bad, ?_⟩, rfl⟩
    intro earlier less other found
    exact before earlier less (change other) (by rw [List.getElem?_map, found, Option.map_some])
  · rintro ⟨source, ⟨found, bad, before⟩, rfl⟩
    refine ⟨by rw [List.getElem?_map, found, Option.map_some], bad, ?_⟩
    intro earlier less other there
    rw [List.getElem?_map, Option.map_eq_some_iff] at there
    obtain ⟨one, found, rfl⟩ := there
    exact before earlier less one found

theorem first_congr (good fine : Source → Prop) (sources : List Source) (index : Nat)
    (source : Source) (same : ∀ other ∈ sources, good other ↔ fine other)
    (first : First good sources index source) : First fine sources index source where
  found := first.found
  bad := fun held => first.bad ((same source first.member).mpr held)
  before := fun earlier less other there =>
    (same other (List.mem_of_getElem? there)).mp (first.before earlier less other there)

theorem first_place (good : Source × Nat → Prop) (sources : List Source) (index : Nat)
    (entry : Source × Nat) (first : First good sources.zipIdx index entry) : entry.2 = index := by
  have found := first.found
  rw [List.getElem?_zipIdx, Option.map_eq_some_iff] at found
  obtain ⟨source, _, rfl⟩ := found
  exact Nat.zero_add index

theorem cons_error (step : Source → Except Failure Target) (source : Source) (rest : List Source)
    (failure : Failure) :
    (source :: rest).mapM step = .error failure ↔
      step source = .error failure ∨
        (∃ target, step source = .ok target) ∧ rest.mapM step = .error failure := by
  rw [List.mapM_cons, bind_error]
  apply or_congr_right
  constructor
  · rintro ⟨target, passed, failed⟩
    rcases (bind_error _ _ _).mp failed with later | ⟨_, _, done⟩
    · exact ⟨⟨target, passed⟩, later⟩
    · cases done
  · rintro ⟨⟨target, passed⟩, later⟩
    exact ⟨target, passed, (bind_error _ _ _).mpr (.inl later)⟩

theorem first_error (step : Source → Except Failure Target) (sources : List Source)
    (failure : Failure) :
    sources.mapM step = .error failure ↔
      ∃ index source, First (fun other => ∃ target, step other = .ok target) sources index source ∧
        step source = .error failure := by
  induction sources with
  | nil =>
      constructor
      · intro run
        cases run
      · rintro ⟨_, _, first, _⟩
        cases first.found
  | cons source rest ih =>
      rw [cons_error, ih]
      constructor
      · rintro (failed | ⟨held, index, other, first, failed⟩)
        · have bad : ¬ ∃ target, step source = .ok target := by simp [failed]
          exact ⟨0, source, (first_cons ..).mpr (.inl ⟨rfl, rfl, bad⟩), failed⟩
        · exact ⟨index + 1, other, (first_cons ..).mpr (.inr ⟨index, rfl, held, first⟩), failed⟩
      · rintro ⟨index, other, first, failed⟩
        rcases (first_cons ..).mp first with ⟨_, rfl, _⟩ | ⟨later, _, held, behind⟩
        · exact .inl failed
        · exact .inr ⟨held, later, other, behind, failed⟩

theorem all_succeed (step : Source → Except Failure Target) (sources : List Source) :
    (∃ targets, sources.mapM step = .ok targets) ↔
      ∀ source ∈ sources, ∃ target, step source = .ok target := by
  have stuck := first_exists (fun other => ∃ target, step other = .ok target) sources
  cases run : sources.mapM step with
  | error failure =>
      obtain ⟨index, source, first, _⟩ := (first_error step sources failure).mp run
      obtain ⟨other, member, bad⟩ := stuck.mp ⟨index, source, first⟩
      exact ⟨nofun, fun each => absurd (each other member) bad⟩
  | ok targets =>
      refine ⟨fun _ => ?_, fun _ => ⟨targets, rfl⟩⟩
      by_contra lacking
      push Not at lacking
      obtain ⟨source, member, bad⟩ := lacking
      obtain ⟨index, other, first⟩ := stuck.mpr ⟨source, member, by simpa using bad⟩
      cases failed : step other with
      | error failure =>
          rw [(first_error step sources failure).mpr ⟨index, other, first, failed⟩] at run
          cases run
      | ok target => exact first.bad ⟨target, failed⟩

variable [BEq Source] [LawfulBEq Source]

theorem once_distinct (sources : List Source) : sources.eraseDups.Nodup := by
  induction size : sources.length using Nat.strongRecOn generalizing sources with
  | _ size ih =>
      cases sources with
      | nil => exact List.Pairwise.nil
      | cons first rest =>
          rw [List.eraseDups_cons, List.nodup_cons]
          constructor
          · simp
          · have shorter := List.length_filter_le (fun other => !other == first) rest
            rw [List.length_cons] at size
            exact ih _ (by omega) _ rfl

theorem once_before (before after : List Source) (first second : Source) (one : first ∈ before)
    (two : second ∉ before) :
    (before ++ after).eraseDups.idxOf first < (before ++ after).eraseDups.idxOf second := by
  have kept : first ∈ before.eraseDups := List.mem_eraseDups.mpr one
  have lacking : second ∉ before.eraseDups := fun member => two (List.mem_eraseDups.mp member)
  rw [List.eraseDups_append, List.idxOf_append_of_mem kept, List.idxOf_append_of_notMem lacking]
  exact Nat.lt_add_right _ (List.idxOf_lt_length_of_mem kept)

end ProcessDiagram.Each
