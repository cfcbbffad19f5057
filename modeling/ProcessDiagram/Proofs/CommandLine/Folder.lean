import Mathlib.Tactic.SplitIfs
import ProcessDiagram.CommandLine.Folder
import ProcessDiagram.Proofs.Table

set_option autoImplicit false

namespace ProcessDiagram

def Place.IsOpen : Place → Prop
  | .file _ | .vacant => True
  | _ => False

namespace Folder

variable {folder : Folder} {done rest names : List String} {asDirectory : Bool}

def isOrdinary (name : String) : Bool :=
  name ≠ "." && name ≠ ".." && !isOverlong name

-- The walk along `rest` from the directory `done` ends at `names`, where a file can be written.
inductive Walk (folder : Folder) : List String → List String → List String → Prop where
  | stay (done rest names : List String) (next : Walk folder done rest names) :
      Walk folder done ("." :: rest) names
  | back (done rest names : List String) (inner : done ≠ [])
      (next : Walk folder done.dropLast rest names) : Walk folder done (".." :: rest) names
  | enter (done rest names : List String) (name : String) (ordinary : isOrdinary name)
      (noFile : Table.get? (done ++ [name]) folder.files = none)
      (directory : folder.isDirectory (done ++ [name]))
      (next : Walk folder (done ++ [name]) rest names) : Walk folder done (name :: rest) names
  | last (done : List String) (name : String) (ordinary : isOrdinary name)
      (free : (Table.get? (done ++ [name]) folder.files).isSome ∨
        folder.isDirectory (done ++ [name]) = false) :
      Walk folder done [name] (done ++ [name])

theorem steps_none (rest : List String) : rest.foldl step none = none := by
  induction rest with
  | nil => rfl
  | cons _ _ ih => exact ih

theorem file_at_open (content : Octets) (isOpen : (fileAt content asDirectory rest).IsOpen) :
    rest = [] ∧ asDirectory = false := by
  rw [fileAt] at isOpen
  split_ifs at isOpen with more ending
  · exact isOpen.elim
  · exact isOpen.elim
  · exact ⟨by simpa using more, by simpa using ending⟩

theorem vacancy_open (isOpen : (vacancy asDirectory rest).IsOpen) :
    rest = [] ∧ asDirectory = false := by
  rw [vacancy] at isOpen
  split_ifs at isOpen with more ending
  · exact isOpen.elim
  · exact isOpen.elim
  · exact ⟨by simpa using more, by simpa using ending⟩

section Ordinary

variable (name : String) (ordinary : isOrdinary name)

include ordinary

theorem ordinary_name : name ≠ "." ∧ name ≠ ".." ∧ isOverlong name = false := by
  simpa [isOrdinary, and_assoc] using ordinary

theorem step_ordinary (done : List String) : step (some done) name = some (done ++ [name]) := by
  obtain ⟨stays, backs, _⟩ := ordinary_name name ordinary
  rw [step, Option.bind_some, if_neg stays, if_neg backs]

theorem look_file (content : Octets)
    (file : Table.get? (done ++ [name]) folder.files = some content) :
    lookAlong folder asDirectory done (name :: rest) = fileAt content asDirectory rest := by
  obtain ⟨stays, backs, long⟩ := ordinary_name name ordinary
  simp [lookAlong, stays, backs, long, file]

theorem look_directory (noFile : Table.get? (done ++ [name]) folder.files = none)
    (directory : folder.isDirectory (done ++ [name]) = true) :
    lookAlong folder asDirectory done (name :: rest) =
      lookAlong folder asDirectory (done ++ [name]) rest := by
  obtain ⟨stays, backs, long⟩ := ordinary_name name ordinary
  simp [lookAlong, stays, backs, long, noFile, directory]

theorem look_nothing (noFile : Table.get? (done ++ [name]) folder.files = none)
    (noDirectory : folder.isDirectory (done ++ [name]) = false) :
    lookAlong folder asDirectory done (name :: rest) = vacancy asDirectory rest := by
  obtain ⟨stays, backs, long⟩ := ordinary_name name ordinary
  simp [lookAlong, stays, backs, long, noFile, noDirectory]

end Ordinary

theorem walk_of_look (steps : rest.foldl step (some done) = some names)
    (isOpen : (lookAlong folder asDirectory done rest).IsOpen) :
    asDirectory = false ∧ Walk folder done rest names := by
  induction rest generalizing done with
  | nil => exact isOpen.elim
  | cons name rest ih =>
      rw [List.foldl_cons] at steps
      by_cases stays : name = "."
      · subst stays
        obtain ⟨ending, next⟩ := ih steps isOpen
        exact ⟨ending, .stay done rest names next⟩
      by_cases backs : name = ".."
      · subst backs
        rw [lookAlong, if_neg stays, if_pos rfl] at isOpen
        rw [step, Option.bind_some, if_neg stays, if_pos rfl] at steps
        cases done with
        | nil =>
            rw [List.isEmpty_nil, if_pos rfl, steps_none] at steps
            cases steps
        | cons first others =>
            obtain ⟨ending, next⟩ := ih steps isOpen
            exact ⟨ending, .back _ rest names (List.cons_ne_nil _ _) next⟩
      by_cases long : isOverlong name
      · rw [lookAlong, if_neg stays, if_neg backs, if_pos long] at isOpen
        exact isOpen.elim
      have ordinary : isOrdinary name := by simp [isOrdinary, stays, backs, long]
      rw [step_ordinary name ordinary] at steps
      cases file : Table.get? (done ++ [name]) folder.files with
      | some content =>
          rw [look_file name ordinary content file] at isOpen
          obtain ⟨rfl, ending⟩ := file_at_open content isOpen
          cases Option.some.inj steps
          exact ⟨ending, .last done name ordinary (.inl (by rw [file]; rfl))⟩
      | none =>
          cases directory : folder.isDirectory (done ++ [name]) with
          | true =>
              rw [look_directory name ordinary file directory] at isOpen
              obtain ⟨ending, next⟩ := ih steps isOpen
              exact ⟨ending, .enter done rest names name ordinary file directory next⟩
          | false =>
              rw [look_nothing name ordinary file directory] at isOpen
              obtain ⟨rfl, ending⟩ := vacancy_open isOpen
              cases Option.some.inj steps
              exact ⟨ending, .last done name ordinary (.inr directory)⟩

theorem Walk.free (walk : Walk folder done rest names) :
    (Table.get? names folder.files).isSome ∨ folder.isDirectory names = false := by
  induction walk with
  | stay _ _ _ _ ih => exact ih
  | back _ _ _ _ _ ih => exact ih
  | enter _ _ _ _ _ _ _ _ ih => exact ih
  | last _ _ _ free => exact free

theorem directory_put (content : Octets) (place : List String)
    (directory : folder.isDirectory place) :
    isDirectory ⟨Table.put names content folder.files⟩ place := by
  simp only [isDirectory, Bool.or_eq_true, List.any_eq_true] at directory ⊢
  cases directory with
  | inl root => exact .inl root
  | inr below =>
      obtain ⟨entry, member, inside⟩ := below
      have known : entry.1 ∈ Table.keys folder.files := List.mem_map_of_mem member
      obtain ⟨kept, inPut⟩ := (Table.mem_keys entry.1 _).mp
        ((Table.mem_keys_put names entry.1 content folder.files).mpr (.inr known))
      exact .inr ⟨(entry.1, kept), inPut, inside⟩

theorem Walk.put (walk : Walk folder done rest names) (content : Octets) :
    lookAlong ⟨Table.put names content folder.files⟩ false done rest = .file content := by
  induction walk with
  | stay done rest names _ ih =>
      rw [lookAlong, if_pos rfl]
      exact ih
  | back done rest names inner _ ih =>
      have opens : done.isEmpty = false := by simpa using inner
      rw [lookAlong, if_neg (by decide), if_pos rfl, opens]
      exact ih
  | enter done rest names name ordinary noFile directory next ih =>
      -- Nothing is put at a directory that the walk goes through.
      have elsewhere : names ≠ done ++ [name] := by
        rintro rfl
        rcases next.free with file | missing
        · rw [noFile] at file
          cases file
        · rw [directory] at missing
          cases missing
      have missing : Table.get? (done ++ [name]) (Table.put names content folder.files) = none := by
        rw [Table.get?_put, if_neg elsewhere, noFile]
      rw [look_directory name ordinary missing (directory_put content _ directory)]
      exact ih
  | last done name ordinary _ =>
      have found : Table.get? (done ++ [name])
          (Table.put (done ++ [name]) content folder.files) = some content := by
        rw [Table.get?_put, if_pos rfl]
      rw [look_file name ordinary content found]
      rfl

theorem look_put (path : String) (content : Octets) (inside : namesOf? path = some names)
    (isOpen : (folder.look path).IsOpen) : (folder.put path content).look path = .file content := by
  have relative : isAbsolute path = false := by
    cases absolute : isAbsolute path with
    | false => rfl
    | true => simp [namesOf?, absolute] at inside
  have steps : (parts path).foldl step (some []) = some names := by
    simpa [namesOf?, relative] using inside
  simp only [look, relative, Bool.false_eq_true, if_false] at isOpen ⊢
  split_ifs at isOpen ⊢ with forbidden nothing long
  · exact isOpen.elim
  · exact isOpen.elim
  · exact isOpen.elim
  · obtain ⟨ending, walk⟩ := walk_of_look steps isOpen
    rw [ending, put, inside]
    exact walk.put content

end Folder

end ProcessDiagram
