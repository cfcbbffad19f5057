import ProcessDiagram.Table
import ProcessDiagram.Text.Basic

set_option autoImplicit false

namespace ProcessDiagram

abbrev Octets := List UInt8

inductive Place where
  | file (content : Octets)
  | directory
  | vacant
  -- No directory, and the path ends like that of one.
  | vacantDirectory
  -- Nothing, nor is there a directory for it.
  | unreachable
  | throughFile
  | overlongName
  | forbiddenPath

-- A folder among the temporary files of a system whose other directories are empty, but for the device
-- that holds nothing; where the system keeps its processes no file can be put.
structure Folder where
  files : Table (List String) Octets := []

namespace Folder

def parts (path : String) : List String :=
  ((Text.splitAtMark '/' path.toList).map String.ofList).filter (· ≠ "")

def step (way : Option (List String)) (name : String) : Option (List String) :=
  way.bind fun names =>
    if name = "." then some names
    else if name = ".." then if names.isEmpty then none else some names.dropLast
    else some (names ++ [name])

def isAbsolute (path : String) : Bool :=
  path.toList.head? = some '/'

def namesOf? (path : String) : Option (List String) :=
  if isAbsolute path then none else (parts path).foldl step (some [])

def isDirectory (folder : Folder) (names : List String) : Bool :=
  names.isEmpty || folder.files.any fun entry =>
    names.isPrefixOf entry.1 && names.length < entry.1.length

def maxNameSize : Nat := 255

def isOverlong (name : String) : Bool :=
  maxNameSize < name.utf8ByteSize

def vacancy (asDirectory : Bool) (rest : List String) : Place :=
  if !rest.isEmpty then .unreachable else if asDirectory then .vacantDirectory else .vacant

def fileAt (content : Octets) (asDirectory : Bool) (rest : List String) : Place :=
  if !rest.isEmpty then .throughFile
  else if asDirectory then .vacantDirectory
  else .file content

def systemDirectories : List String :=
  ["bin", "dev", "etc", "home", "opt", "proc", "root", "tmp", "usr", "var"]

-- What stands where names lead outside of the folder, when the names `done` have led from the root
-- to a directory.
def lookOutside (asDirectory : Bool) (done : List String) : List String → Place
  | [] => .directory
  | name :: rest =>
      if name = "." then lookOutside asDirectory done rest
      else if name = ".." then lookOutside asDirectory done.dropLast rest
      else if isOverlong name then .overlongName
      else if done.isEmpty && systemDirectories.contains name then
        lookOutside asDirectory [name] rest
      else if done ++ [name] = ["dev", "null"] then fileAt [] asDirectory rest
      else if done = ["proc"] then .unreachable
      else vacancy asDirectory rest

def surroundings : List String := ["tmp"]

def lookAlong (folder : Folder) (asDirectory : Bool) (done : List String) : List String → Place
  | [] => .directory
  | name :: rest =>
      let here := done ++ [name]
      if name = "." then lookAlong folder asDirectory done rest
      else if name = ".." then
        if done.isEmpty then lookOutside asDirectory surroundings rest
        else lookAlong folder asDirectory done.dropLast rest
      else if isOverlong name then .overlongName
      else
        match Table.get? here folder.files with
        | some content => fileAt content asDirectory rest
        | none =>
            if folder.isDirectory here then lookAlong folder asDirectory here rest
            else vacancy asDirectory rest

def pathLimit : Nat := 4096

def look (folder : Folder) (path : String) : Place :=
  let chars := path.toList
  let asDirectory := chars.getLast? = some '/'
  if chars.contains '\x00' then .forbiddenPath
  else if chars.isEmpty then .unreachable
  else if pathLimit ≤ path.utf8ByteSize then .overlongName
  else if isAbsolute path then lookOutside asDirectory [] (parts path)
  else folder.lookAlong asDirectory [] (parts path)

def put (folder : Folder) (path : String) (content : Octets) : Folder :=
  match namesOf? path with
  | some names => ⟨Table.put names content folder.files⟩
  | none => folder

def changes (before after : Folder) : List (String × Octets) :=
  (after.files.filter fun (names, content) => Table.get? names before.files ≠ some content).map
    fun (names, content) => (String.intercalate "/" names, content)

end Folder

end ProcessDiagram
