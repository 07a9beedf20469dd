/-
This file models a folder with files and further folders in it, as far as it takes to open files by
their paths. A path may lead through `..`, but each folder on the way must exist; what lies outside
of the folder does not.
-/

namespace PhasedLifecycle

/-! ### Paths -/

/-- A path behind another one; an absolute path stands for itself. -/
def joinPaths (base path : String) : String :=
  if path.startsWith "/" || base.isEmpty then path
  else if base.endsWith "/" then base ++ path
  else base ++ "/" ++ path

/-- The part of a path behind its last slash. -/
def lastName (path : String) : String :=
  String.ofList (path.toList.reverse.takeWhile (· != '/')).reverse

/-- A path without the slashes and points at its end that name nothing. -/
def trimPath (path : String) : String :=
  String.ofList (go path.toList.reverse).reverse
where
  go : List Char → List Char
    | '/' :: rest => go rest
    | '.' :: '/' :: rest => go rest
    | reversed => reversed

/-- The path with an extension behind its last name, where it has one. -/
def addExtension? (path extension : String) : Option String :=
  let path := trimPath path
  if ["", ".", ".."].contains (lastName path) then none else some (path ++ "." ++ extension)

/-- The extension of the last name of a path: what follows its last point, unless it begins with
that. -/
def extension? (path : String) : Option String :=
  let reversed := (lastName path).toList.reverse
  match reversed.dropWhile (· != '.') with
  | '.' :: _ :: _ => some (String.ofList (reversed.takeWhile (· != '.')).reverse)
  | _ => none

/-! ### Folders -/

/-- What stands under a path: a folder, or a file with its content. -/
inductive FolderEntry where
  | folder
  | file (content : String)
  deriving DecidableEq

/-- A folder, known under a path of its own, with the paths of all that is in it. -/
structure Folder where
  path : String
  entries : List (List String × FolderEntry) := []

namespace Folder

/-- Puts an entry in, with the folders that it needs. -/
def put (folder : Folder) (path : String) (entry : FolderEntry) : Folder :=
  let names := (path.splitOn "/").filter fun name => name != "" && name != "."
  let outer := (List.range names.length).map fun length => (names.take length, FolderEntry.folder)
  { folder with entries := (names, entry) :: outer ++ folder.entries }

/-- What some names lead to; no names lead to the folder itself. -/
def entry? (folder : Folder) (names : List String) : Option FolderEntry :=
  if names.isEmpty then some .folder else folder.entries.lookup names

/-- Follows names from a folder inside this one, given by the names that lead to it, in reverse. -/
def follow? (folder : Folder) (here : List String) : List String → Option FolderEntry
  | [] => folder.entry? here.reverse
  | name :: names =>
    if folder.entry? here.reverse != some .folder then none
    else if name = "" || name = "." then follow? folder here names
    else if name = ".." then
      match here with
      | [] => none
      | _ :: outer => follow? folder outer names
    else follow? folder (name :: here) names

/-- The content of the file at a path. Paths that are not absolute begin at this folder. -/
def contentOf? (folder : Folder) (path : String) : Option String :=
  let inside :=
    if path.startsWith (folder.path ++ "/") then
      some (String.ofList (path.toList.drop (folder.path.length + 1)))
    else if path.startsWith "/" then none
    else some path
  match inside.bind fun inside => folder.follow? [] (inside.splitOn "/") with
  | some (.file content) => some content
  | _ => none

end Folder

end PhasedLifecycle
