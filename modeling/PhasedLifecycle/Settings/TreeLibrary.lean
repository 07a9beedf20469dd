/-
This file reads settings from their sources: files, each in one of several formats, and the variables of
the environment. It stands in for a library of layered configuration wherever settings are bound for real,
and knows of it what that takes: the formats that settings are written in here, and the order in which
it looks for them. Files in other formats count as missing.
-/

import PhasedLifecycle.Json.Tree
import PhasedLifecycle.Settings.Binder
import PhasedLifecycle.Toml.Document
import PhasedLifecycle.Tree.Path
import PhasedLifecycle.Yaml.Document

namespace PhasedLifecycle

/-! ### Formats -/

/-- The format of a file. -/
inductive Format where
  | toml
  | json
  | yaml
  deriving DecidableEq

namespace Format

/-- The extensions of files, with the formats they stand for. -/
def extensions : List (String × Format) :=
  [("toml", .toml), ("json", .json), ("yaml", .yaml), ("yml", .yaml)]

/-- The entries that a text in the format holds. -/
def readSettings? : Format → String → Option (List (String × Tree))
  | .toml => Toml.readSettings?
  | .json => Json.readSettings?
  | .yaml => Yaml.readSettings?

end Format

/-! ### Variables -/

/-- Replaces each pair of underscores, from the left, by a point. -/
def pointsForPairs : List Char → List Char
  | '_' :: '_' :: rest => '.' :: pointsForPairs rest
  | c :: rest => c :: pointsForPairs rest
  | [] => []

/-- The value that the text of a variable stands for: a truth value in any case, a number, or the
text itself. -/
def valueOfVariable (text : String) : Tree :=
  match Text.lowerCase text with
  | "true" => .truth true
  | "false" => .truth false
  | _ =>
    match signed64.read? text.toList with
    | some value => .whole value
    | none =>
      match Binary64.read? text.toList with
      | some value => .real value
      | none => .text text

/-- The entries that variables make up: those whose names begin with a mark and two underscores, in
any case. The rest of the name is a key, with points for pairs of underscores. -/
def entriesOfVariables (environment : List (String × String)) (mark : String) :
    List (String × Tree) :=
  let opening := (Text.lowerCase (mark ++ "__")).toList
  environment.filterMap fun (name, value) =>
    let name := (Text.lowerCase name).toList
    if opening.isPrefixOf name then
      some (String.ofList (pointsForPairs (name.drop opening.length)), valueOfVariable value)
    else none

/-! ### Reading sources -/

/-- All paths at which a file may be looked for. -/
def variantsOf (path : String) : List String :=
  path :: Format.extensions.filterMap fun (extension, _) => addExtension? path extension

/-- The file that a path stands for, with its format: the one of exactly this path, which counts
only if its extension is known, else the one with an extension added. -/
def findFile? (contentOf? : String → Option String) (path : String) : Option (Format × String) :=
  match contentOf? path with
  | some content =>
    ((extension? path).bind fun extension => Format.extensions.lookup extension).map (·, content)
  | none => Format.extensions.findSome? fun (extension, format) => do
    return (format, ← contentOf? (← addExtension? path extension))

/-- The entries that a file makes up. A mark of the byte order at its beginning is passed over. -/
def entriesOfFile (contentOf? : String → Option String) (path : String) :
    Except String (List (String × Tree)) :=
  match findFile? contentOf? path with
  | none => .ok []
  | some (format, content) =>
    let content := match content.toList with
      | '\ufeff' :: rest => String.ofList rest
      | _ => content
    match format.readSettings? content with
    | some entries => .ok entries
    | none => .error (path ++ ": malformed document")

/-- The entries that a source makes up. -/
def entriesOf (contentOf? : String → Option String) (environment : List (String × String)) :
    ConfigSource → Except String (List (String × Tree))
  | .file path => entriesOfFile contentOf? path
  | .variables mark => .ok (entriesOfVariables environment mark)

/-- Lays sources over a tree one by one; the first that cannot be read ends it. -/
def laySources (contentOf? : String → Option String) (environment : List (String × String))
    (tree : Tree) : List ConfigSource → Except String Tree
  | [] => .ok tree
  | source :: sources =>
    match entriesOf contentOf? environment source with
    | .error detail => .error detail
    | .ok entries => laySources contentOf? environment (tree.layEntries entries) sources

namespace Settings

/-! ### Settings in a tree -/

/-- The settings with a timeout, where there is one. -/
def ofTimeout? : Option Tree → Option Settings
  | none => some {}
  | some value => value.word?.map fun timeout => { timeout }

/-- The settings that a value describes: a table by its keys, a list by its first item. -/
def ofTree? : Tree → Option Settings
  | .table entries => ofTimeout? (entries.lookup timeoutKey)
  | .list items => ofTimeout? items.head?
  | _ => none

/-- The settings in a section of a tree. -/
def inSection (tree : Tree) (name : String) : Except LookupError Settings :=
  match tree.get? name with
  | none => .error .notFound
  | some table =>
    match ofTree? table with
    | some settings => .ok settings
    | none => .error (.unreadable (timeoutKey ++ ": not a count of milliseconds"))

end Settings

/-- The reader of this file as a library. -/
@[reducible]
def treeLibrary : ConfigLibrary where
  Contents := List (String × Tree)
  Value := Tree
  variants := variantsOf
  readFile := entriesOfFile
  readVariables := fun environment mark => .ok (entriesOfVariables environment mark)
  build := fun contentOf? environment sources => laySources contentOf? environment (.table []) sources
  settings := Settings.inSection
  nothing := .table []
  merge := Tree.layEntries
  get? := Tree.get?
  keys? := Tree.keys?
  word? := Tree.word?
  KeepsTable := fun entries name => ∀ entry ∈ entries, Tree.KeepsTable name entry

namespace Settings.Sources

/-- All paths at which a file may be looked for. -/
def candidates (sources : Sources) : List String :=
  sources.paths.flatMap variantsOf

/-- Obtains the settings from the sources. -/
def bind : Sources → (String → Option String) → List (String × String) → SettingsSource :=
  bindWith treeLibrary

end Settings.Sources

end PhasedLifecycle
