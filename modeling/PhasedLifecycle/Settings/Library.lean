/-
This file says what a binder of settings asks of a library of layered configuration. The library finds and
reads files and variables, merges what they hold into one value, and reads settings off a section of it.
It is none of the binder's own: its operations are given, and nothing is known of them but what is
documented.
-/

import PhasedLifecycle.Settings

namespace PhasedLifecycle

/-- A source of settings: a file that may be missing, by its path without an extension, or the variables of
the environment whose names begin with a mark. -/
inductive ConfigSource where
  | file (path : String)
  | variables (mark : String)
  deriving DecidableEq

/-- Why settings cannot be read off a section. -/
inductive LookupError where
  | notFound
  | unreadable (detail : String)
  deriving DecidableEq

/-- A library of layered configuration, as `config` is one. Files are known by the contents of their
paths. Where the library makes a choice of its own, say between two files that differ in nothing but the
extension, an operation is any of its choices. -/
structure ConfigLibrary where
  /-- What a source holds. -/
  Contents : Type
  /-- What sources make up together, and any value in it. -/
  Value : Type
  /-- The paths at which a file may be found. -/
  variants : (path : String) → List String
  /-- Reads the file of a path; one that is not there can be read as well. -/
  readFile : (contentOf? : String → Option String) → (path : String) → Except String Contents
  /-- Reads the variables whose names begin with a mark. -/
  readVariables : (environment : List (String × String)) → (mark : String) → Except String Contents
  /-- Reads and merges sources. -/
  build : (contentOf? : String → Option String) → (environment : List (String × String)) →
    List ConfigSource → Except String Value
  /-- Reads settings off a section. -/
  settings : Value → (name : String) → Except LookupError Settings
  /-- What no source makes up. -/
  nothing : Value
  /-- Merges what one more source holds into what the sources before make up. -/
  merge : Value → Contents → Value
  /-- The value under a key. -/
  get? : Value → (key : String) → Option Value
  /-- The keys of a table; no other value has any. -/
  keys? : Value → Option (List String)
  /-- The number of 64 bits that a value converts to. -/
  word? : Value → Option Nat
  /-- Whatever a source holds under a key is a table. -/
  KeepsTable : Contents → (key : String) → Prop

/-- What is read where a number is looked for: nothing, a table without keys, or a value that may convert
to a number. -/
inductive Reading where
  | absent
  | emptyTable
  | value (word : Option Nat)
  deriving DecidableEq

namespace Reading

/-- What is read where one is merged into another. A table without keys takes nothing back. -/
def atop : Reading → Reading → Reading
  | .absent, earlier => earlier
  | .emptyTable, .absent => .emptyTable
  | .emptyTable, earlier => earlier
  | .value word, _ => .value word

theorem atop_absent (reading : Reading) : reading.atop .absent = reading := by
  cases reading <;> rfl

theorem absent_atop (reading : Reading) : Reading.absent.atop reading = reading := rfl

theorem atop_assoc (last middle first : Reading) :
    (last.atop middle).atop first = last.atop (middle.atop first) := by
  cases last <;> cases middle <;> cases first <;> rfl

theorem emptyTable_atop (reading : Reading) :
    Reading.emptyTable.atop reading = if reading = .absent then .emptyTable else reading := by
  cases reading <;> rfl

end Reading

namespace ConfigLibrary

variable (library : ConfigLibrary)

/-- What a source holds. -/
def collect (contentOf? : String → Option String) (environment : List (String × String)) :
    ConfigSource → Except String library.Contents
  | .file path => library.readFile contentOf? path
  | .variables mark => library.readVariables environment mark

/-- What is read off a value, if there is one. -/
def reading : Option library.Value → Reading
  | none => .absent
  | some value =>
    if library.keys? value = some [] then .emptyTable else .value (library.word? value)

/-- The value under a key of a section. -/
def valueAt (value : library.Value) (name key : String) : Option library.Value :=
  (library.get? value name).bind (library.get? · key)

/-- What is read under a key of a section. -/
def readingAt (value : library.Value) (name key : String) : Reading :=
  library.reading (library.valueAt value name key)

/-- A section is a table, if it is there. -/
def HasTable (value : library.Value) (name : String) : Prop :=
  ∀ content, library.get? value name = some content → (library.keys? content).isSome = true

/-- A source that has nothing to merge. -/
def HoldsNothing (contents : library.Contents) : Prop :=
  (∀ key, library.KeepsTable contents key) ∧ ∀ value, library.merge value contents = value

/-- What is documented of a library of layered configuration. -/
structure IsDocumented : Prop where
  /-- A file that is not there holds nothing. -/
  missing : ∀ contentOf? path, (∀ variant ∈ library.variants path, contentOf? variant = none) →
    ∃ contents, library.readFile contentOf? path = .ok contents ∧ library.HoldsNothing contents
  /-- No variables hold nothing. -/
  unset : ∀ mark, ∃ contents,
    library.readVariables [] mark = .ok contents ∧ library.HoldsNothing contents
  /-- A source that cannot be read makes the whole build fail. -/
  fails : ∀ contentOf? environment sources source detail, source ∈ sources →
    library.collect contentOf? environment source = .error detail →
      ∃ detail, library.build contentOf? environment sources = .error detail
  /-- Sources are merged in the order in which they were added. -/
  inOrder : ∀ contentOf? environment sources (contents : List library.Contents),
    sources.map (library.collect contentOf? environment) = contents.map .ok →
    library.build contentOf? environment sources = .ok (contents.foldl library.merge library.nothing)
  /-- There is nothing in what no source makes up. -/
  empty : ∀ key, library.get? library.nothing key = none
  /-- Tables are merged to tables. -/
  tables : ∀ value contents name, library.KeepsTable contents name → library.HasTable value name →
    library.HasTable (library.merge value contents) name
  /-- Tables are merged key by key: a key that a source does not have in a table stays as it is. -/
  keeps : ∀ value contents name key, library.KeepsTable contents name →
    library.readingAt (library.merge library.nothing contents) name key = .absent →
    library.readingAt (library.merge value contents) name key = library.readingAt value name key
  /-- A later value replaces an earlier one. Where both are tables or lists, they may be merged to one
  again, which converts to no number, as neither does. -/
  replaces : ∀ value contents name key word, library.KeepsTable contents name →
    library.readingAt (library.merge library.nothing contents) name key = .value word →
    library.readingAt (library.merge value contents) name key = .value word
  /-- Tables are merged key by key: one without keys changes nothing of what is there. -/
  keyless : ∀ value contents name key, library.KeepsTable contents name →
    library.readingAt (library.merge library.nothing contents) name key = .emptyTable →
    library.readingAt (library.merge value contents) name key =
      if library.readingAt value name key = .absent then .emptyTable
      else library.readingAt value name key
  /-- No table converts to a number. -/
  unconverted : ∀ value, (library.keys? value).isSome = true → library.word? value = none
  /-- A missing section is not found. -/
  notFound : ∀ value name, library.get? value name = none →
    library.settings value name = .error .notFound
  /-- A missing key of the section counts as its default. -/
  byDefault : ∀ value name content, library.get? value name = some content →
    (library.keys? content).isSome = true → library.get? content Settings.timeoutKey = none →
    library.settings value name = .ok {}
  /-- Settings are read off a table by their keys. -/
  converted : ∀ value name content timeout word, library.get? value name = some content →
    (library.keys? content).isSome = true → library.get? content Settings.timeoutKey = some timeout →
    library.word? timeout = some word → library.settings value name = .ok { timeout := word }
  /-- A value that converts to no number cannot be read. -/
  unreadable : ∀ value name content timeout, library.get? value name = some content →
    (library.keys? content).isSome = true → library.get? content Settings.timeoutKey = some timeout →
    library.word? timeout = none →
    ∃ detail, library.settings value name = .error (.unreadable detail)

end ConfigLibrary

end PhasedLifecycle
