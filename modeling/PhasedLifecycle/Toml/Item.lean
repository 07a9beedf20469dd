/-
This file models a TOML document while its tables are being put together. A table may be written
only once, so an item remembers how it came about: a table written out under its own heading, one
that only came up on the way to another table, or one that a dotted key made.
-/

import PhasedLifecycle.Tree

namespace PhasedLifecycle.Toml

/-- How a table came about. -/
inductive Origin where
  /-- Written out under a heading of its own. -/
  | heading
  /-- Implied by the heading of a table inside it. -/
  | implied
  /-- Made by a dotted key. -/
  | dotted
  deriving DecidableEq

/-- What stands under a key. -/
inductive Item where
  | value (tree : Tree)
  | table (origin : Origin) (entries : List (String × Item))
  /-- Tables written one after another under the same heading, the last one first. -/
  | tables (last : List (String × Item)) (earlier : List (List (String × Item)))

/-- The entries of a table. -/
abbrev Entries := List (String × Item)

namespace Item

/-- The entries with one of them set: in its place where the key has one, else at the end. -/
def setEntry (key : String) (item : Item) : Entries → Entries
  | [] => [(key, item)]
  | (other, old) :: entries =>
    if other = key then (other, item) :: entries else (other, old) :: setEntry key item entries

/-- Adds an entry under a key that has none. -/
def addEntry? (key : String) (item : Item) (entries : Entries) : Option Entries :=
  match entries.lookup key with
  | some _ => none
  | none => some (setEntry key item entries)

/-! ### Dotted keys -/

/-- Adds a value along dotted keys. It may pass through tables that no heading has written out, and
the table that it ends in must be one that dotted keys made. -/
def addDotted? (value : Tree) : List String → Entries → Option Entries
  | [], _ => none
  | [key], entries => addEntry? key (.value value) entries
  | key :: keys, entries =>
    match entries.lookup key with
    | none => do
      let inner ← addDotted? value keys []
      return setEntry key (.table .dotted inner) entries
    | some (.table origin inner) =>
      if origin = .heading || (origin = .implied && keys.length = 1) then none
      else do
        let inner ← addDotted? value keys inner
        return setEntry key (.table origin inner) entries
    | some (.tables last earlier) =>
      if keys.length = 1 then none
      else do
        let last ← addDotted? value keys last
        return setEntry key (.tables last earlier) entries
    | some (.value _) => none

/-! ### Headings -/

/-- Changes the table that keys lead to, making those on the way that do not exist. -/
def changeAlong? (change : Entries → Option Entries) : List String → Entries → Option Entries
  | [], entries => change entries
  | key :: keys, entries =>
    match entries.lookup key with
    | none => do
      let inner ← changeAlong? change keys []
      return setEntry key (.table .implied inner) entries
    | some (.table origin inner) => do
      let inner ← changeAlong? change keys inner
      return setEntry key (.table origin inner) entries
    | some (.tables last earlier) => do
      let last ← changeAlong? change keys last
      return setEntry key (.tables last earlier) entries
    | some (.value _) => none

/-- Opens a table under a heading. Only one that is merely implied may exist already. -/
def openTable? (key : String) (entries : Entries) : Option Entries :=
  match entries.lookup key with
  | none => some (setEntry key (.table .heading []) entries)
  | some (.table .implied inner) => some (setEntry key (.table .heading inner) entries)
  | some _ => none

/-- Opens a further table under a heading that may be repeated. -/
def openFurtherTable? (key : String) (entries : Entries) : Option Entries :=
  match entries.lookup key with
  | none => some (setEntry key (.tables [] []) entries)
  | some (.tables last earlier) => some (setEntry key (.tables [] (last :: earlier)) entries)
  | some _ => none

/-! ### The finished document -/

mutual

/-- The tree that an item stands for. -/
def tree : Item → Tree
  | .value tree => tree
  | .table _ entries => .table (trees entries)
  | .tables last earlier => .list (treesOfTables earlier [.table (trees last)])

/-- The trees of the entries of a table. -/
def trees : List (String × Item) → List (String × Tree)
  | [] => []
  | (key, item) :: entries => (key, item.tree) :: trees entries

/-- The trees of tables that come in reverse, in front of others. -/
def treesOfTables : List (List (String × Item)) → List Tree → List Tree
  | [], after => after
  | entries :: earlier, after => treesOfTables earlier (.table (trees entries) :: after)

end

end Item

end PhasedLifecycle.Toml
