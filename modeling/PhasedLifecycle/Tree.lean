/-
This file models what a settings document says, whatever its format: a tree of tables and lists
with scalars at the leaves. Keys are compared without regard to case, so a table holds each of its
keys in small letters.
-/

import PhasedLifecycle.Number.Binary64
import PhasedLifecycle.Text.LowerCase

namespace PhasedLifecycle

/-- A value in a settings document. -/
inductive Tree where
  | nothing
  | truth (value : Bool)
  | whole (value : Int)
  | real (value : Binary64)
  | text (value : String)
  | list (items : List Tree)
  | table (entries : List (String × Tree))

namespace Tree

/-! ### Tables and lists -/

/-- The entries of a table; any other value has none. -/
def entries : Tree → List (String × Tree)
  | .table entries => entries
  | _ => []

/-- The items of a list; any other value has none. -/
def items : Tree → List Tree
  | .list items => items
  | _ => []

/-- The keys of a table; any other value is none. -/
def keys? : Tree → Option (List String)
  | .table entries => some (entries.map (·.1))
  | _ => none

/-- The value of a key in a table. -/
def get? (tree : Tree) (key : String) : Option Tree :=
  tree.entries.lookup key

/-- The entries with one of them set: in its place where the key has one, else at the end. -/
def setEntry (key : String) (value : Tree) : List (String × Tree) → List (String × Tree)
  | [] => [(key, value)]
  | (other, old) :: entries =>
    if other = key then (other, value) :: entries else (other, old) :: setEntry key value entries

/-- The table with a key set. A value that is no table gives way to one. -/
def set (tree : Tree) (key : String) (value : Tree) : Tree :=
  .table (setEntry key value tree.entries)

/-- The list with one item changed. A value that is no list gives way to one, and a list that is too
short is filled up with nothing. -/
def changeItem (tree : Tree) (index : Nat) (change : Tree → Tree) : Tree :=
  let items := tree.items ++ List.replicate (index + 1 - tree.items.length) .nothing
  .list (items.modify index change)

/-! ### Laying values over each other -/

mutual

/-- Lays a value over the one under a key. Tables are laid over each other key by key; anything
else replaces what was there. -/
def lay (tree : Tree) (key : String) : Tree → Tree
  | .table incoming =>
    let key := Text.lowerCase key
    tree.set key (layAll ((tree.get? key).getD (.table [])) incoming)
  | value => tree.set (Text.lowerCase key) value

/-- Lays entries over a value one after another. -/
def layAll (tree : Tree) : List (String × Tree) → Tree
  | [] => tree
  | (key, value) :: entries => layAll (tree.lay key value) entries

end

/-! ### Reading words -/

/-- The word of 64 bits that a text stands for: one of six words for on and off, or digits. -/
def wordOfText? (text : String) : Option Nat :=
  match Text.lowerCase text with
  | "true" | "on" | "yes" => some 1
  | "false" | "off" | "no" => some 0
  | _ => (word64.read? text.toList).map Int.toNat

/-- The word of 64 bits that a value stands for. -/
def word? : Tree → Option Nat
  | .truth value => some value.toNat
  | .whole value => if word64.holds value then some value.toNat else none
  | .real value => some value.toWord64
  | .text value => wordOfText? value
  | .nothing | .list _ | .table _ => none

end Tree

end PhasedLifecycle
