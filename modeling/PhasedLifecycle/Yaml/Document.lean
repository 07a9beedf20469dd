/-
This file reads YAML documents as settings. A text of settings holds one document, whose node is a
mapping, or none at all.
-/

import PhasedLifecycle.Tree
import PhasedLifecycle.Yaml.Node

namespace PhasedLifecycle.Yaml

/-! ### Documents of a text -/

/-- The tokens behind directives. -/
def skipDirectives (tokens : List Token) : List Token :=
  tokens.dropWhile (· == .directive)

/-- The node of one document, and the tokens behind it. Only the first document may do without a
mark in front of it. -/
def readDocument? (isFirst : Bool) (tokens : List Token) : Option (Node × List Token) :=
  let readNode (tokens : List Token) : Option (Node × List Token) :=
    (Node.read true false (4 * tokens.length + 4) {} tokens).map
      fun (node, _, tokens) => (node, tokens)
  if isFirst && !Node.comesNext tokens [.directive, .documentStart] then readNode tokens
  else match skipDirectives tokens with
    | .documentStart :: tokens =>
      if tokens.isEmpty || Node.comesNext tokens [.directive, .documentStart, .documentEnd] then
        some (.null, tokens)
      else readNode tokens
    | _ => none

/-- The nodes of the documents of a text. The fuel bounds their number. -/
def readDocuments? (isFirst : Bool) : Nat → List Token → Option (List Node)
  | _, [] => some []
  | 0, _ => none
  | fuel + 1, tokens => do
    let (node, tokens) ← readDocument? isFirst tokens
    return node :: (← readDocuments? false fuel (tokens.dropWhile (· == .documentEnd)))

/-! ### Trees -/

/-- The key that a node stands for. -/
def Node.key? : Node → Option String
  | .text value => some value
  | .real spelling => some spelling
  | .whole value => some (toString value)
  | .truth value => some (toString value)
  | _ => none

mutual

/-- The tree that a node stands for. -/
def Node.tree? : Node → Option Tree
  | .misfit => some .nothing
  | .null => some .nothing
  | .truth value => some (.truth value)
  | .whole value => some (.whole value)
  | .real spelling => (Binary64.read? spelling.toList).map .real
  | .text value => some (.text value)
  | .sequence items => (treesOfItems items).map .list
  | .mapping entries => (treesOfEntries entries).map .table

/-- The trees of the items of a sequence. -/
def treesOfItems : List Node → Option (List Tree)
  | [] => some []
  | item :: items => do return (← item.tree?) :: (← treesOfItems items)

/-- The trees of the entries of a mapping; of a repeated key, the last counts. -/
def treesOfEntries : List (Node × Node) → Option (List (String × Tree))
  | [] => some []
  | (key, value) :: entries => do
    let key ← key.key?
    let value ← value.tree?
    let entries ← treesOfEntries entries
    return if (entries.lookup key).isSome then entries else (key, value) :: entries

end

/-- The entries that a text of settings holds. -/
def readSettings? (text : String) : Option (List (String × Tree)) := do
  let tokens ← tokens? text.toList
  match ← readDocuments? true (tokens.length + 1) tokens with
  | [] => return []
  | [node] =>
    match ← node.tree? with
    | .table entries => return entries
    | _ => none
  | _ => none

end PhasedLifecycle.Yaml
