/-
This file reads and follows paths through a tree. A path begins with a key and goes on by further
keys, each after a point, and by places in lists, each in brackets: `servers[0].name`. Following a
path to set a value makes the tables and lists it leads through.
-/

import PhasedLifecycle.Tree

namespace PhasedLifecycle.Tree

/-- A step of a path: into a table or into a list. -/
inductive Step where
  | key (name : String)
  | place (index : Int)
  deriving DecidableEq

/-- A path through a tree. -/
structure Path where
  first : String
  steps : List Step
  deriving DecidableEq

namespace Path

/-! ### Reading paths -/

/-- A character that keys in paths are made of. -/
def isKeyChar (c : Char) : Bool :=
  c.isAlphanum || c == ' ' || c == '_' || c == '-'

/-- A space or a tab. -/
def isGap (c : Char) : Bool :=
  c == ' ' || c == '\t'

/-- A key, and the text behind it. -/
def readKey? (text : List Char) : Option (String × List Char) :=
  match text.takeWhile isKeyChar with
  | [] => none
  | key => some (String.ofList key, text.dropWhile isKeyChar)

/-- A place in a list, with gaps around it, up to the closing bracket. -/
def readPlace? (text : List Char) : Option (Int × List Char) := do
  let text := text.dropWhile isGap
  let (negative, unsigned) := match text with
    | '-' :: rest => (true, rest)
    | rest => (false, rest)
  let (digits, rest) := spanDigits unsigned
  let value ← readNat? 10 digits
  let index : Int := if negative then -value else value
  match rest.dropWhile isGap with
  | ']' :: rest => if signed64.holds index then some (index, rest) else none
  | _ => none

/-- The steps of a path, up to the end of the text. The fuel bounds their number. -/
def readSteps? : Nat → List Char → Option (List Step)
  | _, [] => some []
  | fuel + 1, '.' :: rest => do
    let (name, rest) ← readKey? rest
    return .key name :: (← readSteps? fuel rest)
  | fuel + 1, '[' :: rest => do
    let (index, rest) ← readPlace? rest
    return .place index :: (← readSteps? fuel rest)
  | _, _ => none

/-- The path that a text writes. -/
def read? (text : String) : Option Path := do
  let (first, rest) ← readKey? text.toList
  return { first, steps := ← readSteps? rest.length rest }

end Path

/-! ### Following paths -/

/-- The place that an index names in a list of some length: a negative one counts from the end. -/
def placeOf (index : Int) (length : Nat) : Nat :=
  if 0 ≤ index then index.toNat else length - (-index).toNat

/-- Lays a value over what some steps lead to. A last step into a list replaces the item there. -/
def layAlong (value : Tree) : List Step → Tree → Tree
  | [], _ => value
  | [.key name], tree => tree.lay name value
  | .key name :: steps, tree =>
    let name := Text.lowerCase name
    tree.set name (layAlong value steps ((tree.get? name).getD .nothing))
  | .place index :: steps, tree =>
    tree.changeItem (placeOf index tree.items.length) (layAlong value steps)

/-- The path that a key is followed as: the one it reads as, if it reads as one, else the key by
itself. -/
def Path.of (key : String) : Path :=
  (Path.read? key).getD { first := key, steps := [] }

/-- Lays a value over what a key leads to. -/
def layAt (tree : Tree) (key : String) (value : Tree) : Tree :=
  layAlong value (.key (Path.of key).first :: (Path.of key).steps) tree

/-- Lays the entries of a source over a tree, one after another. -/
def layEntries (tree : Tree) (entries : List (String × Tree)) : Tree :=
  entries.foldl (fun tree entry => tree.layAt entry.1 entry.2) tree

/-- An entry of a source keeps what is under a name a table: it lies elsewhere, or it is a table itself, or
it leads on to a key of the table. -/
def KeepsTable (name : String) (entry : String × Tree) : Prop :=
  Text.lowerCase (Path.of entry.1).first = name →
    ((Path.of entry.1).steps = [] ∧ ∃ entries, entry.2 = .table entries) ∨
      ∃ key steps, (Path.of entry.1).steps = .key key :: steps

instance decidableIsTable : ∀ value : Tree, Decidable (∃ entries, value = .table entries)
  | .table entries => isTrue ⟨entries, rfl⟩
  | .nothing | .truth _ | .whole _ | .real _ | .text _ | .list _ => isFalse nofun

instance decidableLeadsToKey : ∀ path : List Step, Decidable (∃ name steps, path = .key name :: steps)
  | .key name :: steps => isTrue ⟨name, steps, rfl⟩
  | [] | .place _ :: _ => isFalse nofun

instance decidableKeepsTable (name : String) (entry : String × Tree) :
    Decidable (KeepsTable name entry) :=
  inferInstanceAs (Decidable (_ → _))

end PhasedLifecycle.Tree
