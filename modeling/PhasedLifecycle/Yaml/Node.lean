/-
This file puts the tokens of a YAML document together to nodes: scalars, sequences and mappings.
An anchor gives a node a name, and an alias stands for the node that was named so last. What a plain
scalar means is told by its spelling, or by a tag in front of it.
-/

import PhasedLifecycle.Number.Binary64
import PhasedLifecycle.Yaml.Token

namespace PhasedLifecycle.Yaml

/-- A node. -/
inductive Node where
  /-- A scalar that is not what its tag says, or an alias for a node it is part of. -/
  | misfit
  | null
  | truth (value : Bool)
  | whole (value : Int)
  /-- A number with a fraction or an exponent, as it is written. -/
  | real (text : String)
  | text (value : String)
  | sequence (items : List Node)
  | mapping (entries : List (Node × Node))

namespace Node

/-! ### Scalars -/

/-- Whether a text spells a number with a fraction or an exponent, or a word for one. -/
def isReal (spelling : String) : Bool :=
  [".inf", ".Inf", ".INF", "+.inf", "+.Inf", "+.INF", "-.inf", "-.Inf", "-.INF", ".nan", "NaN",
    ".NAN"].contains spelling || (Binary64.read? spelling.toList).isSome

/-- A whole number in any of its spellings. -/
def whole? (spelling : String) : Option Int :=
  match spelling.toList with
  | '0' :: 'x' :: digits => (readIntIn? 16 digits).filter signed64.holds
  | '0' :: 'o' :: digits => (readIntIn? 8 digits).filter signed64.holds
  | '+' :: rest => signed64.read? rest
  | characters => signed64.read? characters

/-- The node that a plain scalar stands for by its spelling. -/
def ofPlain (spelling : String) : Node :=
  match whole? spelling with
  | some value => .whole value
  | none =>
    match spelling with
    | "~" | "null" => .null
    | "true" => .truth true
    | "false" => .truth false
    | spelling => if isReal spelling then .real spelling else .text spelling

/-- The node that a plain scalar stands for by a tag of the standard. -/
def ofTagged (kind spelling : String) : Node :=
  match kind with
  | "bool" =>
    if spelling = "true" then .truth true
    else if spelling = "false" then .truth false
    else .misfit
  | "int" => ((signed64.read? spelling.toList).map Node.whole).getD .misfit
  | "float" => if isReal spelling then .real spelling else .misfit
  | "null" => if spelling = "~" || spelling = "null" then .null else .misfit
  | _ => .text spelling

/-- The node that a scalar stands for. -/
def ofScalar (tag : Option (String × String)) (style : Style) (spelling : String) : Node :=
  match style, tag with
  | .plain, none => ofPlain spelling
  | .plain, some ("!!", kind) => ofTagged kind spelling
  | _, _ => .text spelling

/-- The entries of a mapping whose keys and values come one after another. A misfit is passed over
where a key should be. -/
def pairUp : List Node → List (Node × Node)
  | .misfit :: nodes => pairUp nodes
  | key :: value :: nodes => (key, value) :: pairUp nodes
  | _ => []

/-! ### Anchors -/

/-- The anchors met so far, the last first, and the nodes known by their numbers. -/
structure Anchors where
  names : List (String × Nat) := []
  nodes : List (Nat × Node) := []

/-- Notes an anchor; the answer holds its number. -/
def Anchors.note (anchors : Anchors) (name : String) : Nat × Anchors :=
  let number := anchors.names.length
  (number, { anchors with names := (name, number) :: anchors.names })

/-- Makes a node known by a number. -/
def Anchors.bind (anchors : Anchors) (number : Option Nat) (node : Node) : Anchors :=
  match number with
  | some number => { anchors with nodes := (number, node) :: anchors.nodes }
  | none => anchors

/-- The node that an alias stands for. -/
def Anchors.resolve? (anchors : Anchors) (name : String) : Option Node :=
  (anchors.names.lookup name).map fun number => (anchors.nodes.lookup number).getD .misfit

/-- What comes in front of a node: its anchor and its tag. -/
structure Properties where
  anchor : Option Nat := none
  tag : Option (String × String) := none

/-- Reads an anchor, a tag, or both in either order. -/
def readProperties (anchors : Anchors) : List Token → Properties × Anchors × List Token
  | .anchor name :: .tag handle suffix :: tokens =>
    let (number, anchors) := anchors.note name
    ({ anchor := some number, tag := some (handle, suffix) }, anchors, tokens)
  | .tag handle suffix :: .anchor name :: tokens =>
    let (number, anchors) := anchors.note name
    ({ anchor := some number, tag := some (handle, suffix) }, anchors, tokens)
  | .anchor name :: tokens =>
    let (number, anchors) := anchors.note name
    ({ anchor := some number }, anchors, tokens)
  | .tag handle suffix :: tokens => ({ tag := some (handle, suffix) }, anchors, tokens)
  | tokens => ({}, anchors, tokens)

/-! ### Collections -/

/-- Whether one of some tokens comes next. -/
def comesNext (tokens expected : List Token) : Bool :=
  tokens.head?.any expected.contains

mutual

/-- A node. Between brackets no collection is opened by indentation; a sequence that is the value
of a mapping may stand at the column of its keys. The fuel bounds the number of nodes. -/
def read (mayIndent mayAlign : Bool) :
    Nat → Anchors → List Token → Option (Node × Anchors × List Token)
  | 0, _, _ => none
  | _, anchors, .alias name :: tokens => do return (← anchors.resolve? name, anchors, tokens)
  | fuel + 1, anchors, tokens => do
    let (properties, anchors, tokens) := readProperties anchors tokens
    let collection (made : Option (Node × Anchors × List Token)) := made.map
      fun (node, anchors, tokens) => (node, anchors.bind properties.anchor node, tokens)
    match tokens with
    | .scalar style spelling :: tokens =>
      let node := ofScalar properties.tag style spelling
      return (node, anchors.bind properties.anchor node, tokens)
    | .flowSequence :: tokens => collection (readFlowSequence true [] fuel anchors tokens)
    | .flowMapping :: tokens => collection (readFlowMapping true [] fuel anchors tokens)
    | tokens =>
      if mayAlign && comesNext tokens [.blockEntry] then
        collection (readAligned [] fuel anchors tokens)
      else if mayIndent && comesNext tokens [.blockSequence] then
        collection (readBlockSequence [] fuel anchors (tokens.drop 1))
      else if mayIndent && comesNext tokens [.blockMapping] then
        collection (readBlockMapping [] fuel anchors (tokens.drop 1))
      else if properties.anchor.isSome || properties.tag.isSome then
        let node := ofScalar properties.tag .plain ""
        return (node, anchors.bind properties.anchor node, tokens)
      else none

/-- A node that may be left out in front of certain tokens. -/
def readUnless (omitted : List Token) (mayIndent mayAlign : Bool) :
    Nat → Anchors → List Token → Option (Node × Anchors × List Token)
  | 0, _, _ => none
  | fuel + 1, anchors, tokens =>
    if comesNext tokens omitted then some (.null, anchors, tokens)
    else read mayIndent mayAlign fuel anchors tokens

/-- The items of a sequence opened by indentation. -/
def readBlockSequence (items : List Node) :
    Nat → Anchors → List Token → Option (Node × Anchors × List Token)
  | 0, _, _ => none
  | fuel + 1, anchors, tokens =>
    match tokens with
    | .blockEnd :: tokens => some (.sequence items.reverse, anchors, tokens)
    | .blockEntry :: tokens =>
      match readUnless [.blockEntry, .blockEnd] true false fuel anchors tokens with
      | some (item, anchors, tokens) => readBlockSequence (item :: items) fuel anchors tokens
      | none => none
    | _ => none

/-- The items of a sequence that stands at the column of the keys around it. -/
def readAligned (items : List Node) :
    Nat → Anchors → List Token → Option (Node × Anchors × List Token)
  | 0, _, _ => none
  | fuel + 1, anchors, tokens =>
    match tokens with
    | .blockEntry :: tokens =>
      match readUnless [.blockEntry, .key, .value, .blockEnd] true false fuel anchors tokens with
      | some (item, anchors, tokens) => readAligned (item :: items) fuel anchors tokens
      | none => none
    | tokens => some (.sequence items.reverse, anchors, tokens)

/-- The keys and values, in reverse, of a mapping opened by indentation. -/
def readBlockMapping (nodes : List Node) :
    Nat → Anchors → List Token → Option (Node × Anchors × List Token)
  | 0, _, _ => none
  | fuel + 1, anchors, tokens =>
    let omitted : List Token := [.key, .value, .blockEnd]
    let key := match tokens with
      | .key :: tokens => readUnless omitted true true fuel anchors tokens
      | .value :: _ => some (.null, anchors, tokens)
      | _ => none
    match tokens, key with
    | .blockEnd :: tokens, _ => some (.mapping (pairUp nodes.reverse), anchors, tokens)
    | _, none => none
    | _, some (key, anchors, tokens) =>
      let value := match tokens with
        | .value :: tokens => readUnless omitted true true fuel anchors tokens
        | tokens => some (.null, anchors, tokens)
      match value with
      | none => none
      | some (value, anchors, tokens) =>
        readBlockMapping (value :: key :: nodes) fuel anchors tokens

/-- The value in a mapping between brackets. -/
def readFlowValue (closing : Token) :
    Nat → Anchors → List Token → Option (Node × Anchors × List Token)
  | 0, _, _ => none
  | fuel + 1, anchors, tokens =>
    match tokens with
    | .value :: tokens => readUnless [.flowEntry, closing] false false fuel anchors tokens
    | tokens => some (.null, anchors, tokens)

/-- The keys and values, in reverse, of a mapping between brackets. -/
def readFlowMapping (isFirst : Bool) (nodes : List Node) :
    Nat → Anchors → List Token → Option (Node × Anchors × List Token)
  | 0, _, _ => none
  | fuel + 1, anchors, tokens =>
    let finish (tokens : List Token) := some (.mapping (pairUp nodes.reverse), anchors, tokens)
    let readEntry (tokens : List Token) :=
      match tokens with
      | .flowMappingEnd :: tokens => finish tokens
      | .key :: tokens =>
        match readUnless [.value, .flowEntry, .flowMappingEnd] false false fuel anchors tokens with
        | none => none
        | some (key, anchors, tokens) =>
          match readFlowValue .flowMappingEnd fuel anchors tokens with
          | none => none
          | some (value, anchors, tokens) =>
            readFlowMapping false (value :: key :: nodes) fuel anchors tokens
      | .value :: _ =>
        match readFlowValue .flowMappingEnd fuel anchors tokens with
        | none => none
        | some (value, anchors, tokens) =>
          readFlowMapping false (value :: .null :: nodes) fuel anchors tokens
      | tokens =>
        match read false false fuel anchors tokens with
        | none => none
        | some (key, anchors, tokens) =>
          readFlowMapping false (.null :: key :: nodes) fuel anchors tokens
    match tokens with
    | .flowMappingEnd :: tokens => finish tokens
    | .flowEntry :: rest => if isFirst then readEntry tokens else readEntry rest
    | tokens => if isFirst then readEntry tokens else none

/-- The items of a sequence between brackets. A key there makes a mapping of one entry. -/
def readFlowSequence (isFirst : Bool) (items : List Node) :
    Nat → Anchors → List Token → Option (Node × Anchors × List Token)
  | 0, _, _ => none
  | fuel + 1, anchors, tokens =>
    let finish (tokens : List Token) := some (.sequence items.reverse, anchors, tokens)
    let readItem (tokens : List Token) :=
      match tokens with
      | .flowSequenceEnd :: tokens => finish tokens
      | .key :: tokens =>
        let key :=
          if comesNext tokens [.value, .flowEntry, .flowSequenceEnd] then
            some (.null, anchors, tokens.drop 1)
          else read false false fuel anchors tokens
        match key with
        | none => none
        | some (key, anchors, tokens) =>
          match readFlowValue .flowSequenceEnd fuel anchors tokens with
          | none => none
          | some (value, anchors, tokens) =>
            readFlowSequence false (.mapping (pairUp [key, value]) :: items) fuel anchors tokens
      | tokens =>
        match read false false fuel anchors tokens with
        | none => none
        | some (item, anchors, tokens) =>
          readFlowSequence false (item :: items) fuel anchors tokens
    match tokens with
    | .flowSequenceEnd :: tokens => finish tokens
    | .flowEntry :: rest => if isFirst then readItem tokens else readItem rest
    | tokens => if isFirst then readItem tokens else none

end

end Node

end PhasedLifecycle.Yaml
