/-
This file says that the reader of settings keeps to what is documented of a library of layered
configuration. Whatever an entry lays over a tree adds in one way to what is read under a key of a section,
whatever was read there before, as long as the entry keeps the section a table; so do the entries of a
source, one after another. A source that holds an empty table lays nothing over what is there.
-/

import PhasedLifecycle.Settings.TreeLibrary

namespace PhasedLifecycle

namespace Tree

/-! ### Keys that are set -/

theorem lookup_setEntry (key other : String) (value : Tree) (entries : List (String × Tree)) :
    (setEntry key value entries).lookup other =
      if other = key then some value else entries.lookup other := by
  induction entries with
  | nil =>
    rw [setEntry, List.lookup_cons]
    by_cases same : other = key
    · simp [same]
    · simp [same, beq_false_of_ne same]
  | cons entry entries inductionHypothesis =>
    obtain ⟨name, old⟩ := entry
    rw [setEntry]
    by_cases its : name = key
    · rw [if_pos its, its, List.lookup_cons, List.lookup_cons]
      by_cases same : other = key
      · simp [same]
      · simp [same, beq_false_of_ne same]
    · rw [if_neg its, List.lookup_cons, List.lookup_cons, inductionHypothesis]
      by_cases same : other = name
      · simp [same, its]
      · simp [beq_false_of_ne same]

theorem get?_set (tree : Tree) (key other : String) (value : Tree) :
    (tree.set key value).get? other = if other = key then some value else tree.get? other :=
  lookup_setEntry key other value tree.entries

/-- What comes to stand where a value is laid over another, if there is one. -/
def laid (old : Option Tree) : Tree → Tree
  | .table incoming => layAll (old.getD (.table [])) incoming
  | value => value

theorem lay_eq (tree : Tree) (key : String) (value : Tree) :
    tree.lay key value =
      tree.set (Text.lowerCase key) (laid (tree.get? (Text.lowerCase key)) value) := by
  cases value <;> rw [lay] <;> first | rfl | exact fun _ => nofun

theorem exists_set (tree : Tree) (key : String) (value : Tree) :
    ∃ entry entries, tree.set key value = .table (entry :: entries) := by
  unfold set
  cases tree.entries with
  | nil => exact ⟨_, _, rfl⟩
  | cons entry entries =>
    rw [setEntry]
    split <;> exact ⟨_, _, rfl⟩

/-- Laying entries over something makes a table that has some. -/
theorem exists_layAll (tree : Tree) (entry : String × Tree) (entries : List (String × Tree)) :
    ∃ first rest, tree.layAll (entry :: entries) = .table (first :: rest) := by
  induction entries generalizing tree entry with
  | nil =>
    rw [layAll, layAll, lay_eq]
    exact exists_set _ _ _
  | cons next entries inductionHypothesis =>
    rw [layAll]
    exact inductionHypothesis _ next

/-! ### What is read off a value -/

theorem reading_of_ne_empty {value : Tree} (filled : value ≠ .table []) :
    treeLibrary.reading (some value) = .value value.word? := by
  rcases value with _ | _ | _ | _ | _ | _ | ⟨_ | _⟩ <;> first | rfl | exact absurd rfl filled

/-- Following a path makes a table that has some entries, or a list. -/
theorem reading_layAlong (value : Tree) (step : Step) (steps : List Step) (tree : Tree) :
    treeLibrary.reading (some (layAlong value (step :: steps) tree)) = .value none := by
  cases step with
  | place index => rfl
  | key name =>
    cases steps with
    | nil =>
      rw [layAlong, lay_eq]
      obtain ⟨entry, entries, made⟩ := tree.exists_set (Text.lowerCase name)
        (laid (tree.get? (Text.lowerCase name)) value)
      rw [made]
      rfl
    | cons next steps =>
      rw [layAlong]
      · obtain ⟨entry, entries, made⟩ := tree.exists_set (Text.lowerCase name)
          (layAlong value (next :: steps) ((tree.get? (Text.lowerCase name)).getD .nothing))
        rw [made]
        rfl
      · exact nofun

/-- What is laid over a value is read over what is read off the value. -/
theorem reading_laid (old : Option Tree) (value : Tree) :
    treeLibrary.reading (some (laid old value)) =
      (treeLibrary.reading (some value)).atop (treeLibrary.reading old) := by
  cases value with
  | table incoming =>
    cases incoming with
    | nil =>
      rw [laid, layAll]
      cases old with
      | none => rfl
      | some old =>
        rw [Option.getD_some]
        by_cases empty : old = .table []
        · rw [empty]
          rfl
        · rw [reading_of_ne_empty empty]
          rfl
    | cons entry entries =>
      obtain ⟨first, rest, made⟩ := (old.getD (.table [])).exists_layAll entry entries
      rw [laid, made]
      rfl
  | _ => rfl

/-! ### Changes of trees -/

/-- A change of trees adds in one way to what is read off a view of them, whatever was read before. -/
def Adds (view : Tree → Option Tree) (change : Tree → Tree) : Prop :=
  ∃ added : Reading, ∀ tree,
    treeLibrary.reading (view (change tree)) = added.atop (treeLibrary.reading (view tree))

variable {view : Tree → Option Tree}

theorem Adds.of_keeps {change : Tree → Tree} (keeps : ∀ tree, view (change tree) = view tree) :
    Adds view change :=
  ⟨.absent, fun tree => by rw [keeps]; rfl⟩

theorem Adds.of_replaces {change : Tree → Tree} (word : Option Nat)
    (replaces : ∀ tree, treeLibrary.reading (view (change tree)) = .value word) : Adds view change :=
  ⟨.value word, replaces⟩

/-- Changes one after the other add what they add together. -/
theorem Adds.foldl {Entry : Type} {change : Tree → Entry → Tree} {entries : List Entry}
    (adds : ∀ entry ∈ entries, Adds view (change · entry)) :
    Adds view (entries.foldl change ·) := by
  induction entries with
  | nil => exact .of_keeps fun _ => rfl
  | cons entry entries inductionHypothesis =>
    obtain ⟨first, now⟩ := adds entry List.mem_cons_self
    obtain ⟨last, later⟩ :=
      inductionHypothesis fun other there => adds other (List.mem_cons_of_mem _ there)
    refine ⟨last.atop first, fun tree => ?_⟩
    dsimp only at now later ⊢
    rw [List.foldl_cons, later, now, Reading.atop_assoc]

theorem layAll_eq_foldl (tree : Tree) (entries : List (String × Tree)) :
    tree.layAll entries = entries.foldl (fun tree entry => tree.lay entry.1 entry.2) tree := by
  induction entries generalizing tree with
  | nil => rfl
  | cons entry entries inductionHypothesis =>
    rw [layAll, inductionHypothesis]
    rfl

/-- To lay a value over a key adds what is read off the value under this key, and nothing under another. -/
theorem adds_lay (key name : String) (value : Tree) : Adds (·.get? key) (·.lay name value) := by
  by_cases same : key = Text.lowerCase name
  · refine ⟨treeLibrary.reading (some value), fun tree => ?_⟩
    dsimp only
    rw [lay_eq, get?_set, if_pos same, reading_laid, same]
  · refine .of_keeps fun tree => ?_
    rw [lay_eq, get?_set, if_neg same]

theorem adds_layAll (key : String) (entries : List (String × Tree)) :
    Adds (·.get? key) (·.layAll entries) := by
  have one : ∀ entry ∈ entries,
      Adds (·.get? key) fun tree => tree.lay entry.1 entry.2 :=
    fun entry _ => adds_lay key entry.1 entry.2
  obtain ⟨added, adds⟩ := Adds.foldl one
  refine ⟨added, fun tree => ?_⟩
  dsimp only
  rw [layAll_eq_foldl]
  exact adds tree

/-- To follow a path from a key adds under this key, and nothing under another. -/
theorem adds_layAlong (key name : String) (steps : List Step) (value : Tree) :
    Adds (·.get? key) (layAlong value (.key name :: steps)) := by
  cases steps with
  | nil => exact adds_lay key name value
  | cons step steps =>
    have follows : ∀ tree, layAlong value (.key name :: step :: steps) tree =
        tree.set (Text.lowerCase name) (layAlong value (step :: steps)
          ((tree.get? (Text.lowerCase name)).getD .nothing)) := fun tree => by
      rw [layAlong]
      exact nofun
    by_cases same : key = Text.lowerCase name
    · refine .of_replaces none fun tree => ?_
      rw [follows, get?_set, if_pos same, reading_layAlong]
    · refine .of_keeps fun tree => ?_
      rw [follows, get?_set, if_neg same]

/-! ### The section of a tree -/

section

variable (tree : Tree) {name key : String} (value : Tree)

/-- What stands in the place of a section after an entry was laid there. -/
theorem get?_layAt_of_nil (own : Text.lowerCase (Path.of key).first = name)
    (bare : (Path.of key).steps = []) :
    (tree.layAt key value).get? name = some (laid (tree.get? name) value) := by
  rw [layAt, bare, layAlong, lay_eq, get?_set, own, if_pos rfl]

theorem get?_layAt_of_cons {step : Step} {steps : List Step}
    (own : Text.lowerCase (Path.of key).first = name) (path : (Path.of key).steps = step :: steps) :
    (tree.layAt key value).get? name =
      some (layAlong value (step :: steps) ((tree.get? name).getD .nothing)) := by
  rw [layAt, path, layAlong]
  · rw [get?_set, own, if_pos rfl]
  · exact nofun

theorem get?_layAt_of_ne (foreign : ¬ Text.lowerCase (Path.of key).first = name) :
    (tree.layAt key value).get? name = tree.get? name := by
  rw [layAt]
  cases (Path.of key).steps with
  | nil => rw [layAlong, lay_eq, get?_set, if_neg (Ne.symm foreign)]
  | cons step steps =>
    rw [layAlong]
    · rw [get?_set, if_neg (Ne.symm foreign)]
    · exact nofun

end

/-- A section that is not there has as little in it as an empty one. -/
theorem valueAt_eq (tree start : Tree) (name key : String) (empty : start.get? key = none) :
    treeLibrary.valueAt tree name key = ((tree.get? name).getD start).get? key := by
  unfold ConfigLibrary.valueAt
  change (tree.get? name).bind (·.get? key) = _
  cases tree.get? name with
  | none => exact empty.symm
  | some table => rfl

theorem KeepsTable.adds {name : String} {entry : String × Tree} (keeps : KeepsTable name entry)
    (key : String) : Adds (treeLibrary.valueAt · name key) (·.layAt entry.1 entry.2) := by
  by_cases own : Text.lowerCase (Path.of entry.1).first = name
  · rcases keeps own with ⟨bare, incoming, table⟩ | ⟨next, steps, path⟩
    · obtain ⟨added, adds⟩ := adds_layAll key incoming
      refine ⟨added, fun tree => ?_⟩
      dsimp only at adds ⊢
      rw [valueAt_eq tree (.table []) name key rfl, ← adds,
        valueAt_eq (tree.layAt entry.1 entry.2) (.table []) name key rfl,
        tree.get?_layAt_of_nil entry.2 own bare, table]
      rfl
    · obtain ⟨added, adds⟩ := adds_layAlong key next steps entry.2
      refine ⟨added, fun tree => ?_⟩
      dsimp only at adds ⊢
      rw [valueAt_eq tree .nothing name key rfl, ← adds,
        valueAt_eq (tree.layAt entry.1 entry.2) .nothing name key rfl,
        tree.get?_layAt_of_cons entry.2 own path]
      rfl
  · refine .of_keeps fun tree => ?_
    rw [valueAt_eq _ .nothing name key rfl, tree.get?_layAt_of_ne entry.2 own,
      ← valueAt_eq _ .nothing name key rfl]

theorem isSome_keys?_iff (tree : Tree) : tree.keys?.isSome = true ↔ ∃ entries, tree = .table entries := by
  cases tree <;> simp [keys?]

theorem KeepsTable.hasTable {name : String} {entry : String × Tree} (keeps : KeepsTable name entry)
    {tree : Tree} (before : treeLibrary.HasTable tree name) :
    treeLibrary.HasTable (tree.layAt entry.1 entry.2) name := by
  intro content found
  change (tree.layAt entry.1 entry.2).get? name = some content at found
  refine (isSome_keys?_iff content).mpr ?_
  by_cases own : Text.lowerCase (Path.of entry.1).first = name
  · rcases keeps own with ⟨bare, incoming, table⟩ | ⟨next, steps, path⟩
    · rw [tree.get?_layAt_of_nil entry.2 own bare, table, laid] at found
      obtain rfl := Option.some.inj found
      cases incoming with
      | nil =>
        rw [layAll]
        cases there : tree.get? name with
        | none => exact ⟨[], rfl⟩
        | some old => exact (isSome_keys?_iff old).mp (before old there)
      | cons first rest =>
        obtain ⟨made, others, same⟩ := exists_layAll ((tree.get? name).getD (.table [])) first rest
        exact ⟨_, same⟩
    · rw [tree.get?_layAt_of_cons entry.2 own path] at found
      obtain rfl := Option.some.inj found
      cases steps with
      | nil =>
        rw [layAlong, lay_eq]
        exact ⟨_, rfl⟩
      | cons step steps =>
        rw [layAlong]
        · exact ⟨_, rfl⟩
        · exact nofun
  · rw [tree.get?_layAt_of_ne entry.2 own] at found
    exact (isSome_keys?_iff content).mp (before content found)

/-! ### Sources laid over a tree -/

section

variable {name : String} {entries : List (String × Tree)}
  (keeps : ∀ entry ∈ entries, KeepsTable name entry)

include keeps

theorem hasTable_layEntries {tree : Tree} (before : treeLibrary.HasTable tree name) :
    treeLibrary.HasTable (tree.layEntries entries) name := by
  induction entries generalizing tree with
  | nil => exact before
  | cons entry entries inductionHypothesis =>
    exact inductionHypothesis (fun other there => keeps other (List.mem_cons_of_mem _ there))
      ((keeps entry List.mem_cons_self).hasTable before)

/-- What a source lays over a tree is read over what is read off the tree. -/
theorem readingAt_layEntries (tree : Tree) (key : String) :
    treeLibrary.readingAt (tree.layEntries entries) name key =
      (treeLibrary.readingAt (layEntries (.table []) entries) name key).atop
        (treeLibrary.readingAt tree name key) := by
  have one : ∀ entry ∈ entries,
      Adds (treeLibrary.valueAt · name key) fun tree => tree.layAt entry.1 entry.2 :=
    fun entry there => (keeps entry there).adds key
  obtain ⟨added, adds⟩ := Adds.foldl one
  have alone : treeLibrary.readingAt (layEntries (.table []) entries) name key = added :=
    (adds (.table [])).trans (Reading.atop_absent added)
  rw [alone]
  exact adds tree

end

end Tree

/-! ### Reading sources -/

section

variable {contentOf? : String → Option String} {environment : List (String × String)}

theorem entriesOfFile_of_missing {path : String}
    (missing : ∀ variant ∈ variantsOf path, contentOf? variant = none) :
    entriesOfFile contentOf? path = .ok [] := by
  have nowhere : findFile? contentOf? path = none := by
    rw [findFile?, missing path List.mem_cons_self]
    refine List.findSome?_eq_none_iff.mpr fun ⟨extension, format⟩ there => ?_
    cases variant : addExtension? path extension with
    | none => simp [variant]
    | some other =>
      have looked : other ∈ variantsOf path :=
        List.mem_cons_of_mem _ (List.mem_filterMap.mpr ⟨_, there, variant⟩)
      simp [variant, missing other looked]
  rw [entriesOfFile, nowhere]

theorem laySources_of_error {sources : List ConfigSource} {source : ConfigSource} {detail : String}
    (there : source ∈ sources) (fails : entriesOf contentOf? environment source = .error detail)
    (tree : Tree) : ∃ detail, laySources contentOf? environment tree sources = .error detail := by
  induction sources generalizing tree with
  | nil => exact absurd there List.not_mem_nil
  | cons first sources inductionHypothesis =>
    rw [laySources]
    cases read : entriesOf contentOf? environment first with
    | error detail => exact ⟨detail, rfl⟩
    | ok entries =>
      refine inductionHypothesis ((List.mem_cons.mp there).resolve_left fun same => ?_) _
      rw [← same, fails] at read
      cases read

theorem laySources_of_ok {sources : List ConfigSource} {read : List (List (String × Tree))}
    (reads : sources.map (entriesOf contentOf? environment) = read.map .ok) (tree : Tree) :
    laySources contentOf? environment tree sources = .ok (read.foldl Tree.layEntries tree) := by
  induction sources generalizing read tree with
  | nil =>
    obtain rfl := List.map_eq_nil_iff.mp reads.symm
    rfl
  | cons source sources inductionHypothesis =>
    cases read with
    | nil => cases reads
    | cons entries read =>
      obtain ⟨first, rest⟩ := List.cons.inj reads
      rw [laySources, first]
      exact inductionHypothesis rest (tree.layEntries entries)

end

/-! ### Settings in a section -/

namespace Settings

variable {tree content : Tree} {name : String}

theorem inSection_eq_ok {settings : Settings} (found : tree.get? name = some content)
    (chosen : ofTree? content = some settings) : inSection tree name = .ok settings := by
  rw [inSection, found]
  dsimp only
  rw [chosen]

theorem exists_inSection_eq_error (found : tree.get? name = some content)
    (refused : ofTree? content = none) :
    ∃ detail, inSection tree name = .error (.unreadable detail) := by
  rw [inSection, found]
  dsimp only
  rw [refused]
  exact ⟨_, rfl⟩

end Settings

/-! ### What is documented -/

theorem holdsNothing_nil : treeLibrary.HoldsNothing [] :=
  ⟨fun _ _ there => absurd there List.not_mem_nil, fun _ => rfl⟩

/-- The reader of settings does what is documented of a library. -/
theorem isDocumented_treeLibrary : treeLibrary.IsDocumented where
  missing := fun _ _ missing => ⟨[], entriesOfFile_of_missing missing, holdsNothing_nil⟩
  unset := fun _ => ⟨[], rfl, holdsNothing_nil⟩
  fails := fun _ _ _ _ _ there fails => laySources_of_error there fails (.table [])
  inOrder := fun _ _ _ _ reads => laySources_of_ok reads (.table [])
  empty := fun _ => rfl
  tables := fun _ _ _ keeps before => Tree.hasTable_layEntries keeps before
  keeps := fun value _ _ key keeps alone =>
    (Tree.readingAt_layEntries keeps value key).trans (congrArg (Reading.atop · _) alone)
  replaces := fun value _ _ key _ keeps alone =>
    (Tree.readingAt_layEntries keeps value key).trans (congrArg (Reading.atop · _) alone)
  keyless := fun value _ _ key keeps alone =>
    (Tree.readingAt_layEntries keeps value key).trans
      ((congrArg (Reading.atop · _) alone).trans (Reading.emptyTable_atop _))
  unconverted := fun value table => by
    obtain ⟨entries, rfl⟩ := (Tree.isSome_keys?_iff value).mp table
    rfl
  notFound := fun tree name nowhere => by
    change Settings.inSection tree name = _
    rw [Settings.inSection, show tree.get? name = none from nowhere]
  byDefault := fun tree name content found table unset => by
    obtain ⟨entries, rfl⟩ := (Tree.isSome_keys?_iff content).mp table
    exact Settings.inSection_eq_ok found (congrArg Settings.ofTimeout? unset)
  converted := fun tree name content timeout word found table set converts => by
    obtain ⟨entries, rfl⟩ := (Tree.isSome_keys?_iff content).mp table
    have chosen : Settings.ofTimeout? (some timeout) = some { timeout := word } := by
      rw [Settings.ofTimeout?, show timeout.word? = some word from converts]
      rfl
    exact Settings.inSection_eq_ok found ((congrArg Settings.ofTimeout? set).trans chosen)
  unreadable := fun tree name content timeout found table set fails => by
    obtain ⟨entries, rfl⟩ := (Tree.isSome_keys?_iff content).mp table
    have refused : Settings.ofTimeout? (some timeout) = none := by
      rw [Settings.ofTimeout?, show timeout.word? = none from fails]
      rfl
    exact Settings.exists_inSection_eq_error found ((congrArg Settings.ofTimeout? set).trans refused)

instance decidableKeepsTable (contents : treeLibrary.Contents) (name : String) :
    Decidable (treeLibrary.KeepsTable contents name) :=
  inferInstanceAs (Decidable (∀ entry ∈ contents, Tree.KeepsTable name entry))

end PhasedLifecycle
