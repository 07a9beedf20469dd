/-
This file says how later sources of settings mask earlier ones. It takes any library that does what is
documented of one. What a source holds is merged in one way into what is read under the key of the timeout,
whatever was read there before; so what all sources make up together is what is read in them one by one,
the later over the earlier. A value that is no empty table is read over everything. An empty table is
merged key by key, and it has none; so it is passed over wherever something else was read.

This holds as long as each source keeps the section a table. Then what is read under the key of the timeout
is all that settings are made of. Only the words in which a library tells why it cannot read something are
its own.
-/

import PhasedLifecycle.Proofs.TreeLibrary

namespace PhasedLifecycle

/-! ### Sources merged one after another -/

namespace ConfigLibrary.IsDocumented

variable {library : ConfigLibrary} (documented : library.IsDocumented)

include documented

/-- What a source holds is read over what is read without it. -/
theorem readingAt_merge {contents : library.Contents} {name : String}
    (keeps : library.KeepsTable contents name) (value : library.Value) (key : String) :
    library.readingAt (library.merge value contents) name key =
      (library.readingAt (library.merge library.nothing contents) name key).atop
        (library.readingAt value name key) := by
  cases alone : library.readingAt (library.merge library.nothing contents) name key with
  | absent => exact documented.keeps value contents name key keeps alone
  | emptyTable =>
    rw [Reading.emptyTable_atop]
    exact documented.keyless value contents name key keeps alone
  | value word => exact documented.replaces value contents name key word keeps alone

/-- What is read in sources together is what is read in each, the later over the earlier. -/
theorem readingAt_foldl {sources : List library.Contents} {name : String}
    (keeps : ∀ contents ∈ sources, library.KeepsTable contents name) {value : library.Value}
    (table : library.HasTable value name) (key : String) :
    library.readingAt (sources.foldl library.merge value) name key =
        sources.foldl (fun read contents =>
          (library.readingAt (library.merge library.nothing contents) name key).atop read)
          (library.readingAt value name key) ∧
      library.HasTable (sources.foldl library.merge value) name := by
  induction sources generalizing value with
  | nil => exact ⟨rfl, table⟩
  | cons contents sources inductionHypothesis =>
    have own := keeps contents List.mem_cons_self
    rw [List.foldl_cons, List.foldl_cons, ← documented.readingAt_merge own]
    exact inductionHypothesis (fun other there => keeps other (List.mem_cons_of_mem _ there))
      (documented.tables value contents name own table)

theorem hasTable_nothing (name : String) : library.HasTable library.nothing name := by
  intro content found
  rw [documented.empty] at found
  cases found

theorem readingAt_nothing (name key : String) :
    library.readingAt library.nothing name key = .absent := by
  rw [readingAt, valueAt, documented.empty]
  rfl

/-- A value that converts to a number is no empty table. -/
theorem reading_some (value : library.Value) :
    library.reading (some value) = .emptyTable ∧ library.word? value = none ∨
      library.reading (some value) = .value (library.word? value) := by
  rw [reading]
  by_cases empty : library.keys? value = some []
  · rw [if_pos empty]
    exact .inl ⟨rfl, documented.unconverted value (by rw [empty]; rfl)⟩
  · rw [if_neg empty]
    exact .inr rfl

end ConfigLibrary.IsDocumented

namespace ConfigLibrary

variable {library : ConfigLibrary}

theorem reading_of_filled {value : library.Value} (filled : library.keys? value ≠ some []) :
    library.reading (some value) = .value (library.word? value) :=
  if_neg filled

theorem reading_of_empty {value : library.Value} (empty : library.keys? value = some []) :
    library.reading (some value) = .emptyTable :=
  if_pos empty

theorem reading_ne_value {value? : Option library.Value}
    (empty : ∀ value, value? = some value → library.keys? value = some []) (word : Option Nat) :
    library.reading value? ≠ .value word := by
  cases value? with
  | none => exact nofun
  | some value =>
    rw [reading_of_empty (empty value rfl)]
    exact nofun

end ConfigLibrary

/-! ### Settings from sources -/

namespace Settings

/-- What an attempt to obtain settings comes to, whatever the words in which it is told why something
cannot be read. -/
inductive Verdict where
  | unreadable
  | refused (rule : String)
  | bound (settings : Settings)
  deriving DecidableEq

/-- What an attempt to obtain settings comes to. -/
def verdict : Except ConfigError Settings → Verdict
  | .error (.unreadable _) => .unreadable
  | .error (.invalid rule) => .refused rule
  | .ok settings => .bound settings

/-- What comes of a timeout that converts to a number, or to none. -/
def ofWord : Option Nat → Verdict
  | none => .unreadable
  | some 0 => .refused rule
  | some timeout => .bound { timeout }

/-- What comes of what is read under the key of the timeout. -/
def ofReading : Reading → Verdict
  | .absent => .bound {}
  | .emptyTable => .unreadable
  | .value word => ofWord word

/-- Settings that are obtained have a positive timeout. -/
theorem positive_of_check {source : SettingsSource} {settings : Settings}
    (passed : (Sources.check source).outcome = .ok settings) : 0 < settings.timeout := by
  unfold Sources.check at passed
  cases outcome : source.outcome with
  | error error =>
    rw [outcome] at passed
    dsimp only at passed
    rw [outcome] at passed
    cases passed
  | ok chosen =>
    rw [outcome] at passed
    dsimp only at passed
    cases validated : chosen.validate with
    | error error =>
      rw [validated] at passed
      cases passed
    | ok =>
      rw [validated] at passed
      rw [← Except.ok.inj passed]
      exact (validate_eq_ok_iff chosen).mp validated

/-- Where the section is a table, settings are made of what is read under the key of the timeout. -/
theorem verdict_check_choose {library : ConfigLibrary} (documented : library.IsDocumented)
    {built : library.Value} (table : library.HasTable built sectionName) :
    verdict (Sources.check (Sources.choose (library.settings built sectionName))).outcome =
      ofReading (library.readingAt built sectionName timeoutKey) := by
  rw [ConfigLibrary.readingAt, ConfigLibrary.valueAt]
  cases found : library.get? built sectionName with
  | none =>
    rw [documented.notFound built sectionName found]
    rfl
  | some content =>
    have keyed := table content found
    rw [Option.bind_some]
    cases set : library.get? content timeoutKey with
    | none =>
      rw [documented.byDefault built sectionName content found keyed set]
      rfl
    | some timeout =>
      cases converts : library.word? timeout with
      | none =>
        obtain ⟨detail, fails⟩ :=
          documented.unreadable built sectionName content timeout found keyed set converts
        rw [fails]
        rcases documented.reading_some timeout with ⟨empty, -⟩ | filled
        · rw [empty]
          rfl
        · rw [filled, converts]
          rfl
      | some word =>
        rw [documented.converted built sectionName content timeout word found keyed set converts]
        rcases documented.reading_some timeout with ⟨-, fails⟩ | filled
        · rw [converts] at fails
          cases fails
        · rw [filled, converts]
          cases word <;> rfl

namespace Sources

/-- One of the sources: a file, or the variables of the environment. -/
inductive Layer where
  | file (name : String)
  | ofEnvironment
  deriving DecidableEq

section

variable (sources : Sources) (library : ConfigLibrary) (contentOf? : String → Option String)
  (environment : List (String × String))

/-- The sources in the order in which they are merged. -/
def layers : List Layer :=
  sources.files.map .file ++ [.ofEnvironment]

/-- What a library knows a source by. -/
def sourceOf : Layer → ConfigSource
  | .file name => .file (joinPaths sources.base name)
  | .ofEnvironment => .variables sources.mark

/-- What a library reads in a source. -/
def collected (layer : Layer) : Except String library.Contents :=
  library.collect contentOf? environment (sources.sourceOf layer)

/-- A source that is not there: no file at any path at which it may be found, or no variables. -/
def IsAbsent : Layer → Prop
  | .file name => ∀ variant ∈ library.variants (joinPaths sources.base name), contentOf? variant = none
  | .ofEnvironment => environment = []

/-- A source can be read and keeps the section a table. -/
def IsReadable (layer : Layer) : Prop :=
  ∃ contents, sources.collected library contentOf? environment layer = .ok contents ∧
    library.KeepsTable contents sectionName

instance decidableIsAbsent :
    ∀ layer, Decidable (sources.IsAbsent library contentOf? environment layer)
  | .file _ => inferInstanceAs (Decidable (∀ variant ∈ _, _))
  | .ofEnvironment => inferInstanceAs (Decidable (environment = []))

instance decidableIsReadable [∀ contents, Decidable (library.KeepsTable contents sectionName)]
    (layer : Layer) : Decidable (sources.IsReadable library contentOf? environment layer) :=
  match read : sources.collected library contentOf? environment layer with
  | .error _ => isFalse fun ⟨_, same, _⟩ => nomatch read.symm.trans same
  | .ok contents => decidable_of_iff (library.KeepsTable contents sectionName)
      ⟨fun keeps => ⟨contents, read, keeps⟩,
        fun ⟨_, same, keeps⟩ => Except.ok.inj (read.symm.trans same) ▸ keeps⟩

/-- The timeout that a source sets. -/
def timeoutIn (layer : Layer) : Option library.Value :=
  (sources.collected library contentOf? environment layer).toOption.bind fun contents =>
    library.valueAt (library.merge library.nothing contents) sectionName timeoutKey

/-- Obtains the settings from one of the sources alone. -/
def bindOnly : Layer → SettingsSource
  | .file name => { sources with files := [name] }.bindWith library contentOf? []
  | .ofEnvironment => { sources with files := [] }.bindWith library contentOf? environment

end

theorem added_eq (sources : Sources) : sources.added = sources.layers.map sources.sourceOf := by
  rw [added, layers, paths, List.map_append, List.map_map, List.map_map]
  rfl

/-! ### Reading all sources -/

section

variable {sources : Sources} {library : ConfigLibrary} {contentOf? : String → Option String}
  {environment : List (String × String)}

/-- What sources hold that can be read, one after another, and what is read in it. -/
theorem exists_collected_all {layers : List Layer}
    (readable : ∀ layer ∈ layers, sources.IsReadable library contentOf? environment layer) :
    ∃ held : List library.Contents,
      layers.map (sources.collected library contentOf? environment) = held.map .ok ∧
      (∀ contents ∈ held, library.KeepsTable contents sectionName) ∧
      ∀ before, held.foldl (fun read contents =>
          (library.readingAt (library.merge library.nothing contents) sectionName timeoutKey).atop read)
          before =
        layers.foldl (fun read layer =>
          (library.reading (sources.timeoutIn library contentOf? environment layer)).atop read)
          before := by
  induction layers with
  | nil => exact ⟨[], rfl, nofun, fun _ => rfl⟩
  | cons layer layers inductionHypothesis =>
    obtain ⟨contents, collects, keeps⟩ := readable layer List.mem_cons_self
    obtain ⟨held, collect, keep, same⟩ :=
      inductionHypothesis fun other there => readable other (List.mem_cons_of_mem _ there)
    have alone : library.readingAt (library.merge library.nothing contents) sectionName timeoutKey =
        library.reading (sources.timeoutIn library contentOf? environment layer) := by
      rw [timeoutIn, collects]
      rfl
    refine ⟨contents :: held, ?_, List.forall_mem_cons.mpr ⟨keeps, keep⟩, fun before => ?_⟩
    · rw [List.map_cons, List.map_cons, collects, collect]
    · rw [List.foldl_cons, List.foldl_cons, alone]
      exact same _

end

section

variable {sources : Sources} {library : ConfigLibrary} (documented : library.IsDocumented)
  {contentOf? : String → Option String} {environment : List (String × String)}

include documented

/-- A file that cannot be read makes it impossible to obtain settings. -/
theorem outcome_bindWith_of_malformed {name detail : String} (there : name ∈ sources.files)
    (malformed : sources.collected library contentOf? environment (.file name) = .error detail) :
    ∃ detail,
      (sources.bindWith library contentOf? environment).outcome = .error (.unreadable detail) := by
  have place : Layer.file name ∈ sources.layers :=
    List.mem_append_left _ (List.mem_map_of_mem there)
  have among : sources.sourceOf (.file name) ∈ sources.added := by
    rw [added_eq]
    exact List.mem_map_of_mem place
  obtain ⟨detail, fails⟩ := documented.fails contentOf? environment _ _ _ among malformed
  exact ⟨detail, by rw [bindWith, fails]⟩

/-- An absent source holds nothing. -/
theorem exists_collected_of_isAbsent {layer : Layer}
    (absent : sources.IsAbsent library contentOf? environment layer) :
    ∃ contents, sources.collected library contentOf? environment layer = .ok contents ∧
      library.HoldsNothing contents := by
  cases layer with
  | file name => exact documented.missing contentOf? _ absent
  | ofEnvironment =>
    obtain rfl : environment = [] := absent
    exact documented.unset sources.mark

theorem isReadable_of_isAbsent {layer : Layer}
    (absent : sources.IsAbsent library contentOf? environment layer) :
    sources.IsReadable library contentOf? environment layer := by
  obtain ⟨contents, read, keeps, -⟩ := exists_collected_of_isAbsent documented absent
  exact ⟨contents, read, keeps sectionName⟩

/-- An absent source sets no timeout. -/
theorem timeoutIn_of_isAbsent {layer : Layer}
    (absent : sources.IsAbsent library contentOf? environment layer) :
    sources.timeoutIn library contentOf? environment layer = none := by
  obtain ⟨contents, read, -, same⟩ := exists_collected_of_isAbsent documented absent
  rw [timeoutIn, read]
  change library.valueAt (library.merge library.nothing contents) sectionName timeoutKey = none
  rw [same, ConfigLibrary.valueAt, documented.empty]
  rfl

/-- Where all sources can be read, what is read in them, one over the other, makes the settings. -/
theorem verdict_bindWith
    (readable : ∀ layer ∈ sources.layers,
      sources.IsReadable library contentOf? environment layer) :
    verdict (sources.bindWith library contentOf? environment).outcome =
      ofReading (sources.layers.foldl (fun read layer =>
        (library.reading (sources.timeoutIn library contentOf? environment layer)).atop read)
          .absent) := by
  obtain ⟨held, collect, keep, same⟩ := exists_collected_all readable
  have built : library.build contentOf? environment sources.added =
      .ok (held.foldl library.merge library.nothing) := by
    refine documented.inOrder contentOf? environment _ held ?_
    rw [added_eq, List.map_map]
    exact collect
  obtain ⟨read, table⟩ :=
    documented.readingAt_foldl keep (documented.hasTable_nothing sectionName) timeoutKey
  rw [documented.readingAt_nothing, same] at read
  rw [← read, ← verdict_check_choose documented table, bindWith, built]

/-- A source alone makes the settings of what is read in it. -/
theorem verdict_bindOnly {layer : Layer}
    (readable : sources.IsReadable library contentOf? environment layer) :
    verdict (sources.bindOnly library contentOf? environment layer).outcome =
      ofReading (library.reading (sources.timeoutIn library contentOf? environment layer)) := by
  cases layer with
  | ofEnvironment =>
    have alone : ∀ other ∈ layers { sources with files := [] },
        IsReadable { sources with files := [] } library contentOf? environment other := by
      intro other there
      obtain rfl := List.mem_singleton.mp there
      exact readable
    exact (verdict_bindWith documented alone).trans (congrArg ofReading (Reading.atop_absent _))
  | file name =>
    have alone : ∀ other ∈ layers { sources with files := [name] },
        IsReadable { sources with files := [name] } library contentOf? [] other := by
      intro other there
      rcases List.mem_cons.mp there with rfl | there
      · exact readable
      · rw [List.mem_singleton.mp there]
        exact isReadable_of_isAbsent documented rfl
    have silent : timeoutIn { sources with files := [name] } library contentOf? [] .ofEnvironment = none :=
      timeoutIn_of_isAbsent documented rfl
    refine (verdict_bindWith documented alone).trans (congrArg ofReading ?_)
    change (library.reading (timeoutIn { sources with files := [name] } library contentOf? []
      .ofEnvironment)).atop (Reading.atop _ .absent) = _
    rw [silent, Reading.atop_absent]
    rfl

end

/-! ### Which source decides -/

/-- Where nothing but empty tables is read, what was read before stays. -/
theorem foldl_atop_of_quiet {readingOf : Layer → Reading} {layers : List Layer}
    (quiet : ∀ layer ∈ layers, ∀ word, readingOf layer ≠ .value word) (before : Reading) :
    layers.foldl (fun read layer => (readingOf layer).atop read) before =
      if ∃ layer ∈ layers, readingOf layer = .emptyTable then Reading.emptyTable.atop before
      else before := by
  induction layers generalizing before with
  | nil => exact (if_neg fun ⟨_, there, _⟩ => absurd there List.not_mem_nil).symm
  | cons layer layers inductionHypothesis =>
    rw [List.foldl_cons, inductionHypothesis fun other there =>
      quiet other (List.mem_cons_of_mem _ there)]
    cases own : readingOf layer with
    | absent =>
      have same : (∃ other ∈ layer :: layers, readingOf other = .emptyTable) ↔
          ∃ other ∈ layers, readingOf other = .emptyTable := by simp [own]
      rw [Reading.absent_atop]
      simp only [same]
    | emptyTable =>
      have there : ∃ other ∈ layer :: layers, readingOf other = .emptyTable :=
        ⟨layer, List.mem_cons_self, own⟩
      rw [if_pos there, ← Reading.atop_assoc]
      exact ite_self _
    | value word => exact absurd own (quiet layer List.mem_cons_self word)

section

variable {sources : Sources} {library : ConfigLibrary} (documented : library.IsDocumented)
  {contentOf? : String → Option String} {environment : List (String × String)}
  (readable : ∀ layer ∈ sources.layers,
    sources.IsReadable library contentOf? environment layer)

include documented readable

/-- The last source that sets the timeout to anything but an empty table decides. -/
theorem verdict_bindWith_of_last {earlier later : List Layer} {layer : Layer} {value : library.Value}
    (place : sources.layers = earlier ++ layer :: later)
    (sets : sources.timeoutIn library contentOf? environment layer = some value)
    (filled : library.keys? value ≠ some [])
    (quiet : ∀ other ∈ later, ∀ set,
      sources.timeoutIn library contentOf? environment other = some set → library.keys? set = some []) :
    verdict (sources.bindWith library contentOf? environment).outcome =
        verdict (sources.bindOnly library contentOf? environment layer).outcome ∧
      verdict (sources.bindWith library contentOf? environment).outcome =
        ofWord (library.word? value) := by
  have own : library.reading (sources.timeoutIn library contentOf? environment layer) =
      .value (library.word? value) := by
    rw [sets]
    exact ConfigLibrary.reading_of_filled filled
  have unread : ∀ other ∈ later, ∀ word,
      library.reading (sources.timeoutIn library contentOf? environment other) ≠ .value word :=
    fun other there => ConfigLibrary.reading_ne_value (quiet other there)
  have bound := verdict_bindWith documented readable
  have decides : ∀ before : Reading,
      (Reading.value (library.word? value)).atop before = .value (library.word? value) :=
    fun before => rfl
  rw [place, List.foldl_append, List.foldl_cons, foldl_atop_of_quiet unread, own, decides] at bound
  have decided : verdict (sources.bindWith library contentOf? environment).outcome =
      ofWord (library.word? value) := by
    rw [bound]
    split <;> rfl
  have there : layer ∈ sources.layers := place ▸ List.mem_append_right _ List.mem_cons_self
  refine ⟨?_, decided⟩
  rw [decided, verdict_bindOnly documented (readable layer there), own]
  rfl

/-- Where no source sets the timeout to anything but an empty table, it is the default, or cannot be read if
one of them sets it to an empty table. -/
theorem verdict_bindWith_of_quiet
    (quiet : ∀ layer ∈ sources.layers, ∀ set,
      sources.timeoutIn library contentOf? environment layer = some set → library.keys? set = some []) :
    ((∀ layer ∈ sources.layers, sources.timeoutIn library contentOf? environment layer = none) →
      verdict (sources.bindWith library contentOf? environment).outcome = .bound {}) ∧
    ∀ layer ∈ sources.layers, ∀ set,
      sources.timeoutIn library contentOf? environment layer = some set →
        verdict (sources.bindWith library contentOf? environment).outcome =
            verdict (sources.bindOnly library contentOf? environment layer).outcome ∧
          verdict (sources.bindWith library contentOf? environment).outcome = .unreadable := by
  rw [verdict_bindWith documented readable,
    foldl_atop_of_quiet fun layer there => ConfigLibrary.reading_ne_value (quiet layer there)]
  constructor
  · intro unset
    rw [if_neg]
    · rfl
    · rintro ⟨layer, there, empty⟩
      rw [unset layer there] at empty
      cases empty
  · intro layer there set sets
    have empty : library.reading (sources.timeoutIn library contentOf? environment layer) =
        .emptyTable := by
      rw [sets]
      exact ConfigLibrary.reading_of_empty (quiet layer there set sets)
    rw [if_pos ⟨layer, there, empty⟩, verdict_bindOnly documented (readable layer there), empty]
    exact ⟨rfl, rfl⟩

end

end Sources

end Settings

/-- Later sources of settings mask earlier ones, but for empty tables.

A file that cannot be read makes it impossible to obtain settings, whatever the other sources hold, and
settings that are obtained have a positive timeout. Where each source is absent or can be read and keeps the
section a table: the last source that sets the timeout to anything but an empty table decides, as if it
were the only one, and so the sources before it do not matter, whatever they set; its value is refused if
it is zero, and cannot be read if it converts to no number. An empty table replaces nothing: only if no
source sets the timeout to anything else does it count, and then it cannot be read. Where no source sets
the timeout, it is the default. -/
theorem later_sources_mask_earlier_ones (library : ConfigLibrary) (documented : library.IsDocumented)
    (sources : Settings.Sources) (contentOf? : String → Option String)
    (environment : List (String × String)) :
    (∀ name ∈ sources.files, ∀ detail,
      sources.collected library contentOf? environment (.file name) = .error detail →
      ∃ detail,
        (sources.bindWith library contentOf? environment).outcome = .error (.unreadable detail)) ∧
    (∀ settings, (sources.bindWith library contentOf? environment).outcome = .ok settings →
      0 < settings.timeout) ∧
    ((∀ layer ∈ sources.layers,
        sources.IsAbsent library contentOf? environment layer ∨
          sources.IsReadable library contentOf? environment layer) →
      (∀ earlier layer later value, sources.layers = earlier ++ layer :: later →
        sources.timeoutIn library contentOf? environment layer = some value →
        library.keys? value ≠ some [] →
        (∀ other ∈ later, ∀ set, sources.timeoutIn library contentOf? environment other = some set →
          library.keys? set = some []) →
        Settings.verdict (sources.bindWith library contentOf? environment).outcome =
            Settings.verdict (sources.bindOnly library contentOf? environment layer).outcome ∧
          Settings.verdict (sources.bindWith library contentOf? environment).outcome =
            Settings.ofWord (library.word? value)) ∧
      ((∀ layer ∈ sources.layers, sources.timeoutIn library contentOf? environment layer = none) →
        Settings.verdict (sources.bindWith library contentOf? environment).outcome = .bound {}) ∧
      ((∀ layer ∈ sources.layers, ∀ set,
          sources.timeoutIn library contentOf? environment layer = some set →
            library.keys? set = some []) →
        ∀ layer ∈ sources.layers, ∀ set,
          sources.timeoutIn library contentOf? environment layer = some set →
            Settings.verdict (sources.bindWith library contentOf? environment).outcome =
                Settings.verdict (sources.bindOnly library contentOf? environment layer).outcome ∧
              Settings.verdict (sources.bindWith library contentOf? environment).outcome =
                .unreadable)) := by
  refine ⟨fun name there detail malformed =>
    Settings.Sources.outcome_bindWith_of_malformed documented there malformed, fun settings bound => ?_,
    fun fit => ?_⟩
  · unfold Settings.Sources.bindWith at bound
    cases built : library.build contentOf? environment sources.added with
    | error detail =>
      rw [built] at bound
      cases bound
    | ok value =>
      rw [built] at bound
      exact Settings.positive_of_check bound
  · have readable : ∀ layer ∈ sources.layers,
        sources.IsReadable library contentOf? environment layer :=
      fun layer there => (fit layer there).elim
        (Settings.Sources.isReadable_of_isAbsent documented) id
    refine ⟨fun earlier layer later value place sets filled quiet =>
      Settings.Sources.verdict_bindWith_of_last documented readable place sets filled quiet,
      fun unset => ?_,
      fun quiet => (Settings.Sources.verdict_bindWith_of_quiet documented readable quiet).2⟩
    have quiet : ∀ layer ∈ sources.layers, ∀ set,
        sources.timeoutIn library contentOf? environment layer = some set →
          library.keys? set = some [] := by
      intro layer there set sets
      rw [unset layer there] at sets
      cases sets
    exact (Settings.Sources.verdict_bindWith_of_quiet documented readable quiet).1 unset

/-- A file with a timeout of zero, and one laid over it whose timeout is no count. -/
def zeroAndNever (path : String) : Option String :=
  match path with
  | "./config/app.toml" => some "[lifecycle]\ntimeout_per_shutdown_phase_ms = 0\n"
  | "./config/local.toml" => some "[lifecycle]\ntimeout_per_shutdown_phase_ms = \"never\"\n"
  | _ => none

/-- A variable with a timeout. -/
def hasty : List (String × String) :=
  [("ADSP__LIFECYCLE__TIMEOUT_PER_SHUTDOWN_PHASE_MS", "700")]

/-- A file that is torn off. -/
def torn (path : String) : Option String :=
  if path = "./config/local.toml" then some "[lifecycle" else none

theorem variable_masks_zero_and_never :
    Settings.verdict (({} : Settings.Sources).bind zeroAndNever hasty).outcome =
        Settings.verdict
          (({} : Settings.Sources).bindOnly treeLibrary zeroAndNever hasty .ofEnvironment).outcome ∧
      Settings.verdict (({} : Settings.Sources).bind zeroAndNever hasty).outcome =
        .bound { timeout := 700 } ∧
      ∃ detail, (({} : Settings.Sources).bind torn hasty).outcome = .error (.unreadable detail) := by
  obtain ⟨-, -, masks⟩ :=
    later_sources_mask_earlier_ones treeLibrary isDocumented_treeLibrary {} zeroAndNever hasty
  obtain ⟨decides, -⟩ := masks (by decide +kernel)
  have read : treeLibrary.reading (({} : Settings.Sources).timeoutIn treeLibrary zeroAndNever hasty
      .ofEnvironment) = .value (some 700) := by decide +kernel
  cases sets : ({} : Settings.Sources).timeoutIn treeLibrary zeroAndNever hasty .ofEnvironment with
  | none =>
    rw [sets] at read
    cases read
  | some value =>
    have filled : treeLibrary.keys? value ≠ some [] := by
      intro empty
      rw [sets, ConfigLibrary.reading_of_empty empty] at read
      cases read
    rw [sets, ConfigLibrary.reading_of_filled filled] at read
    obtain ⟨alone, outcome⟩ := decides [.file "config/app", .file "config/local"] .ofEnvironment []
      value rfl sets filled fun other there => absurd there List.not_mem_nil
    rw [Reading.value.inj read] at outcome
    refine ⟨alone, outcome, ?_⟩
    obtain ⟨malformed, -, -⟩ :=
      later_sources_mask_earlier_ones treeLibrary isDocumented_treeLibrary {} torn hasty
    have fails : (({} : Settings.Sources).collected treeLibrary torn hasty
        (.file "config/local")).isOk = false := by
      decide +kernel
    cases collected : ({} : Settings.Sources).collected treeLibrary torn hasty (.file "config/local") with
    | error detail => exact malformed "config/local" (by decide) detail collected
    | ok contents =>
      rw [collected] at fails
      cases fails

/-- A file with a timeout, and one laid over it whose timeout is an empty table. -/
def emptyOverFull (path : String) : Option String :=
  match path with
  | "./config/app.toml" => some "[lifecycle]\ntimeout_per_shutdown_phase_ms = 5000\n"
  | "./config/local.toml" => some "[lifecycle]\ntimeout_per_shutdown_phase_ms = \x7b\x7d\n"
  | _ => none

/-- The last source that sets the timeout sets it to an empty table, which could not be read alone; but
the timeout of an earlier source is taken. -/
theorem empty_table_masks_nothing :
    treeLibrary.IsDocumented ∧
    (∀ layer ∈ ({} : Settings.Sources).layers,
      ({} : Settings.Sources).IsAbsent treeLibrary emptyOverFull [] layer ∨
        ({} : Settings.Sources).IsReadable treeLibrary emptyOverFull [] layer) ∧
    ({} : Settings.Sources).layers =
      [.file "config/app"] ++ .file "config/local" :: [.ofEnvironment] ∧
    (({} : Settings.Sources).timeoutIn treeLibrary emptyOverFull [] (.file "config/local")).map
      treeLibrary.keys? = some (some []) ∧
    ({} : Settings.Sources).timeoutIn treeLibrary emptyOverFull [] .ofEnvironment = none ∧
    Settings.verdict (({} : Settings.Sources).bindOnly treeLibrary emptyOverFull []
      (.file "config/local")).outcome = .unreadable ∧
    Settings.verdict (({} : Settings.Sources).bind emptyOverFull []).outcome =
      .bound { timeout := 5000 } :=
  ⟨isDocumented_treeLibrary, by decide +kernel, rfl, by decide +kernel, rfl, by decide +kernel,
    by decide +kernel⟩

end PhasedLifecycle
