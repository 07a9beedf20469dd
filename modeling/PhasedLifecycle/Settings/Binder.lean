/-
This file binds settings. A binder knows its sources: files in an order, and then the variables of the
environment, which come last. A library reads and merges them; the binder takes the settings out of their
section, the default if there is no such section, and checks them.
-/

import PhasedLifecycle.Blueprint
import PhasedLifecycle.Folder
import PhasedLifecycle.Settings.Library

namespace PhasedLifecycle.Settings

/-- Where to look for settings: the fields of a `LifecyclePropertiesBinder`. -/
structure Sources where
  /-- The folder that the paths of files begin at. -/
  base : String := "."
  /-- The files, without their extensions, in the order in which they are read. -/
  files : List String := ["config/app", "config/local"]
  /-- The mark that the names of variables begin with. -/
  mark : String := "ADSP"

namespace Sources

/-- Sources with one more file, read after those before. -/
def withFile (sources : Sources) (file : String) : Sources :=
  { sources with files := sources.files ++ [file] }

/-- The paths of the files. -/
def paths (sources : Sources) : List String :=
  sources.files.map (joinPaths sources.base)

/-- The sources in the order in which they are added. -/
def added (sources : Sources) : List ConfigSource :=
  sources.paths.map .file ++ [.variables sources.mark]

/-- Takes what was found in the section, not yet checked, with what there is to report about it. -/
def choose : Except LookupError Settings → SettingsSource
  | .ok settings => { outcome := .ok settings }
  | .error .notFound => { outcome := .ok {}, notices := [.sectionMissing sectionName] }
  | .error (.unreadable detail) =>
    { outcome := .error (.unreadable detail), notices := [.sectionUnreadable sectionName detail] }

/-- Checks settings, and reports those that pass. -/
def check (source : SettingsSource) : SettingsSource :=
  match source.outcome with
  | .error _ => source
  | .ok settings =>
    match settings.validate with
    | .error error => { source with outcome := .error error }
    | .ok () =>
      { source with notices := source.notices ++ [.settingsBound settings.timeout] }

/-- Obtains the settings from the sources by means of a library: the binder's `bind`. -/
def bindWith (library : ConfigLibrary) (sources : Sources) (contentOf? : String → Option String)
    (environment : List (String × String)) : SettingsSource :=
  let added := sources.paths.map Notice.sourceAdded
  let rest : SettingsSource := match library.build contentOf? environment sources.added with
    | .error detail =>
      { outcome := .error (.unreadable detail), notices := [.sourcesUnreadable detail] }
    | .ok built => check (choose (library.settings built sectionName))
  { rest with notices := added ++ rest.notices }

end Sources

end PhasedLifecycle.Settings
