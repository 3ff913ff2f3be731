/-
This file finds the settings of a run. A path that is given names the only file that is looked at,
and it has to be there. Without one the per-user file is read if it is a regular file, and there are
no settings if it is not.
-/

import SerialFeed.History
import SerialFeed.Host
import SerialFeed.Settings.Reader

namespace SerialFeed

/-- Why settings could not be had. -/
inductive SettingsError where
  | unreadable (path : String) (fault : Fault)
  | malformed (path : String) (complaint : Json.Complaint)

namespace SettingsError

def message : SettingsError → String
  | unreadable path _ => s!"reading settings from {path}"
  | malformed path _ => s!"parsing settings in {path}"

/-- The messages of what lies underneath. -/
def causes : SettingsError → List String
  | unreadable _ fault => [fault.message]
  | malformed _ complaint => [complaint.message]

end SettingsError

/-- The path of the per-user settings file. -/
def Host.userFile? (host : Host) : Option String :=
  host.configHome.map fun home => Path.join (Path.join home "blocksend") "config.json"

namespace Settings

/-- Loads settings from a file. -/
def ofFile (host : Host) (path : String) : Except SettingsError Settings := do
  let text ← (host.readText path).mapError (.unreadable path)
  (ofText text).mapError (.malformed path)

/-- Settings that were found, and the file they come from, if they come from one. -/
structure Found where
  settings : Settings
  path : Option String

/-- Which file is consulted, if any is. -/
def consulted? (host : Host) (path : Option String) : Option String :=
  match path with
  | some path => some path
  | none => host.userFile?.filter host.isFile

/-- Loads the settings of a run. -/
def load (host : Host) (path : Option String) : Except SettingsError Found :=
  match consulted? host path with
  | none => .ok ⟨{}, none⟩
  | some path => do return ⟨← ofFile host path, some path⟩

/-- The record that settings were loaded. -/
def Found.history {Event : Type} (observer : Observer) (found : Found) : History Event :=
  match found.path with
  | none => []
  | some path => observer.note (.settingsLoaded path)

end Settings

end SerialFeed
