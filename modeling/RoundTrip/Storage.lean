import RoundTrip.Files.Content
import RoundTrip.Format.Report
import RoundTrip.Format.Settings
import RoundTrip.Json.Reader

/-!
# Settings and reports in files

Settings are read from a file and checked. A report is written to a file, and the directories that
it lies in are made first; a report that has no text leaves the file as it was.
-/

namespace RoundTrip

/-- The settings in a file. -/
def Settings.load (files : FileTree) (path : Path) : Attempt Settings := do
  match files.readText path with
  | .error reason => .error (.settingsUnreadable path reason)
  | .ok text =>
    match (Json.ofText? text).bind ofJson? with
    | none => .error (.json .malformed)
    | some settings =>
      settings.check
      .ok settings

namespace Report

/-- Makes the directories that a path lies in. -/
def makeRoom (files : FileTree) (path : Path) : FileTree.Attempted :=
  match path.parent? with
  | some parent => if parent.isEmpty then (files, .ok ()) else files.makeDirs parent
  | none => (files, .ok ())

/-- Writes a report to a file: the files behind it, and whether it succeeded. -/
def save (r : Report) (path : Path) (files : FileTree) : FileTree × Attempt Unit :=
  match makeRoom files path with
  | (files, .error reason) => (files, .error (.io reason))
  | (files, .ok ()) =>
    match r.pretty? with
    | none => (files, .error (.json .pathNotText))
    | some text =>
      match files.write path (Utf8.encode text) with
      | .error reason => (files, .error (.io reason))
      | .ok files => (files, .ok ())

end Report

end RoundTrip
