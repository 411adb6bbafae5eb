import HadithService.Http.Sharing
import HadithService.Log.Filter
import HadithService.Settings.Environment
import HadithService.Settings.Format

/-!
# The program

The program takes its settings from the environment, says in its log what they are and whether
something is wrong with them, serves until it is told to stop, and says so.  It does not start
with settings that cannot be used.
-/

namespace HadithService.Program

/-- The part of the program that starts and stops it. -/
def mainTarget : String := "bayyinah_hub"

/-- The part of the program that answers requests. -/
def apiTarget : String := "api"

/-- News of the part that starts and stops the program. -/
def news (message : String) : Log.Entry :=
  ⟨.info, mainTarget, message, []⟩

/-- What is said about the pages that may see answers. -/
def sharingEntries : Http.Sharing → List Log.Entry
  | .anyone => []
  | .unusable origin =>
    [⟨.warn, apiTarget, "Unusable CORS origin, allowing any", [("origin", origin)]⟩]
  | .restricted origin => [⟨.info, apiTarget, "CORS restricted", [("origin", origin)]⟩]

/-- What is said about the settings when the program starts. -/
def startEntries (s : Settings) : List Log.Entry :=
  s.warnings.map (fun warning => ⟨.warn, mainTarget, warning, []⟩)
  ++ [⟨.info, mainTarget, "Loaded configuration", [("config", s.toJson.render)]⟩]
  ++ sharingEntries (.ofBase s.server.publicBase)

/-- The address on which the program listens. -/
def address (s : Settings) : String :=
  "0.0.0.0:" ++ toString s.server.port.toNat

/-- What is said when requests can come. -/
def listening (s : Settings) : Log.Entry :=
  news ("Server listening on http://" ++ address s)

/-- What is said when no more requests are taken. -/
def stopping : Log.Entry :=
  news "Shutting down gracefully, draining in-flight requests..."

/-- What is said when all requests are answered. -/
def stopped : Log.Entry :=
  news "Server stopped"

/-- The log of a run without requests. -/
def quietRun (s : Settings) : List Log.Entry :=
  startEntries s ++ [listening s, stopping, stopped]

/-- The variable that holds the filter of the log. -/
def filterVariable : String := "RUST_LOG"

/-- What the program says when it cannot start. -/
def complaint (message cause : String) : String :=
  "Error: " ++ message ++ "\n\nCaused by:\n    " ++ cause ++ "\n"

/-- What the program says when its settings cannot be used. -/
def settingComplaint (e : SettingError) : String :=
  complaint e.message e.cause.message

/-- A way to run: the settings, and the filter of the log. -/
structure Setup where
  settings : Settings
  filter : Log.Filter

/-- The way to run in an environment. -/
def setup (lookup : String → Option String) : Except SettingError Setup :=
  (Settings.ofEnvironment lookup).map fun settings =>
    ⟨settings, Log.Filter.ofVariable (lookup filterVariable)⟩

/-- Those of some entries that are logged. -/
def Setup.logged (s : Setup) (entries : List Log.Entry) : List Log.Entry :=
  entries.filter s.filter.passes

/-- An entry as it is written. -/
def Setup.line (s : Setup) (e : Log.Entry) : String :=
  if s.settings.server.jsonLogs then e.toJson.render else e.text

end HadithService.Program
