import SchemaAtlas.Settings.Basic

/-! # Logging

The configuration of log output that belongs to settings: a console always, with one record a line
in production, and a rotating file unless the environment is a test.
-/

namespace SchemaAtlas.Settings

open Document

/-- The time stamp of human-readable records. -/
def stampFormat : String := "%Y-%m-%d %H:%M:%S"

/-- A human-readable format. -/
def readableFormat (format : String) : Value :=
  .dict (Entries.named [("format", .text format), ("datefmt", .text stampFormat)])

/-- The formats of log records. -/
def formatters : Entries :=
  Entries.named
    [("standard", readableFormat "%(asctime)s [%(levelname)s] %(name)s: %(message)s"),
      ("detailed", readableFormat "%(asctime)s [%(levelname)s] %(name)s:%(lineno)d: %(message)s"),
      ("json", .dict (Entries.named [("()", .text "pythonjsonlogger.json.JsonFormatter"),
        ("format", .text "%(asctime)s %(name)s %(levelname)s %(message)s")]))]

/-- Output to the console. -/
def consoleHandler (settings : Settings) : Value :=
  .dict (Entries.named [("class", .text "logging.StreamHandler"), ("level", .text settings.logLevel),
    ("formatter", .text (if settings.environment = "production" then "json" else "standard")),
    ("stream", .text "stderr")])

/-- Output to a file that is replaced when it has grown to ten mebibytes. -/
def fileHandler (settings : Settings) (path : String) : Value :=
  .dict (Entries.named [("class", .text "logging.handlers.RotatingFileHandler"),
    ("level", .text settings.logLevel), ("formatter", .text "detailed"), ("filename", .text path),
    ("maxBytes", .int 10485760), ("backupCount", .int 5)])

/-- The outputs of a log by name. -/
def handlers (settings : Settings) : List (String × Value) :=
  ("console", consoleHandler settings) ::
    match settings.logFile with
    | some path => if settings.environment = "testing" then [] else [("file", fileHandler settings path)]
    | none => []

/-- The configuration of log output. -/
def logging (settings : Settings) : Entries :=
  let root := Value.dict (Entries.named [("level", .text settings.logLevel),
    ("handlers", .list (settings.handlers.map fun handler => .text handler.1)),
    ("propagate", .bool false)])
  Entries.named [("version", .int 1), ("disable_existing_loggers", .bool false),
    ("formatters", .dict formatters), ("handlers", .dict (Entries.named settings.handlers)),
    ("loggers", .dict (Entries.named [("", root)]))]

end SchemaAtlas.Settings
