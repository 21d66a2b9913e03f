import SchemaAtlas.Dialect.Basic
import SchemaAtlas.FilePath
import SchemaAtlas.Json.Reader

/-! # Settings

Settings come from given values, then from the environment, then from defaults. Values of the wrong
kind, values outside a closed set and unknown names are refused together, by name.
-/

namespace SchemaAtlas

open Document

/-- The settings of a compiler. -/
structure Settings where
  appName : String := "DBDoc Compiler"
  appVersion : String := "1.0.0"
  environment : String := "development"
  logLevel : String := "INFO"
  logFile : Option String := none
  projectFallbackName : String := "unnamed_project"
  defaultDialects : List String := Dialect.all.map Dialect.name
  includeOverview : Bool := false
  strictRedeclarations : Bool := false
  generateDocs : Bool := true
  outputDir : String := "artifacts"
  deriving DecidableEq, Repr

namespace Settings

/-- Why settings are refused. -/
inductive Fault where
  | invalid (names : List String)
  | unreadableList
  | notIterable
  | notText
  deriving DecidableEq, Repr

/-- The names of all settings. -/
def names : List String :=
  ["app_name", "app_version", "environment", "log_level", "log_file", "project_fallback_name",
    "default_dialects", "erd_include_overview", "strict_redeclarations", "generate_docs",
    "output_dir"]

/-- The environments that exist. -/
def environments : List String := ["development", "testing", "production"]

/-- The log levels that exist. -/
def logLevels : List String := ["DEBUG", "INFO", "WARNING", "ERROR", "CRITICAL"]

/-- A text setting. -/
def readText : Value → Option String
  | .text s => some s
  | _ => none

/-- An environment, spelled exactly. -/
def readEnvironment (value : Value) : Option String :=
  (readText value).filter environments.contains

/-- A log level in any case. -/
def readLogLevel (value : Value) : Option String :=
  ((readText value).map Text.uppered).filter logLevels.contains

/-- A path. -/
def readPath (value : Value) : Option String := (readText value).map FilePath.normalized

/-- A path or null. -/
def readOptionalPath : Value → Option (Option String)
  | .null => some none
  | value => (readPath value).map some

/-- The words that say yes. -/
def yesWords : List String := ["1", "t", "true", "y", "yes", "on"]

/-- The words that say no. -/
def noWords : List String := ["0", "f", "false", "n", "no", "off"]

/-- A truth value, a word for one in any case, or one of the numbers one and zero. -/
def readSwitch : Value → Option Bool
  | .bool b => some b
  | .int n => if n = 1 then some true else if n = 0 then some false else none
  | .real x => match x.toInt? with
    | some n => if n = 1 then some true else if n = 0 then some false else none
    | none => none
  | .text s =>
      let word := s.map Char.toLower
      if yesWords.contains word then some true
      else if noWords.contains word then some false
      else none
  | _ => none

/-- The items of a list setting: of a text the parts between commas that are not blank. -/
def listItems : Value → Except Fault (List Value)
  | .text s => .ok (((Text.pieces ',' s).map Text.trimmed).filter (· != "") |>.map .text)
  | .list items => .ok items
  | .tuple items => .ok items
  | .set members => .ok (members.map .scalar)
  | .dict entries => .ok (entries.map fun entry => .scalar entry.1)
  | _ => .error .notIterable

/-- A text item in lower case. -/
def loweredItem : Value → Except Fault String
  | .text s => .ok (Text.lowered s)
  | _ => .error .notText

/-- A list of dialects, none when one of them is unknown. -/
def readDialects (value : Value) : Except Fault (Option (List String)) := do
  let items ← (← listItems value).mapM loweredItem
  return if items.all (Dialect.all.map Dialect.name).contains then some items else none

/-- A setting from the given values, or its default; a refused value leaves the name behind. -/
def pick {α : Type} (given : Entries) (name : String) (default : α) (read : Value → Option α) :
    StateM (List String) α := do
  match given.get? name with
  | none => return default
  | some value =>
      match read value with
      | some setting => return setting
      | none =>
          modify (name :: ·)
          return default

/-- Settings with everything that is given. -/
def assemble (given : Entries) (dialects : Option (List String)) : StateM (List String) Settings := do
  let base : Settings := {}
  let appName ← pick given "app_name" base.appName readText
  let appVersion ← pick given "app_version" base.appVersion readText
  let environment ← pick given "environment" base.environment readEnvironment
  let logLevel ← pick given "log_level" base.logLevel readLogLevel
  let logFile ← pick given "log_file" base.logFile readOptionalPath
  let fallback ← pick given "project_fallback_name" base.projectFallbackName readText
  let defaultDialects ← pick given "default_dialects" base.defaultDialects fun _ => dialects
  let includeOverview ← pick given "erd_include_overview" base.includeOverview readSwitch
  let strict ← pick given "strict_redeclarations" base.strictRedeclarations readSwitch
  let generateDocs ← pick given "generate_docs" base.generateDocs readSwitch
  let outputDir ← pick given "output_dir" base.outputDir readPath
  return ⟨appName, appVersion, environment, logLevel, logFile, fallback, defaultDialects,
    includeOverview, strict, generateDocs, outputDir⟩

/-- The given names that are no settings. -/
def unknownNames (given : Entries) : List String :=
  (given.map fun entry => entry.1.display).filter fun name => !names.contains name

/-- The settings with everything that is given. -/
def ofValues (given : Entries) : Except Fault Settings := do
  let dialects ← match given.get? "default_dialects" with
    | none => pure none
    | some value => readDialects value
  let (settings, refused) := (assemble given dialects).run (unknownNames given)
  if refused.isEmpty then return settings
  else throw (.invalid (refused.mergeSort fun a b => decide (a ≤ b)))

/-- What a variable's name starts with, in lower case. -/
def variableOpening : String := "dbdoc_"

/-- The setting that a variable names, in any case. -/
def settingNamed? (name : String) : Option String :=
  names.find? fun setting => variableOpening ++ setting == Text.lowered name

/-- The value of a setting from a variable; that of a list is read as JSON. -/
def variableValue (setting text : String) : Except Fault Value :=
  if setting = "default_dialects" then
    match Json.read text with
    | .ok value => .ok value
    | .error _ => .error .unreadableList
  else .ok (.text text)

/-- The setting that a variable gives; a list that is null is not given. -/
def givenBy (name text : String) : Except Fault (List (Scalar × Value)) :=
  match settingNamed? name with
  | none => .ok []
  | some setting => do
      let value ← variableValue setting text
      return if value == .null then [] else [(.text setting, value)]

/-- The settings that variables give. -/
def ofEnvironment (assigned : List (String × String)) : Except Fault Entries := do
  let given ← assigned.mapM fun entry => givenBy entry.1 entry.2
  return Entries.ofList given.flatten

/-- The settings from given values and variables; given values come first. -/
def load (given : Entries) (assigned : List (String × String)) : Except Fault Settings := do
  ofValues ((← ofEnvironment assigned).override given)

end Settings

end SchemaAtlas
