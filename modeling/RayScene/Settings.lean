import RayScene.Files.Error
import RayScene.Files.Path
import RayScene.Text.Integer

/-!
# Settings

Settings come from environment variables. Variables that the system does not take are an error
before all else. Integers are read first to last; the first one that is malformed is the error.
-/

namespace RayScene

structure Settings where
  apiKey : String
  defaultModel : String
  maxTurns : Int
  maxTokens : Int
  rendererPath : String
  converterPath : String
  timeout : Int
  imagesDirectory : Path
  host : String
  port : Int
  logLevel : String
deriving DecidableEq

namespace Settings

def default : Settings where
  apiKey := ""
  defaultModel := "sonnet"
  maxTurns := 8
  maxTokens := 16384
  rendererPath := "./minrt_256"
  converterPath := "magick"
  timeout := 120
  imagesDirectory := Path.ofText "images"
  host := "0.0.0.0"
  port := 8000
  logLevel := "INFO"

/-- The environment variables that settings come from. -/
def variableNames : List String :=
  ["ANTHROPIC_API_KEY", "DEFAULT_MODEL", "AGENT_MAX_TURNS", "AGENT_MAX_TOKENS", "MINRT_PATH",
    "MAGICK_PATH", "RENDER_TIMEOUT_SECONDS", "IMAGES_DIR", "HOST", "PORT", "LOG_LEVEL"]

def integer (env : String → Option String) (name : String) (fallback : Int) :
    Except Text.IntegerError Int :=
  match env name with
  | none => .ok fallback
  | some text => Text.readInteger text

/-- The settings of variables that hold what `env` says. -/
def ofValues (env : String → Option String) : Except Text.IntegerError Settings := do
  let text (name fallback : String) : String := (env name).getD fallback
  let maxTurns ← integer env "AGENT_MAX_TURNS" default.maxTurns
  let maxTokens ← integer env "AGENT_MAX_TOKENS" default.maxTokens
  let timeout ← integer env "RENDER_TIMEOUT_SECONDS" default.timeout
  let port ← integer env "PORT" default.port
  return {
    apiKey := text "ANTHROPIC_API_KEY" default.apiKey
    defaultModel := text "DEFAULT_MODEL" default.defaultModel
    maxTurns
    maxTokens
    rendererPath := text "MINRT_PATH" default.rendererPath
    converterPath := text "MAGICK_PATH" default.converterPath
    timeout
    imagesDirectory := Path.ofText (text "IMAGES_DIR" "./images")
    host := text "HOST" default.host
    port
    logLevel := text "LOG_LEVEL" default.logLevel }

inductive EnvironmentError where
  /-- the name or the value of a variable holds U+0000 -/
  | nullCharacter
  /-- the name of a variable holds an equals sign -/
  | equalsSign
  | integer (error : Text.IntegerError)
deriving DecidableEq

def EnvironmentError.message : EnvironmentError → String
  | nullCharacter => nullCharacterText
  | equalsSign => "illegal environment variable name"
  | integer error => error.message

def checkVariable (name value : String) : Except EnvironmentError Unit :=
  if name.toList.contains '\x00' || value.toList.contains '\x00' then .error .nullCharacter
  else if name.toList.contains '=' then .error .equalsSign
  else .ok ()

def ofEnvironment (variableValues : List (String × String)) : Except EnvironmentError Settings := do
  variableValues.forM fun (name, value) => checkVariable name value
  (ofValues fun name => variableValues.lookup name).mapError .integer

/-- The models that have a short name. -/
def models : List (String × String) :=
  [("haiku", "claude-haiku-4-5-20251001"), ("sonnet", "claude-sonnet-4-5-20250929")]

/-- The model behind a name; other names stand for themselves. -/
def modelId : LooseText → LooseText
  | .proper name => (models.lookup name).getD name
  | name => name

/-- How often a request to the model is tried again. -/
def maxRetries : Nat := 5

def version : String := "0.1.0"

end Settings

/-! ### Log levels -/

def logLevels : List (String × Nat) :=
  [("DEBUG", 10), ("INFO", 20), ("WARNING", 30), ("WARN", 30), ("ERROR", 40), ("CRITICAL", 50),
    ("FATAL", 50), ("NOTSET", 0)]

/-- The upper case of the letters that have one in the names of levels: the ASCII letters, the
dotless i and the long s. -/
def upperLevel (c : Char) : Char :=
  if c = 'ı' then 'I' else if c = 'ſ' then 'S' else c.toUpper

/-- The level with this name in any case, else that of information. -/
def logLevel (name : String) : Nat :=
  (logLevels.lookup (String.ofList (name.toList.map upperLevel))).getD 20

def logFormat : String := "%(asctime)s | %(levelname)s | %(name)s | %(message)s"

end RayScene
