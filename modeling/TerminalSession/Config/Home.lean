import TerminalSession.Config.Decode
import TerminalSession.Terminal.Error
import TerminalSession.Text.Utf8

/-!
# Where a configuration is kept

A configuration is kept in the file `config.toml` of a directory in the home of the user. Loading
one that is missing or cannot be read gives the defaults; `loadFrom` says what is wrong with it.
-/

namespace TerminalSession

/-- What stands where the configuration of a user is kept. -/
inductive ConfigPlace
  /-- Nothing, perhaps not even the directory. -/
  | missing
  | file (bytes : List UInt8)
  /-- A directory where the file should be. -/
  | directory
  /-- A file where the directory should be. -/
  | blocked
  deriving DecidableEq, Repr

namespace ConfigPlace

def read : ConfigPlace → Except SystemError (List UInt8)
  | .missing => .error .notFound
  | .file bytes => .ok bytes
  | .directory => .error .isDirectory
  | .blocked => .error .notDirectory

def readText (place : ConfigPlace) : Except SystemError String := do
  match Utf8.decode? (← place.read) with
  | some text => return String.ofList text
  | none => throw .malformedText

/-- The place with a text written to the file, which is made if need be. -/
def writeText (text : String) : ConfigPlace → Except SystemError ConfigPlace
  | .missing | .file _ => .ok (.file (Utf8.encode text.toList))
  | .directory => .error .isDirectory
  | .blocked => .error .fileExists

end ConfigPlace

/-- Why a configuration cannot be loaded or saved. -/
inductive ConfigError
  | io (cause : SystemError)
  /-- The text is no TOML document, or it has a value of the wrong kind under a known name. -/
  | malformed
  /-- The user has no home. -/
  | noDirectory
  deriving DecidableEq, Repr

def ConfigError.message : ConfigError → String
  | .io cause => "failed to read or write config: " ++ cause.message
  | .malformed => "invalid config"
  | .noDirectory => "could not determine config path"

namespace Config

/-- A path followed by a name. A path that is empty or ends with a slash needs none between. -/
def join (path name : String) : String :=
  if path.isEmpty || path.endsWith "/" then path ++ name else path ++ "/" ++ name

/-- The directory of the configuration, given the two places that can say where the home of the
user is. -/
def directory? (userProfile home : Option String) : Option String :=
  (userProfile <|> home).map (join · ".termscreen")

def loadFrom (place : ConfigPlace) : Except ConfigError Config := do
  match ofToml? (← place.readText.mapError .io) with
  | some config => return config
  | none => throw .malformed

/-- Loads the configuration of a user, who may have no home. Whatever is wrong, it is the default
then. -/
def load : Option ConfigPlace → Config
  | none => {}
  | some place => (loadFrom place).toOption.getD {}

def save (c : Config) : Option ConfigPlace → Except ConfigError ConfigPlace
  | none => .error .noDirectory
  | some place => (place.writeText c.toToml).mapError .io

end Config

end TerminalSession
