/-
This file reads the configuration from its file. A file that is missing stands for an empty
document; one that cannot be read, or whose text is no document, is an error.
-/

import Thumbnailer.Config
import Thumbnailer.Files
import Thumbnailer.Toml.Document

namespace Thumbnailer

/-- Why a configuration file gives no configuration. -/
inductive ConfigFileError where
  | refused (error : FileError)
  | notText
  | notDocument
  | config (error : ConfigError)
  deriving DecidableEq

def ConfigFileError.message : ConfigFileError → String
  | .refused error => "IO error: " ++ error.text
  | .notText => "IO error: stream did not contain valid UTF-8"
  | .notDocument => "TOML parse error: not a document\n"
  | .config error => error.message

namespace Config

/-- The value that the bytes of a file stand for. -/
def parse (data : Bytes) : Except ConfigFileError Toml.Value :=
  match Utf8.decode data with
  | none => .error .notText
  | some text =>
    match Toml.read text with
    | none => .error .notDocument
    | some value => .ok value

/-- The value in a file, if there is one. -/
def loadValue (path : Path) :
    Procedure FileAccess (Except ConfigFileError (Option Toml.Value)) :=
  (Files.present path).bind fun
    | false => .done (.ok none)
    | true =>
      .ask (.read path) fun
        | .error error => .done (.error (.refused error))
        | .ok data => .done ((parse data).map some)

/-- The stock configuration with a file laid over it. -/
def load (path : Path) : Procedure FileAccess (Except ConfigFileError Config) :=
  (loadValue path).bind fun loaded =>
    .done (loaded.bind fun overlay => (resolve stock.toValue overlay).mapError .config)

end Config

end Thumbnailer
