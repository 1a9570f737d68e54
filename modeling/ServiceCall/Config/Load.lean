import ServiceCall.Config.Decode
import ServiceCall.Config.Environment
import ServiceCall.Config.Validation

/-! Loading configurations from text and from files. -/

namespace ServiceCall.Config

/-- Reads a configuration from text, resolves its references and validates it. -/
def parse (environment : Environment) (text : String) : Except CallError Config := do
  match ofToml? text with
  | none => .error (.configuration .malformedText)
  | some written =>
    let config ← written.resolveReferences environment
    config.validate
    .ok config

/-- What stands at a path of the file system. -/
inductive FileContent where
  | missing
  | directory
  | bytes (content : List UInt8)
  deriving DecidableEq, Repr

/-- The text of a file, or why it cannot be read. -/
def FileContent.read : FileContent → Except String String
  | .missing => .error "No such file or directory (os error 2)"
  | .directory => .error "Is a directory (os error 21)"
  | .bytes content =>
    match Utf8.decode content with
    | .ok text => .ok (String.ofList text)
    | .error _ => .error "stream did not contain valid UTF-8"

/-- Loads the configuration file at a path. -/
def load (environment : Environment) (path : String) (file : FileContent) :
    Except CallError Config := do
  match file.read with
  | .ok text => parse environment text
  | .error reason => .error (.configuration (.unreadableFile path reason))

end ServiceCall.Config
