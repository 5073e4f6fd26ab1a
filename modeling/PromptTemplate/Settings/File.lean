import PromptTemplate.Data.Toml
import PromptTemplate.Settings

namespace PromptTemplate.Settings

inductive SettingsFile where
  | missing (path : Text)
  | directory (path : Text)
  | present (path : Text) (bytes : List UInt8)

def header : Text := "[engine]\n".toList

def line (key value : Text) : Text :=
  key ++ " = ".toList ++ value ++ ['\n']

def toToml (s : Settings) : Text :=
  header ++ line maxBytesKey (Text.ofNat s.maxBytes) ++ line maxDepthKey (Text.ofNat s.maxDepth) ++
    line formatKey (Toml.writeString s.format.name) ++
    line fallbackKey (if s.fallback then "true" else "false").toList

def ofText (env : Environment) (path : Text) (t : Text) :
    Except SettingsError Settings × List Event :=
  match Toml.read? t with
  | none => (.error (.unreadable path "not a valid document".toList), [])
  | some document =>
      match engineTable? document with
      | none => (.error (.notATable path), [])
      | some table => load env table

def ofFile (env : Environment) : SettingsFile → Except SettingsError Settings × List Event
  | .missing path => (.error (.missingFile path), [])
  | .directory path => (.error (.unreadable path "is a directory".toList), [])
  | .present path bytes =>
      match Text.ofUtf8 bytes with
      | .error e => (.error (.encoding e), [])
      | .ok t => ofText env path t

def ofSource (env : Environment) (file : Option SettingsFile) (table : Option (Assoc Value)) :
    Except SettingsError Settings × List Event :=
  match file, table with
  | some _, some _ => (.error .twoSources, [])
  | some f, none => ofFile env f
  | none, some t => load env t
  | none, none => load env default.toTable

def sample : Text :=
"# promptweave engine configuration

[engine]
# Templates larger than this many bytes (UTF-8) are not evaluated.
# render() returns them unchanged; annotate() raises TemplateTooLargeError.
max_template_bytes = 102400

# Maximum nesting depth of \x7b\x7b#if\x7d\x7d / \x7b\x7b#unless\x7d\x7d / \x7b\x7b#each\x7d\x7d / \x7b\x7b#with\x7d\x7d blocks
max_nesting_depth = 64

# Serialization format for sequence values whose variable sets no format
# (comma, newline, numbered, bullet)
default_format = \"comma\"

# When true, render() returns the template verbatim on a parse error
fallback_on_error = true

# Environment overrides:
#   PROMPTWEAVE_MAX_TEMPLATE_BYTES, PROMPTWEAVE_MAX_NESTING_DEPTH,
#   PROMPTWEAVE_DEFAULT_FORMAT, PROMPTWEAVE_FALLBACK_ON_ERROR
".toList

end PromptTemplate.Settings
