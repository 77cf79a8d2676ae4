import KeyTrace.Path
import KeyTrace.Pattern
import KeyTrace.Text.Quoted

/-!
# Failures

Everything that can go wrong, by cause. The wording is in one place: `Failure.message` is the text
a caller shows, and the causes from the operating system have their customary texts.

## Main definitions

* `OsError`: why a file cannot be used; `OsError.message`.
* `ResourceFault`: why a resource file cannot be used.
* `ConfigFault`: why the configuration makes no sense.
* `SettingsFault`: why settings cannot be loaded or saved.
* `Failure`, `Failure.message`: all failures and their texts.
-/

namespace KeyTrace

/-- Why the file system refuses an operation. -/
inductive OsError where
  | notFound
  | notDirectory
  | isDirectory
  | nameTooLong
  | exists
  | notEmpty
  /-- A path with a NUL byte never reaches the file system. -/
  | nulInName
  /-- The content of a file that is to be read as text is no text. -/
  | notText
deriving Repr, DecidableEq

/-- The customary text of an error. -/
def OsError.message : OsError → String
  | notFound => "No such file or directory (os error 2)"
  | notDirectory => "Not a directory (os error 20)"
  | isDirectory => "Is a directory (os error 21)"
  | nameTooLong => "File name too long (os error 36)"
  | .exists => "File exists (os error 17)"
  | notEmpty => "Directory not empty (os error 39)"
  | nulInName => "file name contained an unexpected NUL byte"
  | notText => "stream did not contain valid UTF-8"

/-- The text of a pattern's refusal. -/
def PatternError.message : PatternError → String
  | malformed => "regex parse error:"
  | tooBig limit => "Compiled regex exceeds size limit of " ++ toString limit ++ " bytes."

/-- Why a resource file cannot be used. -/
inductive ResourceFault where
  /-- It cannot be read. -/
  | unreadable (cause : OsError)
  /-- It should be JSON and is not. -/
  | notJson
  /-- Files with this extension (without its dot) hold no resources. -/
  | unsupported (extension : String)
deriving Repr, DecidableEq

/-- The text of a fault. -/
def ResourceFault.message : ResourceFault → String
  | unreadable cause => cause.message
  | notJson => "invalid JSON"
  | unsupported ext => "unsupported resource file type '." ++ ext ++ "'"

/-- Why the configuration makes no sense. -/
inductive ConfigFault where
  /-- A rule with this template lists no extension. -/
  | noExtensions (template : Option String)
  /-- The rule at a position lists no extension. -/
  | emptyRule (position : Nat)
  /-- No size at all is allowed for templates. -/
  | zeroSizeLimit
  /-- Rules are asked for by something other than an extension. -/
  | notExtension (raw : String)
  /-- There is a settings file that would be lost. -/
  | settingsExist (path : Path)
deriving Repr, DecidableEq

/-- The text of a fault. -/
def ConfigFault.message : ConfigFault → String
  | noExtensions template =>
    "match rule " ++ Quoted.shown (template.getD "<literal>") ++ " lists no file extensions"
  | emptyRule position => "rule #" ++ toString (position + 1) ++ " has an empty extension list"
  | zeroSizeLimit => "scan.regex_size_limit must be greater than zero"
  | notExtension raw => "'" ++ raw ++ "' is not a file extension"
  | settingsExist path => path.display ++ " already exists; use --force to overwrite it"

/-- Why settings cannot be loaded or saved. -/
inductive SettingsFault where
  | unreadable (path : Path)
  /-- The file is no document, or one with other types of values. -/
  | malformed (path : Path)
  | invalid (cause : ConfigFault)
  /-- The folder of the file cannot be made. -/
  | noFolder (folder : Path)
  | unwritable (path : Path)
deriving Repr, DecidableEq

/-- The text of a fault with what it is about. -/
def ConfigFault.introduced (f : ConfigFault) : String := "Configuration error: " ++ f.message

/-- The text of a fault. -/
def SettingsFault.message : SettingsFault → String
  | unreadable path => "Failed to read config file: " ++ path.display
  | malformed path => "Failed to parse config file: " ++ path.display
  | invalid cause => cause.introduced
  | noFolder folder => "Failed to create config directory: " ++ folder.display
  | unwritable path => "Failed to write config file: " ++ path.display

/-- Everything that can go wrong. -/
inductive Failure where
  /-- A file operation failed. -/
  | io (cause : OsError)
  /-- A key or a container cannot be searched for. -/
  | pattern (cause : PatternError)
  /-- A template filled in for a key is no usable pattern. -/
  | template (template : String) (cause : PatternError)
  /-- The configuration makes no sense. -/
  | config (fault : ConfigFault)
  /-- A resource file cannot be used. -/
  | resource (path : Path) (fault : ResourceFault)
  /-- The settings cannot be loaded or saved. -/
  | settings (fault : SettingsFault)
deriving Repr, DecidableEq

namespace Failure

/-- The text of a failure. -/
def message : Failure → String
  | io cause => "I/O error: " ++ cause.message
  | pattern cause => "Regex error: " ++ cause.message
  | template t cause => "Invalid match template '" ++ t ++ "': " ++ cause.message
  | config fault => fault.introduced
  | resource path fault => "Failed to read resource file '" ++ path.display ++ "': " ++ fault.message
  | settings fault => fault.message

end Failure

/-- How grave a log record is. -/
inductive LogLevel where
  | warning
  | error
deriving Repr, DecidableEq

/-- A record in the log. -/
structure LogRecord where
  level : LogLevel
  text : String
deriving Repr, DecidableEq

end KeyTrace
