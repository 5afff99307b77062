/-! # Errors

Only resources, patterns and configuration can fail; a malformed document or a lookup that finds
nothing is an answer. -/

namespace XmlDiagnostics

/-- Why an operation has no result. -/
inductive Error where
  /-- a resource that cannot be read, with the reason -/
  | unreadable (reason : String)
  /-- a location that is not a usable address -/
  | invalidUrl (url reason : String)
  /-- an address whose scheme cannot be read -/
  | unsupportedScheme (scheme : String)
  /-- a schema that cannot be used -/
  | schema (url reason : String)
  /-- a search pattern that is not well-formed -/
  | pattern (reason : String)
  /-- a setting with an unusable value -/
  | config (reason : String)
  /-- data of the wrong shape -/
  | serialization (reason : String)
  /-- any other failure, with the error behind it -/
  | other (reason : String) (cause : Option String)
deriving DecidableEq, Repr

namespace Error

/-- The resource does not exist. -/
def missingFile : Error := .unreadable "No such file or directory (os error 2)"

/-- The resource is to be text but is not in UTF-8. -/
def notUtf8 : Error := .unreadable "stream did not contain valid UTF-8"

/-- The text of an error. -/
def message : Error → String
  | unreadable reason => "IO error: " ++ reason
  | invalidUrl url reason => "Invalid URL '" ++ url ++ "': " ++ reason
  | unsupportedScheme scheme => "Unsupported URL scheme '" ++ scheme ++ "'"
  | schema url reason => "Failed to read schema '" ++ url ++ "': " ++ reason
  | pattern reason => "Pattern error: " ++ reason
  | config reason => "Configuration error: " ++ reason
  | serialization reason => "Serialization error: " ++ reason
  | other reason _ => reason

/-- The text of the error behind an error. -/
def cause? : Error → Option String
  | unreadable reason => some reason
  | other _ cause => cause
  | _ => none

end Error

end XmlDiagnostics
