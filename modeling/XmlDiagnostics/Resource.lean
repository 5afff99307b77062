import XmlDiagnostics.Error
import XmlDiagnostics.Config
import XmlDiagnostics.StringSet
import XmlDiagnostics.Url

/-! # Resources

The files that can be read: what they are called and what is in them. -/

namespace XmlDiagnostics

/-- Files by the names that lead to them, with their octets. -/
structure Files where
  entries : List (List String × List UInt8)

namespace Files

/-- The octets of a file. -/
def get? (files : Files) (names : List String) : Option (List UInt8) := files.entries.lookup names

/-- Read what is at a location. Only local files can be read. -/
def read (files : Files) (url : Url) : Except Error (List UInt8) :=
  if url.scheme ≠ "file" then .error (.unsupportedScheme url.scheme)
  else
    match url.fileNames? with
    | none => .error (.invalidUrl url.display "not a local file path")
    | some names =>
      match files.get? names with
      | some bytes => .ok bytes
      | none => .error .missingFile

/-- The location of a file, which has to exist. -/
def locate (files : Files) (names : List String) : Except Error Url :=
  if (files.get? names).isSome then .ok (.ofFile names) else .error .missingFile

end Files

/-! ### Directories -/

/-- What a directory holds under a name. -/
structure DirectoryEntry where
  name : String
  isDirectory : Bool
deriving DecidableEq, Repr

namespace DirectoryEntry

/-- What follows the last dot of a file name; a dot at its beginning does not count. -/
def extension? (name : String) : Option String :=
  match Text.splitAtLast '.' name.toList with
  | some ([], _) => none
  | some (_, extension) => some (String.ofList extension)
  | none => none

/-- The extension that a configuration means, which may be written with its dot. -/
def configured (config : SchemaConfig) : String :=
  String.ofList (config.extension.toList.dropWhile (· = '.'))

/-- The files of a directory that have the configured extension, by name and in the order of their
names. -/
def schemaNames (config : SchemaConfig) (entries : List DirectoryEntry) : List String :=
  let files := entries.filter fun e => !e.isDirectory && extension? e.name = some (configured config)
  (StringSet.ofList (files.map DirectoryEntry.name)).toList

/-- The locations of the schemas in a directory, which is absent if it does not exist. -/
def schemaUrls (config : SchemaConfig) (directory : List String) :
    Option (List DirectoryEntry) → Except Error (List Url)
  | none => .error .missingFile
  | some entries => .ok ((schemaNames config entries).map fun name => .ofFile (directory ++ [name]))

end DirectoryEntry

end XmlDiagnostics
