import Conform.Schema.Document
import Conform.Yaml.Read
import Conform.Text.Case
/-!
Reading schemas from text and from files. JSON text and YAML text are read into a document and
the document into a schema. Text in an unnamed format is read as JSON when it starts, after
blanks, with `{` and reads as JSON, and as YAML otherwise. A file is read as UTF-8 and by its
extension, in any case: `json`, `yaml` or `yml`, anything else in the unnamed format.
-/
namespace Conform

/-- How schema text is read: strictly or not (see `Document.toSchema`). -/
structure SchemaReader where
  strict : Bool := false

/-- A file as the file system holds it: absent, a directory, or bytes. -/
inductive FileEntry where
  | missing
  | directory
  | bytes (data : ByteArray)

namespace SchemaReader

variable (r : SchemaReader)

def parseJson (text : String) : Except Error Schema :=
  match Json.parse text with
  | .ok doc => Document.toSchema r.strict doc
  | .error e => .error (.serialization e.message)

def parseYaml (text : String) : Except Error Schema :=
  match Yaml.parse text with
  | .ok doc => Document.toSchema r.strict doc
  | .error msg => .error (.serialization msg)

/-- Reads a schema document in JSON or YAML. -/
def parse (text : String) : Except Error Schema :=
  if (Text.trimStart text).startsWith "\x7b" then
    match Json.parse text with
    | .ok doc => Document.toSchema r.strict doc
    | .error _ => r.parseYaml text
  else r.parseYaml text

/-- The extension of a file name: what follows its last `.`, unless the name has no `.` past
its first character. -/
def extension (name : String) : Option String :=
  let base := (name.splitOn "/").getLast?.getD name
  match base.toList with
  | [] => none
  | c :: rest =>
    if rest.contains '.' then some ((base.splitOn ".").getLast?.getD "")
    else if c = '.' then none
    else none

/-- Reads a schema file. -/
def parseFile (name : String) (entry : FileEntry) : Except Error Schema := do
  let content ← match entry with
    | .missing => throw (.io "No such file or directory (os error 2)")
    | .directory => throw (.io "Is a directory (os error 21)")
    | .bytes data =>
      match String.fromUTF8? data with
      | some text => pure text
      | none => throw (.io "stream did not contain valid UTF-8")
  match Text.toLower ((extension name).getD "") with
  | "json" => r.parseJson content
  | "yaml" | "yml" => r.parseYaml content
  | _ => r.parse content

end SchemaReader

end Conform
