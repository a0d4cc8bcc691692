import PortletPage.Document
import PortletPage.Failure
import PortletPage.Json.Decode
import PortletPage.Text
import PortletPage.Yaml.Document

/-!
# Loading pages and configurations

Pages come as JSON or YAML and are validated.  Configurations come as YAML, and a
blank text is a configuration with nothing set.

A file is known by its name and its contents, which are missing if it cannot be
read.  Its format depends on the name alone.
-/

namespace PortletPage

/-! ## Files -/

/-- What follows the last dot of a file name, unless nothing comes before it. -/
def extension? (name : String) : Option String :=
  let reversed := name.toList.reverse
  let ending := reversed.takeWhile (· ≠ '.')
  match reversed.drop ending.length with
  | _ :: _ :: _ => some (String.ofList ending.reverse)
  | _ => none

/-- The contents of a file as a text. -/
def textOfFile (contents : Option ByteArray) : Except Failure String :=
  match contents.bind String.fromUTF8? with
  | some s => .ok s
  | none => .error .unreadable

/-! ## Pages -/

namespace Page

/-- The page if it is valid. -/
def checked (page : Page) : Except Failure Page := page.validate.mapError .invalidPage

/-- The page that a JSON text describes. -/
def ofJson (s : String) : Except Failure Page :=
  match Json.parse s >>= Json.toPage? with
  | some page => page.checked
  | none => .error .json

/-- The page that a YAML text describes. -/
def ofYaml (s : String) : Except Failure Page :=
  match (Yaml.Node.ofText? s).bind fun node => Yaml.Look.run? node Document.page with
  | some page => page.checked
  | none => .error .yaml

/-- The page that a file describes: JSON if its name ends so, and YAML otherwise. -/
def ofFile (name : String) (contents : Option ByteArray) : Except Failure Page := do
  let s ← textOfFile contents
  if extension? name = some "json" then ofJson s else ofYaml s

end Page

/-! ## Configurations -/

namespace Config

/-- The configuration that a YAML text describes. -/
def ofYaml (s : String) : Except Failure Config :=
  if Text.isAllBlank s then .ok {}
  else
    match (Yaml.Node.ofText? s).bind fun node => Yaml.Look.run? node Document.config with
    | some config => .ok config
    | none => .error .yaml

/-- The configuration that a file describes, which is YAML whatever its name. -/
def ofFile (contents : Option ByteArray) : Except Failure Config := do
  ofYaml (← textOfFile contents)

end Config

end PortletPage
