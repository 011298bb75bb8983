import Catalog.Manifest.Json
import Catalog.Manifest.Yaml

/-! Loading manifests from texts. -/

namespace Catalog

/-- Loads a manifest from a text in one of the formats. -/
def Manifest.load (format : Manifest.Format) (text : String)
    : Except Manifest.LoadError Manifest :=
  match format with
  | .json => Manifest.ofJson text
  | .yaml => Manifest.ofYaml text

end Catalog
