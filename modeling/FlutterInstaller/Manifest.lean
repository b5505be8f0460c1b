import FlutterInstaller.Yaml.Document

/-!
The manifest of a project: a document of which the fields at the top and those in the section for
installers are looked up by key. Nothing is checked beyond its being a document.
-/
namespace FlutterInstaller

structure Manifest where
  root : Yaml.Value

namespace Manifest

def toolKey : String := "inno_bundle"

def fileName : String := "pubspec.yaml"

def ofText (s : String) : Except Yaml.Error Manifest := (Yaml.Value.ofText s).map Manifest.mk

def field (m : Manifest) (key : String) : Option Yaml.Value := m.root.get? key

def toolSection (m : Manifest) : Option Yaml.Value := m.field toolKey

def toolField (m : Manifest) (key : String) : Option Yaml.Value := m.toolSection.bind (·.get? key)

end Manifest

end FlutterInstaller
