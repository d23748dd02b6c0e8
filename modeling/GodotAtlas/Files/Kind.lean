import GodotAtlas.Files.Path

namespace GodotAtlas.Files

inductive FileKind where
  | script | scene | resource
  | ignored
  | other (ext : String)
deriving DecidableEq, Repr

def ignoredExtensions : List String := ["uid", "import", "tmp"]

def FileKind.ofExtension (ext : String) : FileKind :=
  if ext = "gd" then .script
  else if ext = "tscn" then .scene
  else if ext = "tres" then .resource
  else if ignoredExtensions.contains ext then .ignored
  else .other ext

def FileKind.ofPath (path : String) : FileKind :=
  .ofExtension (extension path)

end GodotAtlas.Files
