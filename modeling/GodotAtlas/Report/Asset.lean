import GodotAtlas.SortedMap

namespace GodotAtlas.Report

inductive AssetCategory where
  | images | audio | fonts | models | shaders | data | other
deriving DecidableEq, Repr

namespace AssetCategory

def rank : AssetCategory → Nat
  | images => 0 | audio => 1 | fonts => 2 | models => 3 | shaders => 4 | data => 5 | other => 6

theorem rank_injective {a b : AssetCategory} (h : a.rank = b.rank) : a = b := by
  cases a <;> cases b <;> simp_all [rank]

instance : Ord AssetCategory := ⟨fun a b => compare a.rank b.rank⟩

instance : Std.TransOrd AssetCategory where
  eq_swap := Std.OrientedOrd.eq_swap (α := Nat)
  isLE_trans := Std.TransOrd.isLE_trans (α := Nat)

instance : Std.LawfulEqOrd AssetCategory where
  compare_self := Std.ReflOrd.compare_self (α := Nat)
  eq_of_compare h := rank_injective (Std.LawfulEqOrd.eq_of_compare (α := Nat) h)

def label : AssetCategory → String
  | images => "Images"
  | audio => "Audio"
  | fonts => "Fonts"
  | models => "3D Models"
  | shaders => "Shaders"
  | data => "Data"
  | other => "Other"

def extensions : AssetCategory → List String
  | images => ["png", "jpg", "jpeg", "webp", "svg", "bmp"]
  | audio => ["wav", "ogg", "mp3", "opus"]
  | fonts => ["ttf", "otf", "woff", "woff2"]
  | models => ["glb", "gltf", "obj", "fbx", "dae"]
  | shaders => ["gdshader", "gdshaderinc", "shader"]
  | data => ["json", "cfg", "ini", "csv", "xml"]
  | other => []

def nonAssets : List String := ["godot", "gdignore", "gitignore", "md", "txt"]

def ofExtension? (ext : String) : Option AssetCategory :=
  if nonAssets.contains ext then none
  else some (([images, audio, fonts, models, shaders, data].find? fun c =>
    c.extensions.contains ext).getD other)

end AssetCategory

end GodotAtlas.Report
