import GodotAtlas.Files.Kind
import GodotAtlas.Files.System

namespace GodotAtlas.Files

structure Exclusion where
  dirs : List String := []
  paths : String → Bool := fun _ => false

structure ProjectFile where
  path : String
  relative : String
  kind : FileKind
deriving DecidableEq, Repr

def Exclusion.covers (x : Exclusion) (name path : String) (e : Entry) : Bool :=
  (e.isDir && x.dirs.contains name) || x.paths path

def below (dir name : String) : String :=
  if dir.isEmpty then name else dir ++ "/" ++ name

mutual

-- The files at or below an entry, which the walk has come to by a path. Links are not followed, and
-- a directory that cannot be opened by its path is passed over.
def filesAt (fs : FileSystem) (x : Exclusion) (path relative : String) : Entry → List ProjectFile
  | .file _ => [{ path, relative, kind := .ofPath relative }]
  | .locked false _ => [{ path, relative, kind := .ofPath relative }]
  | .dir es => if (fs.readDir path).toBool then filesIn fs x path relative es else []
  | _ => []

def filesIn (fs : FileSystem) (x : Exclusion) (path relative : String) :
    List (String × Entry) → List ProjectFile
  | [] => []
  | (name, e) :: es =>
    (if x.covers name (below relative name) e then []
      else filesAt fs x (join path name) (below relative name) e) ++ filesIn fs x path relative es

end

def pathLe (a b : ProjectFile) : Bool :=
  (compare a.relative b.relative).isLE

def listFiles (x : Exclusion) (root : String) (fs : FileSystem) :
    Except FileError (List ProjectFile) := do
  match ← fs.entry root with
  | .dir es => return (filesIn fs x root "" es).mergeSort pathLe
  | .locked true e => throw e
  | e => return if e.isFile then [{ path := root, relative := "", kind := .ofPath root }] else []

end GodotAtlas.Files
