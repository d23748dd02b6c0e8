import GodotAtlas.Files.Path
import GodotAtlas.Text.Utf8

namespace GodotAtlas.Files

inductive FileError where
  | notFound | notADirectory | isADirectory | nameTooLong | nulByte | tooManyLinks | denied
  | other (text : String)
deriving DecidableEq, Repr

def FileError.message : FileError → String
  | notFound => "No such file or directory (os error 2)"
  | notADirectory => "Not a directory (os error 20)"
  | isADirectory => "Is a directory (os error 21)"
  | nameTooLong => "File name too long (os error 36)"
  | nulByte => "file name contained an unexpected NUL byte"
  | tooManyLinks => "Too many levels of symbolic links (os error 40)"
  | denied => "Permission denied (os error 13)"
  | other text => text

-- A link leads on by a path from its own directory. A device has nothing to give and keeps nothing.
-- What is locked shows whether it is a directory, but cannot be opened.
inductive Entry where
  | file (bytes : List UInt8)
  | dir (entries : List (String × Entry))
  | link (target : String)
  | device
  | locked (isDirectory : Bool) (cause : FileError)

namespace Entry

def entries : Entry → List (String × Entry)
  | dir es => es
  | _ => []

def isDir : Entry → Bool
  | dir _ => true
  | locked isDirectory _ => isDirectory
  | _ => false

def isFile : Entry → Bool
  | file _ => true
  | locked isDirectory _ => !isDirectory
  | _ => false

def target? : Entry → Option String
  | link target => some target
  | _ => none

def content : Entry → Except FileError (List UInt8)
  | file bytes => .ok bytes
  | device => .ok []
  | locked _ cause => .error cause
  | _ => .error .isADirectory

def child? (e : Entry) (name : String) : Option Entry :=
  e.entries.lookup name

def at? : Entry → List String → Option Entry
  | e, [] => some e
  | e, n :: ns => (e.child? n).bind (·.at? ns)

def putEntry (name : String) (e : Entry) : List (String × Entry) → List (String × Entry)
  | [] => [(name, e)]
  | (n, old) :: es => if n = name then (n, e) :: es else (n, old) :: putEntry name e es

def put : Entry → List String → (new : Entry) → Entry
  | _, [], new => new
  | e, n :: ns, new => dir (putEntry n (((e.child? n).getD (dir [])).put ns new) e.entries)

end Entry

-- The tree holds a file under each of its names; places that are names of one file are told by the
-- lists of hard links.
structure FileSystem where
  root : Entry
  cwd : List String := []
  hardLinks : List (List (List String)) := []

namespace FileSystem

def maxName : Nat := 255

def maxPath : Nat := 4095

def maxLinks : Nat := 40

def devices : Entry :=
  .dir [("dev", .dir [("null", .device)])]

def look (fs : FileSystem) (place : List String) : Option Entry :=
  (fs.root.at? place).or (devices.at? place)

def checkPath (path : String) : Except FileError Unit :=
  if path.toList.contains '\x00' then .error .nulByte
  else if path.isEmpty then .error .notFound
  else if maxPath < path.utf8ByteSize then .error .nameTooLong
  else .ok ()

def startFrom (here : List String) (path : String) : List String :=
  if isAbsolute path then [] else here

def namesDirectory (path : String) : Bool :=
  path.toList.getLast? == some '/'

-- The parts of a path that a link leads on by. A slash at its end asks for a directory.
def waysOf (target : String) : List (List Char) :=
  parts target ++ if namesDirectory target then [['.']] else []

def enter (fs : FileSystem) (place : List String) (part : List Char) :
    Except FileError (List String) :=
  match fs.look place with
  | some (.dir _) =>
    if part = ['.'] then .ok place
    else if part = ['.', '.'] then .ok place.dropLast
    else if maxName < (String.ofList part).utf8ByteSize then .error .nameTooLong
    else .ok (place ++ [String.ofList part])
  | some (.locked true e) => .error e
  | some _ => .error .notADirectory
  | none => .error .notFound

-- How far a path leads up to the first link.
inductive Reach where
  | place (place : List String)
  | link (here : List String) (rest : List (List Char))
  | fault (e : FileError)

def advance (fs : FileSystem) : List String → List (List Char) → Reach
  | here, [] => .place here
  | here, p :: ps =>
    match fs.enter here p with
    | .error e => .fault e
    | .ok next =>
      match (fs.look next).bind Entry.target? with
      | some target => .link (startFrom here target) (waysOf target ++ ps)
      | none => fs.advance next ps

def follow (fs : FileSystem) (links : Nat) (here : List String) (ps : List (List Char)) :
    Except FileError (List String) :=
  match fs.advance here ps, links with
  | .place found, _ => .ok found
  | .fault e, _ => .error e
  | .link _ _, 0 => .error .tooManyLinks
  | .link start rest, links + 1 => fs.follow links start rest

def locate (fs : FileSystem) (path : String) : Except FileError (List String) := do
  checkPath path
  fs.follow maxLinks (startFrom fs.cwd path) (parts path)

def place (fs : FileSystem) (path : String) : Except FileError (List String) := do
  let found ← fs.locate path
  match fs.look found with
  | some e => if namesDirectory path && !e.isDir then throw .notADirectory else return found
  | none => throw .notFound

def entry (fs : FileSystem) (path : String) : Except FileError Entry := do
  let found ← fs.place path
  match fs.look found with
  | some e => return e
  | none => throw .notFound

def isFile (fs : FileSystem) (path : String) : Bool :=
  match fs.entry path with
  | .ok e => e.isFile
  | .error _ => false

def read (fs : FileSystem) (path : String) : Except FileError (List UInt8) := do
  (← fs.entry path).content

def readDir (fs : FileSystem) (path : String) : Except FileError (List (String × Entry)) := do
  match ← fs.entry path with
  | .dir es => return es
  | .locked true e => throw e
  | _ => throw .notADirectory

-- The place that a file would be written at.
def target (fs : FileSystem) (path : String) : Except FileError (List String) := do
  let found ← fs.locate path
  if namesDirectory path then throw .isADirectory
  match fs.look found with
  | some (.file _) | some .device => return found
  | some (.locked false e) => throw e
  | some _ => throw .isADirectory
  | none =>
    match fs.root.at? found.dropLast with
    | some (.dir _) => return found
    | _ => throw .denied

def namesOf (fs : FileSystem) (place : List String) : List (List String) :=
  place :: (fs.hardLinks.filter (·.contains place)).flatten.filter fun name =>
    name != place && ((fs.root.at? name).any fun e => e matches .file _)

-- What is stored at a place can be had by all names of the file there. A device keeps nothing.
def store (fs : FileSystem) (place : List String) (bytes : List UInt8) : FileSystem :=
  match fs.look place with
  | some .device => fs
  | _ => { fs with
      root := (fs.namesOf place).foldl (fun root name => root.put name (.file bytes)) fs.root }

def write (fs : FileSystem) (path : String) (bytes : List UInt8) :
    Except FileError FileSystem := do
  return fs.store (← fs.target path) bytes

end FileSystem

end GodotAtlas.Files
