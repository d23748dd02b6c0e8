import GodotAtlas.Text.Matcher

namespace GodotAtlas.Files

open Text

inductive Component where
  | root | current | parent
  | name (text : String)
deriving DecidableEq, Repr

namespace Component

def text : Component → String
  | root => "/"
  | current => "."
  | parent => ".."
  | name t => t

def ofPart (part : List Char) : Component :=
  if part = ['.', '.'] then parent else name (String.ofList part)

end Component

def parts (path : String) : List (List Char) :=
  (splitAt '/' path.toList).filter (!·.isEmpty)

def isAbsolute (path : String) : Bool :=
  path.toList.head? == some '/'

def components (path : String) : List Component :=
  let rest := ((parts path).filter (· != ['.'])).map .ofPart
  if isAbsolute path then .root :: rest
  else if (parts path).head? == some ['.'] then .current :: rest
  else rest

def dropStart? {α : Type} [DecidableEq α] : (start whole : List α) → Option (List α)
  | [], whole => some whole
  | _ :: _, [] => none
  | a :: start, b :: whole => if a = b then dropStart? start whole else none

-- A path seen from a root, with its components joined by slashes. A path that is not below the root
-- is kept whole.
def relativePath (root path : String) : String :=
  let whole := components path
  "/".intercalate (((dropStart? (components root) whole).getD whole).map (·.text))

def join (base path : String) : String :=
  if isAbsolute path || base.isEmpty then path
  else if base.toList.getLast? = some '/' then base ++ path
  else base ++ "/" ++ path

def fileName? (path : String) : Option String :=
  match (components path).getLast? with
  | some (.name t) => some t
  | _ => none

-- What stands behind the last dot of a name, unless that dot is the first character.
def extensionOf? (name : List Char) : Option (List Char) :=
  let behind := (name.reverse.takeWhile (· != '.')).reverse
  if name.length ≤ behind.length + 1 then none else some behind

def extension (path : String) : String :=
  let found := (fileName? path).bind fun n => extensionOf? n.toList
  String.ofList ((found.getD []).map Char.toLower)

end GodotAtlas.Files
