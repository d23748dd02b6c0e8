import GodotAtlas.Format.Header

namespace GodotAtlas.Format

structure ExtResource where
  type : Option String
  path : Option String
  id : Option String
deriving DecidableEq, Repr

def scriptTypes : List String := ["Script", "GDScript"]

namespace ExtResource

def isScript (r : ExtResource) : Bool :=
  r.type.any scriptTypes.contains

def ofHeader (h : Header) : ExtResource where
  type := h.nonEmpty? "type"
  path := h.nonEmpty? "path"
  id := h.nonEmpty? "id"

end ExtResource

structure SceneNode where
  name : String
  type : Option String
  parent : String
  «instance» : Option String
deriving DecidableEq, Repr

def nodeDepth (parent : String) : Nat :=
  if parent = "" then 0
  else if parent = "." then 1
  else parent.toList.count '/' + 2

def SceneNode.depth (n : SceneNode) : Nat :=
  nodeDepth n.parent

structure Connection where
  signal : String
  source : String
  target : String
  method : String
deriving DecidableEq, Repr

structure SceneRoot where
  name : String
  type : String
deriving DecidableEq, Repr

structure Scene where
  root : Option SceneRoot := none
  nodes : List SceneNode := []
  extResources : List ExtResource := []
  subResources : List String := []
  connections : List Connection := []
  script : Option String := none
  error : Option String := none
deriving DecidableEq, Repr

def unknown : String := "?"

def pathOfId (resources : List ExtResource) (id : String) : Option String :=
  (resources.filter fun r => r.id == some id && r.path.isSome).getLast?.bind (·.path)

-- What an instance value stands for: the path of the resource that it calls for, else itself.
def resolveInstance (resources : List ExtResource) (value : String) : String :=
  ((extResourceId? value).bind (pathOfId resources)).getD value

def SceneNode.ofHeader (resources : List ExtResource) (h : Header) : SceneNode where
  name := (h.nonEmpty? "name").getD unknown
  type := h.nonEmpty? "type"
  parent := (h.get? "parent").getD ""
  «instance» := (h.get? "instance").map (resolveInstance resources)

def Connection.ofHeader? (h : Header) : Option Connection := do
  let signal ← h.get? "signal"
  let source ← h.get? "from"
  let target ← h.get? "to"
  let method ← h.get? "method"
  return { signal, source, target, method }

def SceneRoot.ofNode (n : SceneNode) : SceneRoot where
  name := n.name
  type := n.type.getD unknown

namespace Scene

def ofHeaders (headers : List Header) : Scene :=
  let ofKind (kind : String) := headers.filter (·.kind == kind)
  let extResources := (ofKind "ext_resource").map .ofHeader
  let nodes := (ofKind "node").map (.ofHeader extResources)
  { root := nodes.head?.map .ofNode
    nodes
    extResources
    subResources := (ofKind "sub_resource").filterMap (·.nonEmpty? "type")
    connections := (ofKind "connection").filterMap Connection.ofHeader?
    script := (extResources.find? (·.isScript)).bind (·.path) }

def ofText (text : List Char) : Scene :=
  ofHeaders (Header.all text)

def unreadable (error : String) : Scene :=
  { error := some error }

end Scene

end GodotAtlas.Format
