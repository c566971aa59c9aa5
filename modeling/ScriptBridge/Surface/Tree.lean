import ScriptBridge.Surface

/-!
The namespaces of a surface as a tree of their segments, which is built by inserting them one by one.
-/

namespace ScriptBridge

/-- A namespace: its own methods and types, and the namespaces inside it. The root has neither a name nor a
path. -/
inductive NamespaceNode
  | node (name path : String) (methods : List Method) (types : List DeclaredType)
      (children : List NamespaceNode)
deriving Repr

namespace NamespaceNode

def name : NamespaceNode → String
  | .node name _ _ _ _ => name

def path : NamespaceNode → String
  | .node _ path _ _ _ => path

def methods : NamespaceNode → List Method
  | .node _ _ methods _ _ => methods

def types : NamespaceNode → List DeclaredType
  | .node _ _ _ types _ => types

def children : NamespaceNode → List NamespaceNode
  | .node _ _ _ _ children => children

def empty (name path : String) : NamespaceNode :=
  .node name path [] [] []

def addMethod (method : Method) : NamespaceNode → NamespaceNode
  | .node name path methods types children => .node name path (methods ++ [method]) types children

def addType (type : DeclaredType) : NamespaceNode → NamespaceNode
  | .node name path methods types children => .node name path methods (types ++ [type]) children

/-- The path of a namespace inside another one. -/
def pathInside (path segment : String) : String :=
  if path.isEmpty then segment else path ++ "." ++ segment

/-- The tree with a change made to the node that some segments lead to. Those on the way that are not there
are made, and stand after their siblings. -/
def change (f : NamespaceNode → NamespaceNode) : List String → NamespaceNode → NamespaceNode
  | [], space => f space
  | segment :: rest, .node name path methods types children =>
    if children.any (·.name == segment) then
      .node name path methods types (children.map fun child =>
        if child.name == segment then child.change f rest else child)
    else
      .node name path methods types
        (children ++ [(empty segment (pathInside path segment)).change f rest])

end NamespaceNode

namespace Surface

/-- The nodes of the namespaces of a surface, each by the segments that lead to it. -/
def nodes (surface : Surface) : List (String × List String) :=
  surface.namespaces.map fun space => (space, Namespace.segments space)

/-- The tree of the namespaces of a surface. First the namespaces are put into it, then the methods and then
the types, each into the node of the namespace it stands in. None if there is no such node. -/
def tree? (surface : Surface) : Option NamespaceNode := do
  let spaces := surface.nodes.foldl (fun root (_, place) => root.change id place) (.empty "" "")
  let withMethods ← surface.methods.foldlM (fun root method => do
    return root.change (.addMethod method) (← surface.nodes.lookup method.scriptSpace)) spaces
  surface.types.foldlM (fun root type => do
    return root.change (.addType type) (← surface.nodes.lookup type.scriptSpace)) withMethods

/-- The tree of a surface whose methods and types stand in its namespaces. -/
def root (surface : Surface) : NamespaceNode :=
  surface.tree?.getD (.empty "" "")

end Surface

end ScriptBridge
