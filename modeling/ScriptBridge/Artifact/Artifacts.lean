import ScriptBridge.Artifact.Bindings
import ScriptBridge.Artifact.Declarations
import ScriptBridge.Artifact.Registrations

/-!
The three artifacts made from a surface. Each may fail by itself.
-/

namespace ScriptBridge

inductive ArtifactKind
  | declarations
  | bindings
  | serializer
deriving Repr, DecidableEq

namespace ArtifactKind

/-- The order artifacts are made and written in. -/
def all : List ArtifactKind := [.declarations, .bindings, .serializer]

def name : ArtifactKind → String
  | .declarations => "declarations"
  | .bindings => "bindings"
  | .serializer => "serializer"

/-- What is said of an artifact that could not be made, and why. -/
def failureText (kind : ArtifactKind) (fault : EmitFault) : String :=
  "failed to generate " ++ kind.name ++ ": " ++ fault.message

end ArtifactKind

structure Artifacts where
  declarations : Except EmitFault String
  bindings : Except EmitFault String
  serializer : Except EmitFault String

namespace Artifacts

def ofSurface (surface : Surface) (handlers : TypeHandlers) : Artifacts :=
  { declarations := (NamespaceDeclaration.ofSurface surface handlers).map NamespaceDeclaration.fileText
    bindings := (BindingObject.ofSurface surface).map BindingObject.fileText
    serializer := .ok (Registration.fileText (Registration.ofSurface surface)) }

def get (artifacts : Artifacts) : ArtifactKind → Except EmitFault String
  | .declarations => artifacts.declarations
  | .bindings => artifacts.bindings
  | .serializer => artifacts.serializer

def fault? (artifacts : Artifacts) (kind : ArtifactKind) : Option EmitFault :=
  match artifacts.get kind with
  | .ok _ => none
  | .error fault => some fault

def text (artifacts : Artifacts) (kind : ArtifactKind) : String :=
  match artifacts.get kind with
  | .ok text => text
  | .error _ => ""

def isComplete (artifacts : Artifacts) : Bool :=
  ArtifactKind.all.all fun kind => (artifacts.fault? kind).isNone

end Artifacts

end ScriptBridge
