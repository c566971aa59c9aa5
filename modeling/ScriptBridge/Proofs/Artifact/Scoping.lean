import Mathlib
import ScriptBridge.Proofs.Artifact.DeclaredTypes
import ScriptBridge.Proofs.Text.Split

/-!
# What the names in a declaration file denote

A declared type is written by its name, qualified where it stands in another namespace. Script looks
up the first part of such a text from the inside out, so it reaches the declaration of the type
unless something declared on the way has the same name.
-/

namespace ScriptBridge

/-! ### References in script-side types -/

namespace ScriptType

mutual

/-- The declared types that a script-side type refers to, each by its qualifier and its name. -/
def references : ScriptType → List (Option String × String)
  | .declared qualifier name => [(qualifier, name)]
  | .instance qualifier name args => (qualifier, name) :: allReferences args
  | .array element => element.references
  | .map key value => key.references ++ value.references
  | .promise result => result.references
  | .union inner _ => inner.references
  | .plain _ | .parameter _ | .custom _ => []

def allReferences : List ScriptType → List (Option String × String)
  | [] => []
  | type :: rest => type.references ++ allReferences rest

end

/-- How a declared type is referred to in a namespace. -/
def reference (surface : Surface) (space : String) (identity : TypeIdentity) :
    Option String × String :=
  (qualifier surface identity space, identity.name.display)

section References

variable {surface : Surface} {handlers : TypeHandlers} {space : String}

mutual

/-- The type of a reference refers to what the reference names, in the same order. -/
theorem references_of_ofRef : ∀ (ref : TypeRef) {position : Position} {type : ScriptType},
    ofRef surface handlers space position ref = .ok type →
      type.references = ref.identities.map (reference surface space)
  | .primitive _ _, _, _, hmade => by
    cases hmade
    rfl
  | .custom identity, _, _, hmade => by
    cases hmade
    rfl
  | .task, _, _, hmade => by
    cases hmade
    rfl
  | .parameter _, _, _, hmade => by
    cases hmade
    rfl
  | .unknown managed _, _, _, hmade => by
    rw [ofRef] at hmade
    cases hhandler : handlers.lookup managed with
    | none =>
      rw [hhandler] at hmade
      cases hmade
      rfl
    | some handler =>
      rw [hhandler] at hmade
      obtain ⟨text, -, rfl⟩ := Outcome.map_eq_ok_iff.1 hmade
      rfl
  | .nullable inner, _, _, hmade => by
    obtain ⟨type, htype, hmade⟩ := Outcome.bind_eq_ok_iff.1 hmade
    cases hmade
    rw [references]
    exact references_of_ofRef inner htype
  | .array element _, _, _, hmade => by
    obtain ⟨type, htype, hmade⟩ := Outcome.bind_eq_ok_iff.1 hmade
    cases hmade
    rw [references]
    exact references_of_ofRef element htype
  | .taskOf inner, _, _, hmade => by
    obtain ⟨type, htype, hmade⟩ := Outcome.bind_eq_ok_iff.1 hmade
    cases hmade
    rw [references]
    exact references_of_ofRef inner htype
  | .map key value _, _, _, hmade => by
    obtain ⟨keyType, hkey, hmade⟩ := Outcome.bind_eq_ok_iff.1 hmade
    obtain ⟨valueType, hvalue, hmade⟩ := Outcome.bind_eq_ok_iff.1 hmade
    cases hmade
    rw [references, references_of_ofRef key hkey, references_of_ofRef value hvalue,
      TypeRef.identities_map, List.map_append]
  | .generic identity args, _, _, hmade => by
    obtain ⟨types, htypes, hmade⟩ := Outcome.bind_eq_ok_iff.1 hmade
    obtain ⟨_, -, hmade⟩ := Outcome.bind_eq_ok_iff.1 hmade
    cases hmade
    rw [references, references_of_ofRefs args htypes, TypeRef.identities_generic, List.map_cons]
    rfl

theorem references_of_ofRefs : ∀ (refs : List TypeRef) {types : List ScriptType},
    ofRefs surface handlers space refs = .ok types →
      allReferences types = (refs.flatMap TypeRef.identities).map (reference surface space)
  | [], _, hmade => by
    cases hmade
    rfl
  | ref :: refs, _, hmade => by
    obtain ⟨type, htype, hmade⟩ := Outcome.bind_eq_ok_iff.1 hmade
    obtain ⟨types, htypes, hmade⟩ := Outcome.bind_eq_ok_iff.1 hmade
    cases hmade
    rw [allReferences, references_of_ofRef ref htype, references_of_ofRefs refs htypes,
      List.flatMap_cons, List.map_append]

end

end References

end ScriptType

/-! ### Where types are written -/

/-- A place in a declaration file: the namespace whose block it is in, and the type parameters in
scope. -/
structure Scope where
  path : List String
  parameters : List String

/-- The namespaces around a place, innermost first; the last is that of the file. -/
def Scope.enclosing (scope : Scope) : List (List String) :=
  scope.path.inits.reverse

namespace NamespaceDeclaration

/-- A type is written at a place in a file: as a base or the type of a property of an interface, or
as the type of a parameter or the result of a method. -/
inductive Writes (file : List NamespaceDeclaration) : Scope → ScriptType → Prop
  | base {declaration : NamespaceDeclaration} {outer : InterfaceDeclaration} {type : ScriptType} :
    declaration ∈ file → .interface outer ∈ declaration.types → type ∈ outer.bases →
    Writes file { path := declaration.path, parameters := outer.parameters } type
  | property {declaration : NamespaceDeclaration} {outer : InterfaceDeclaration}
      {property : PropertyDeclaration} :
    declaration ∈ file → .interface outer ∈ declaration.types → property ∈ outer.properties →
    Writes file { path := declaration.path, parameters := outer.parameters } property.type
  | parameter {declaration : NamespaceDeclaration} {method : MethodDeclaration} {name : String}
      {type : ScriptType} :
    declaration ∈ file → method ∈ declaration.methods → (name, type) ∈ method.parameters →
    Writes file { path := declaration.path, parameters := [] } type
  | result {declaration : NamespaceDeclaration} {method : MethodDeclaration} {type : ScriptType} :
    declaration ∈ file → method ∈ declaration.methods → method.result = some type →
    Writes file { path := declaration.path, parameters := [] } type

/-- A file has a block of the namespace at a path, or of one inside it. -/
def opens (file : List NamespaceDeclaration) (path : List String) : Bool :=
  file.any fun declaration => path.isPrefixOf declaration.path

/-- A file declares a namespace, an interface or an enumeration of a name at a path. -/
def declares (file : List NamespaceDeclaration) (path : List String) (name : String) : Bool :=
  opens file (path ++ [name]) || (typesAt file path).any (·.name == name)

/-- Where the parts of a dotted name lead from a place. The first is looked up among the type
parameters, which lead nowhere, and then outwards among what the file declares; the others follow
from there. -/
def resolve? (file : List NamespaceDeclaration) (scope : Scope) : List String → Option (List String)
  | [] => none
  | first :: rest =>
    if first ∈ scope.parameters then none
    else (scope.enclosing.find? (declares file · first)).map (· ++ first :: rest)

end NamespaceDeclaration

/-- A surface refers to a type in a namespace, with some type parameters in scope. -/
inductive Surface.Refers (surface : Surface) : String → List Value → TypeRef → Prop
  | base {type : DeclaredType} {base : TypeRef} :
    type ∈ surface.types → base ∈ type.bases →
    Refers surface type.scriptSpace type.parameters base
  | member {type : DeclaredType} {member : Member} :
    type ∈ surface.types → member ∈ type.members →
    Refers surface type.scriptSpace type.parameters member.type
  | signature {method : Method} {ref : TypeRef} :
    method ∈ surface.methods → ref ∈ method.signature →
    Refers surface method.scriptSpace [] ref

section Written

variable {surface : Surface} {handlers : TypeHandlers} {file : List NamespaceDeclaration}

theorem references_of_ofMember {space : String} {member : Member} {property : PropertyDeclaration}
    (hmade : PropertyDeclaration.ofMember surface handlers space member = .ok property) :
    property.type.references =
      member.type.identities.map (ScriptType.reference surface space) := by
  unfold PropertyDeclaration.ofMember at hmade
  split at hmade
  · rename_i inner hnullable
    obtain ⟨type, htype, hmade⟩ := Outcome.bind_eq_ok_iff.1 hmade
    cases hmade
    rw [hnullable, TypeRef.identities_nullable]
    exact ScriptType.references_of_ofRef inner htype
  · obtain ⟨type, htype, hmade⟩ := Outcome.bind_eq_ok_iff.1 hmade
    cases hmade
    exact ScriptType.references_of_ofRef member.type htype

/-- An interface is that of an object type, with its type parameters, bases and members. -/
theorem exists_of_interface {type : DeclaredType} {outer : InterfaceDeclaration}
    (hmade : TypeDeclaration.ofType surface handlers type = .ok (.interface outer)) :
    outer.parameters.map Value.text = type.parameters ∧
      type.bases.mapM (ScriptType.ofRef surface handlers type.scriptSpace .nested) =
        .ok outer.bases ∧
      type.members.mapM (PropertyDeclaration.ofMember surface handlers type.scriptSpace) =
        .ok outer.properties := by
  have hparameters := (TypeDeclaration.signature_of_ofType hmade).2
  refine ⟨hparameters, ?_⟩
  unfold TypeDeclaration.ofType at hmade
  unfold DeclaredType.bases DeclaredType.members
  split at hmade
  · obtain ⟨members, -, hmade⟩ := Outcome.bind_eq_ok_iff.1 hmade
    cases hmade
  · rename_i parameters members bases hshape
    obtain ⟨names, -, hmade⟩ := Outcome.bind_eq_ok_iff.1 hmade
    obtain ⟨baseTypes, hbases, hmade⟩ := Outcome.bind_eq_ok_iff.1 hmade
    obtain ⟨_, -, hmade⟩ := Outcome.bind_eq_ok_iff.1 hmade
    obtain ⟨properties, hproperties, hmade⟩ := Outcome.bind_eq_ok_iff.1 hmade
    cases hmade
    rw [hshape]
    exact ⟨hbases, hproperties⟩

theorem exists_of_method {method : Method} {declared : MethodDeclaration}
    (hmade : MethodDeclaration.ofMethod surface handlers method = .ok declared) :
    (∀ name type, (name, type) ∈ declared.parameters → ∃ argument ∈ method.arguments,
        ScriptType.ofRef surface handlers method.scriptSpace .argument argument.type = .ok type) ∧
      ∀ type, declared.result = some type →
        ScriptType.ofRef surface handlers method.scriptSpace .result method.returns = .ok type := by
  obtain ⟨parameters, hparameters, hmade⟩ := Outcome.bind_eq_ok_iff.1 hmade
  have hdeclared : declared.parameters = parameters ∧ ∀ type, declared.result = some type →
      ScriptType.ofRef surface handlers method.scriptSpace .result method.returns = .ok type := by
    dsimp only at hmade
    split at hmade
    · cases hmade
      exact ⟨rfl, fun _ hresult => nomatch hresult⟩
    · obtain ⟨result, hresult, hmade⟩ := Outcome.bind_eq_ok_iff.1 hmade
      obtain ⟨type, htype, rfl⟩ := Outcome.map_eq_ok_iff.1 hresult
      cases hmade
      exact ⟨rfl, fun other hother => Option.some.inj hother ▸ htype⟩
  refine ⟨fun name type hmem => ?_, hdeclared.2⟩
  rw [hdeclared.1] at hmem
  obtain ⟨argument, hargument, hmade⟩ := Outcome.exists_of_mem_results hparameters hmem
  obtain ⟨made, htype, hmade⟩ := Outcome.bind_eq_ok_iff.1 hmade
  cases hmade
  exact ⟨argument, hargument, htype⟩

section File

variable {declaration : NamespaceDeclaration}
  (hmade : NamespaceDeclaration.ofSurface surface handlers = .ok file)
  (hdeclaration : declaration ∈ file)

include hmade hdeclaration

/-- An interface in a file is that of a type that stands at the path of its block. -/
theorem exists_type_of_mem {outer : InterfaceDeclaration}
    (houter : .interface outer ∈ declaration.types) :
    ∃ type ∈ surface.types, Namespace.segments type.scriptSpace = declaration.path ∧
      TypeDeclaration.ofType surface handlers type = .ok (.interface outer) := by
  obtain ⟨space, -, hspace⟩ := Outcome.exists_of_mem_results hmade hdeclaration
  obtain ⟨hpath, htypes, -⟩ := parts_of_ofNamespace hspace
  obtain ⟨type, htype, htypeMade⟩ := Outcome.exists_of_mem_results htypes houter
  obtain ⟨hmem, hsame⟩ := List.mem_filter.1 htype
  rw [beq_iff_eq] at hsame
  exact ⟨type, hmem, by rw [hsame, hpath], htypeMade⟩

theorem exists_method_of_mem {declared : MethodDeclaration}
    (hdeclared : declared ∈ declaration.methods) :
    ∃ method ∈ surface.methods, Namespace.segments method.scriptSpace = declaration.path ∧
      MethodDeclaration.ofMethod surface handlers method = .ok declared := by
  obtain ⟨space, -, hspace⟩ := Outcome.exists_of_mem_results hmade hdeclaration
  obtain ⟨hpath, -, hmethods⟩ := parts_of_ofNamespace hspace
  obtain ⟨method, hmethod, hmethodMade⟩ := Outcome.exists_of_mem_results hmethods hdeclared
  obtain ⟨hmem, hsame⟩ := List.mem_filter.1 hmethod
  rw [beq_iff_eq] at hsame
  exact ⟨method, hmem, by rw [hsame, hpath], hmethodMade⟩

end File

/-- What is written in a file is what the surface refers to in the namespace of the block. -/
theorem exists_refers_of_writes (hmade : NamespaceDeclaration.ofSurface surface handlers = .ok file)
    {scope : Scope} {written : ScriptType}
    (hwrites : NamespaceDeclaration.Writes file scope written) :
    ∃ space ref, surface.Refers space (scope.parameters.map Value.text) ref ∧
      Namespace.segments space = scope.path ∧
      written.references = ref.identities.map (ScriptType.reference surface space) := by
  cases hwrites with
  | base hdeclaration hinterface hbase =>
    obtain ⟨type, htype, hpath, htypeMade⟩ := exists_type_of_mem hmade hdeclaration hinterface
    obtain ⟨hparameters, hbases, -⟩ := exists_of_interface htypeMade
    obtain ⟨ref, href, hwritten⟩ := Outcome.exists_of_mem_results hbases hbase
    exact ⟨type.scriptSpace, ref, hparameters ▸ .base htype href, hpath,
      ScriptType.references_of_ofRef ref hwritten⟩
  | property hdeclaration hinterface hproperty =>
    obtain ⟨type, htype, hpath, htypeMade⟩ := exists_type_of_mem hmade hdeclaration hinterface
    obtain ⟨hparameters, -, hproperties⟩ := exists_of_interface htypeMade
    obtain ⟨member, hmember, hwritten⟩ := Outcome.exists_of_mem_results hproperties hproperty
    exact ⟨type.scriptSpace, member.type, hparameters ▸ .member htype hmember, hpath,
      references_of_ofMember hwritten⟩
  | parameter hdeclaration hdeclared hparameter =>
    obtain ⟨method, hmem, hpath, hmethodMade⟩ := exists_method_of_mem hmade hdeclaration hdeclared
    obtain ⟨argument, hargument, hwritten⟩ := (exists_of_method hmethodMade).1 _ _ hparameter
    have href : argument.type ∈ method.signature :=
      List.mem_append_left _ (List.mem_map_of_mem hargument)
    exact ⟨method.scriptSpace, argument.type, .signature hmem href, hpath,
      ScriptType.references_of_ofRef _ hwritten⟩
  | result hdeclaration hdeclared hresult =>
    obtain ⟨method, hmem, hpath, hmethodMade⟩ := exists_method_of_mem hmade hdeclaration hdeclared
    have hwritten := (exists_of_method hmethodMade).2 _ hresult
    have href : method.returns ∈ method.signature := by simp [Method.signature]
    exact ⟨method.scriptSpace, method.returns, .signature hmem href, hpath,
      ScriptType.references_of_ofRef _ hwritten⟩

/-- Whatever a surface refers to is among its types. -/
theorem exists_type_of_refers {inspector : Inspector} {modules : List Descriptor}
    (hinspect : (inspector.inspect modules).result = .ok surface) {space : String}
    {parameters : List Value} {ref : TypeRef} (hrefers : surface.Refers space parameters ref)
    {identity : TypeIdentity} (hidentity : identity ∈ ref.identities) :
    ∃ type ∈ surface.types, type.identity = identity := by
  obtain ⟨hsignature, hmentions⟩ := mentioned_of_inspect hinspect
  have hmentioned := TypeRef.mem_identities_iff.1 hidentity
  cases hrefers with
  | base htype hbase => exact hmentions _ htype identity (.inl ⟨_, hbase, hmentioned⟩)
  | member htype hmember => exact hmentions _ htype identity (.inr ⟨_, hmember, hmentioned⟩)
  | signature hmethod href => exact hsignature _ hmethod _ href identity hmentioned

end Written

/-! ### Looking up a name -/

namespace Scope

variable {scope : Scope} {p : List String → Bool}

theorem exists_enclosing_eq_cons (scope : Scope) :
    ∃ outer, scope.enclosing = scope.path :: outer := by
  have hinits : ∀ path : List String, ∃ before, path.inits = before ++ [path] := by
    intro path
    induction path with
    | nil => exact ⟨[], rfl⟩
    | cons segment path ih =>
      obtain ⟨before, hbefore⟩ := ih
      exact ⟨[] :: before.map (segment :: ·), by rw [List.inits_cons, hbefore]; simp⟩
  obtain ⟨before, hbefore⟩ := hinits scope.path
  exact ⟨before.reverse, by rw [enclosing, hbefore, List.reverse_append]; rfl⟩

theorem exists_enclosing_eq_concat (scope : Scope) :
    ∃ inner, scope.enclosing = inner ++ [[]] ∧
      ∀ path, path ∈ inner ↔ path ≠ [] ∧ path <+: scope.path := by
  obtain ⟨path, parameters⟩ := scope
  cases path with
  | nil =>
    refine ⟨[], rfl, fun path => ?_⟩
    simp
  | cons segment rest =>
    refine ⟨(rest.inits.map (segment :: ·)).reverse, ?_, fun path => ?_⟩
    · rw [enclosing, List.inits_cons, List.reverse_cons]
    · rw [List.mem_reverse, List.mem_map]
      constructor
      · rintro ⟨inner, hinner, rfl⟩
        exact ⟨List.cons_ne_nil _ _, List.cons_prefix_cons.2 ⟨rfl, (List.mem_inits _ _).1 hinner⟩⟩
      · rintro ⟨hpath, hprefix⟩
        obtain ⟨first, inner, rfl⟩ := List.exists_cons_of_ne_nil hpath
        obtain ⟨rfl, hinner⟩ := List.cons_prefix_cons.1 hprefix
        exact ⟨inner, (List.mem_inits _ _).2 hinner, rfl⟩

/-- What is found in the innermost namespace is found first. -/
theorem find?_enclosing_of_here (hhere : p scope.path = true) :
    scope.enclosing.find? p = some scope.path := by
  obtain ⟨outer, houter⟩ := exists_enclosing_eq_cons scope
  rw [houter, List.find?_cons_of_pos hhere]

/-- The file comes last. -/
theorem find?_enclosing_eq_nil_iff :
    scope.enclosing.find? p = some [] ↔
      p [] = true ∧ ∀ path, path ≠ [] → path <+: scope.path → p path = false := by
  obtain ⟨inner, hinner, hmem⟩ := exists_enclosing_eq_concat scope
  rw [hinner, List.find?_append]
  cases hfind : inner.find? p with
  | some found =>
    have hfound := (hmem found).1 (List.mem_of_find?_eq_some hfind)
    refine iff_of_false (fun hnil => hfound.1 (Option.some.inj hnil)) fun hnone => ?_
    have hkept := List.find?_some hfind
    rw [hnone.2 found hfound.1 hfound.2] at hkept
    cases hkept
  | none =>
    have hnone : ∀ path, path ≠ [] → path <+: scope.path → p path = false := by
      intro path hpath hprefix
      simpa using List.find?_eq_none.1 hfind path ((hmem path).2 ⟨hpath, hprefix⟩)
    rw [Option.none_or, and_iff_left hnone]
    cases hfile : p [] <;> simp [hfile]

end Scope

namespace NamespaceDeclaration

variable {file : List NamespaceDeclaration} {scope : Scope} {first name : String}
  {rest target parts : List String}

theorem resolve?_cons_eq_some_iff :
    resolve? file scope (first :: rest) = some target ↔
      first ∉ scope.parameters ∧ ∃ path,
        scope.enclosing.find? (declares file · first) = some path ∧
          path ++ first :: rest = target := by
  rw [resolve?]
  by_cases hparameter : first ∈ scope.parameters
  · simp [hparameter]
  · rw [if_neg hparameter, Option.map_eq_some_iff, and_iff_right hparameter]

/-- A name leads to something of its last part. -/
theorem mem_of_resolve? (hresolve : resolve? file scope parts = some (target ++ [name])) :
    name ∈ parts := by
  cases parts with
  | nil => cases hresolve
  | cons first rest =>
    obtain ⟨-, path, -, happend⟩ := resolve?_cons_eq_some_iff.1 hresolve
    have hlast := congrArg List.getLast? happend
    rw [List.getLast?_append_cons, List.getLast?_concat] at hlast
    exact List.mem_of_getLast? hlast

end NamespaceDeclaration

/-! ### What a name reaches -/

open NamespaceDeclaration (typesAt opens declares resolve?)

/-- A text written at a place leads to the declaration of a type, and to no other of its name. -/
def Reaches (surface : Surface) (handlers : TypeHandlers) (file : List NamespaceDeclaration)
    (scope : Scope) (text : String) (type : DeclaredType) : Prop :=
  resolve? file scope (Text.dottedParts text) =
      some (Namespace.segments type.scriptSpace ++ [type.identity.name.display]) ∧
    ∃ declaration, TypeDeclaration.ofType surface handlers type = .ok declaration ∧
      (typesAt file (Namespace.segments type.scriptSpace)).filter
        (·.name == type.identity.name.display) = [declaration]

/-- Nothing is in the way from a place in a namespace to the declaration of a type. Its name is not
dotted, and no other type of that name stands beside it. Its name alone must not be a type
parameter. If it is qualified, its namespace has no empty segment, and the outermost segment is
neither a type parameter nor declared in a namespace around the place. -/
structure Unobstructed (surface : Surface) (file : List NamespaceDeclaration) (space : String)
    (scope : Scope) (type : DeclaredType) : Prop where
  plain : '.' ∉ type.identity.name.display.toList
  alone : ∀ other ∈ surface.types,
    Namespace.segments other.scriptSpace = Namespace.segments type.scriptSpace →
      other.identity.name.display = type.identity.name.display → other = type
  unqualified : type.scriptSpace = space → type.identity.name.display ∉ scope.parameters
  qualified : type.scriptSpace ≠ space →
    Text.dottedParts type.scriptSpace = Namespace.segments type.scriptSpace ∧
      ∀ first, (Namespace.segments type.scriptSpace).head? = some first →
        first ∉ scope.parameters ∧
          ∀ path, path ≠ [] → path <+: scope.path → declares file path first = false

section Reaches

variable {surface : Surface} {handlers : TypeHandlers} {file : List NamespaceDeclaration}
  {type : DeclaredType}

theorem qualifier_eq (hdistinct : (surface.types.map (·.identity)).Nodup)
    (htype : type ∈ surface.types) (space : String) :
    ScriptType.qualifier surface type.identity space =
      if type.scriptSpace = space then none else some type.scriptSpace := by
  simp only [ScriptType.qualifier, ScriptType.spaceOf, Surface.findType?_eq_some hdistinct htype,
    beq_iff_eq]

/-- A type is declared in a block of its namespace. -/
theorem exists_block_of_mem (hplaced : surface.Placed)
    (hmade : NamespaceDeclaration.ofSurface surface handlers = .ok file)
    (htype : type ∈ surface.types) :
    declares file (Namespace.segments type.scriptSpace) type.identity.name.display = true ∧
      ∀ path, path <+: Namespace.segments type.scriptSpace → opens file path = true := by
  have hhere : type ∈ surface.typesAt (Namespace.segments type.scriptSpace) :=
    List.mem_filter.2 ⟨htype, by simp⟩
  have hsignatures := NamespaceDeclaration.perm_signatures hplaced hmade
    (Namespace.segments type.scriptSpace)
  obtain ⟨declared, hdeclared, hsignature⟩ :=
    List.mem_map.1 (hsignatures.mem_iff.2 (List.mem_map_of_mem hhere))
  obtain ⟨hname, -⟩ := Prod.mk.inj hsignature
  obtain ⟨declaration, hdeclaration, -⟩ := List.mem_flatMap.1 hdeclared
  obtain ⟨hfile, hpath⟩ := List.mem_filter.1 hdeclaration
  rw [beq_iff_eq] at hpath
  constructor
  · rw [declares, Bool.or_eq_true]
    exact .inr (List.any_eq_true.2 ⟨declared, hdeclared, by simp [hname]⟩)
  · intro path hprefix
    refine List.any_eq_true.2 ⟨declaration, hfile, ?_⟩
    rw [hpath]
    exact List.isPrefixOf_iff_prefix.2 hprefix

/-- The types of a name at a path are declared there one by one. -/
theorem exists_perm_named (hplaced : surface.Placed)
    (hmade : NamespaceDeclaration.ofSurface surface handlers = .ok file) (path : List String)
    (name : String) :
    ∃ declarations,
      ((surface.typesAt path).filter (·.identity.name.display == name)).mapM
          (TypeDeclaration.ofType surface handlers) = .ok declarations ∧
        ((typesAt file path).filter (·.name == name)).Perm declarations := by
  obtain ⟨declarations, hdeclarations, hperm⟩ :=
    NamespaceDeclaration.exists_perm_typesAt hplaced hmade path
  refine ⟨_, Outcome.mapM_filter hdeclarations fun type declared hdeclared => ?_,
    hperm.filter (·.name == name)⟩
  rw [(TypeDeclaration.signature_of_ofType hdeclared).1]

theorem eq_singleton_iff {α : Type} {items : List α} (hdistinct : items.Nodup) {item : α}
    (hmem : item ∈ items) : items = [item] ↔ ∀ other ∈ items, other = item := by
  constructor
  · intro hsingle other hother
    rw [hsingle] at hother
    exact List.mem_singleton.1 hother
  · intro hall
    refine List.perm_singleton.1
      ((List.perm_ext_iff_of_nodup hdistinct (List.nodup_singleton _)).2 ?_)
    intro other
    rw [List.mem_singleton]
    exact ⟨hall other, fun heq => heq ▸ hmem⟩

/-- A type is the only declaration of its name where it stands, if no other type there has it. -/
theorem exists_only_iff (hplaced : surface.Placed)
    (hdistinct : (surface.types.map (·.identity)).Nodup)
    (hmade : NamespaceDeclaration.ofSurface surface handlers = .ok file)
    (htype : type ∈ surface.types) :
    (∃ declaration, TypeDeclaration.ofType surface handlers type = .ok declaration ∧
        (typesAt file (Namespace.segments type.scriptSpace)).filter
          (·.name == type.identity.name.display) = [declaration]) ↔
      ∀ other ∈ surface.types,
        Namespace.segments other.scriptSpace = Namespace.segments type.scriptSpace →
          other.identity.name.display = type.identity.name.display → other = type := by
  obtain ⟨declarations, hdeclarations, hperm⟩ := exists_perm_named hplaced hmade
    (Namespace.segments type.scriptSpace) type.identity.name.display
  generalize hnamed : (surface.typesAt (Namespace.segments type.scriptSpace)).filter
    (·.identity.name.display == type.identity.name.display) = named at hdeclarations
  have hmem : ∀ other, other ∈ named ↔ other ∈ surface.types ∧
      Namespace.segments other.scriptSpace = Namespace.segments type.scriptSpace ∧
        other.identity.name.display = type.identity.name.display := by
    intro other
    rw [← hnamed, Surface.typesAt, List.mem_filter, List.mem_filter, beq_iff_eq, beq_iff_eq,
      and_assoc]
  have hnodup : named.Nodup := by
    rw [← hnamed]
    exact (hdistinct.of_map.filter _).filter _
  have halone : named = [type] ↔ ∀ other ∈ surface.types,
      Namespace.segments other.scriptSpace = Namespace.segments type.scriptSpace →
        other.identity.name.display = type.identity.name.display → other = type := by
    rw [eq_singleton_iff hnodup ((hmem type).2 ⟨htype, rfl, rfl⟩)]
    simp only [hmem, and_imp]
  rw [← halone]
  constructor
  · rintro ⟨declaration, -, honly⟩
    rw [honly] at hperm
    rw [← List.singleton_perm.1 hperm] at hdeclarations
    cases Outcome.mapM_eq_ok_iff.1 hdeclarations with
    | cons _ hrest =>
      cases hrest
      have hhere := (hmem type).2 ⟨htype, rfl, rfl⟩
      rw [List.mem_singleton.1 hhere]
  · intro hsingle
    rw [hsingle] at hdeclarations
    cases Outcome.mapM_eq_ok_iff.1 hdeclarations with
    | @cons _ declaration _ _ hdeclaration hrest =>
      cases hrest
      exact ⟨declaration, hdeclaration, List.perm_singleton.1 hperm⟩

section Lookup

variable {scope : Scope} {name : String}

/-- A name alone leads to the namespace it is written into. -/
theorem resolve?_unqualified_iff (hhere : declares file scope.path name = true) :
    resolve? file scope [name] = some (scope.path ++ [name]) ↔ name ∉ scope.parameters := by
  rw [NamespaceDeclaration.resolve?_cons_eq_some_iff, Scope.find?_enclosing_of_here hhere]
  exact and_iff_left ⟨scope.path, rfl, rfl⟩

/-- A qualified name leads to its namespace if the search for the first part ends in the file. -/
theorem resolve?_qualified_iff {space first : String} {rest : List String}
    (hparts : Text.dottedParts space = first :: rest)
    (hopens : ∀ path, path <+: Namespace.segments space → opens file path = true) :
    resolve? file scope (first :: rest ++ [name]) = some (Namespace.segments space ++ [name]) ↔
      Text.dottedParts space = Namespace.segments space ∧ first ∉ scope.parameters ∧
        ∀ path, path ≠ [] → path <+: scope.path → declares file path first = false := by
  rw [List.cons_append, NamespaceDeclaration.resolve?_cons_eq_some_iff, and_left_comm]
  refine and_congr_right fun _ => ?_
  constructor
  · rintro ⟨path, hfind, happend⟩
    rw [← List.cons_append, ← List.append_assoc, List.append_cancel_right_eq, ← hparts] at happend
    -- Segments are at most as many as parts, so nothing stands before the parts.
    have hlength : (Namespace.segments space).length ≤ (Text.dottedParts space).length :=
      List.length_filter_le _ _
    have hnil : path = [] := by
      rw [← happend, List.length_append] at hlength
      exact List.length_eq_zero_iff.1 (by omega)
    subst hnil
    exact ⟨by simpa using happend, (Scope.find?_enclosing_eq_nil_iff.1 hfind).2⟩
  · rintro ⟨hsegments, hnone⟩
    have hfirst : [first] <+: Namespace.segments space := by
      rw [← hsegments, hparts]
      exact List.prefix_append [first] rest
    have hfile : declares file [] first = true := by
      rw [declares, List.nil_append, hopens [first] hfirst, Bool.true_or]
    refine ⟨[], Scope.find?_enclosing_eq_nil_iff.2 ⟨hfile, hnone⟩, ?_⟩
    rw [← hsegments, hparts, List.nil_append, List.cons_append]

end Lookup

theorem reaches_iff_unobstructed (hplaced : surface.Placed)
    (hdistinct : (surface.types.map (·.identity)).Nodup)
    (hmade : NamespaceDeclaration.ofSurface surface handlers = .ok file)
    (htype : type ∈ surface.types) {space : String} {scope : Scope}
    (hspace : Namespace.segments space = scope.path) :
    Reaches surface handlers file scope
        (ScriptType.nameText (ScriptType.qualifier surface type.identity space)
          type.identity.name.display) type ↔
      Unobstructed surface file space scope type := by
  obtain ⟨hhere, hopens⟩ := exists_block_of_mem hplaced hmade htype
  have honly := exists_only_iff hplaced hdistinct hmade htype
  rw [qualifier_eq hdistinct htype]
  by_cases hsame : type.scriptSpace = space
  · rw [if_pos hsame, ScriptType.nameText]
    rw [hsame, hspace] at hhere
    have hpath : Namespace.segments type.scriptSpace = scope.path := by rw [hsame, hspace]
    constructor
    · rintro ⟨hresolve, halone⟩
      have hplain := Text.not_mem_of_mem_dottedParts (NamespaceDeclaration.mem_of_resolve? hresolve)
      rw [Text.dottedParts_eq_singleton hplain, hpath, resolve?_unqualified_iff hhere] at hresolve
      exact ⟨hplain, honly.1 halone, fun _ => hresolve, fun hother => absurd hsame hother⟩
    · rintro ⟨hplain, halone, hunqualified, -⟩
      refine ⟨?_, honly.2 halone⟩
      rw [Text.dottedParts_eq_singleton hplain, hpath, resolve?_unqualified_iff hhere]
      exact hunqualified hsame
  · rw [if_neg hsame, ScriptType.nameText, Reaches, Text.dottedParts_append]
    obtain ⟨first, rest, hparts⟩ :=
      List.exists_cons_of_ne_nil (Text.dottedParts_ne_nil type.scriptSpace)
    constructor
    · rintro ⟨hresolve, halone⟩
      have hmem := NamespaceDeclaration.mem_of_resolve? hresolve
      rw [← Text.dottedParts_append] at hmem
      have hplain := Text.not_mem_of_mem_dottedParts hmem
      rw [Text.dottedParts_eq_singleton hplain, hparts,
        resolve?_qualified_iff hparts hopens] at hresolve
      refine ⟨hplain, honly.1 halone, fun hother => absurd hother hsame, fun _ => ?_⟩
      obtain ⟨hsegments, hfirst⟩ := hresolve
      refine ⟨hsegments, fun head hhead => ?_⟩
      rw [← hsegments, hparts] at hhead
      exact Option.some.inj hhead ▸ hfirst
    · rintro ⟨hplain, halone, -, hqualified⟩
      obtain ⟨hsegments, hfirst⟩ := hqualified hsame
      refine ⟨?_, honly.2 halone⟩
      rw [Text.dottedParts_eq_singleton hplain, hparts, resolve?_qualified_iff hparts hopens]
      exact ⟨hsegments, hfirst first (by rw [← hsegments, hparts]; rfl)⟩

end Reaches

/-- Each type that is written in a declaration file refers to what a reference of the surface names,
in order; and each of these references reaches the declaration of its type just if nothing is in the
way. -/
theorem reaches_iff_of_inspect {inspector : Inspector} {modules : List Descriptor}
    {surface : Surface} {handlers : TypeHandlers} {file : List NamespaceDeclaration}
    (hreachable : inspector.resolver.Reachable)
    (hinspect : (inspector.inspect modules).result = .ok surface)
    (hmade : NamespaceDeclaration.ofSurface surface handlers = .ok file) {scope : Scope}
    {written : ScriptType} (hwrites : NamespaceDeclaration.Writes file scope written) :
    ∃ space ref, surface.Refers space (scope.parameters.map Value.text) ref ∧
      Namespace.segments space = scope.path ∧
      written.references = ref.identities.map (ScriptType.reference surface space) ∧
      ∀ identity ∈ ref.identities, ∃ type ∈ surface.types, type.identity = identity ∧
        (Reaches surface handlers file scope
            (ScriptType.nameText (ScriptType.reference surface space identity).1
              (ScriptType.reference surface space identity).2) type ↔
          Unobstructed surface file space scope type) := by
  have hplaced := placed_of_inspect hreachable hinspect
  have hdistinct := nodup_identities_of_inspect hinspect
  obtain ⟨space, ref, hrefers, hspace, hreferences⟩ := exists_refers_of_writes hmade hwrites
  refine ⟨space, ref, hrefers, hspace, hreferences, fun identity hidentity => ?_⟩
  obtain ⟨type, htype, rfl⟩ := exists_type_of_refers hinspect hrefers hidentity
  exact ⟨type, htype, rfl, reaches_iff_unobstructed hplaced hdistinct hmade htype hspace⟩

/-! ### Items in a box -/

def boxProperty : PropertyDeclaration where
  name := "value"
  isOptional := false
  type := .declared none "Item"

def boxInterface : InterfaceDeclaration where
  name := "Box"
  parameters := ["Item"]
  bases := []
  properties := [boxProperty]

def shelfBlock : NamespaceDeclaration where
  path := ["shelf"]
  types :=
    [.interface boxInterface,
      .interface { name := "Item", parameters := [], bases := [], properties := [] }]
  methods :=
    [{ kind := .invokable, name := "open", parameters := [],
       result := some (.instance none "Box" [.plain "number"]) }]

def topBlock (name : String) (result : ScriptType) : NamespaceDeclaration where
  path := ["shelf", "top"]
  types := []
  methods := [{ kind := .invokable, name, parameters := [], result := some result }]

def shelfFile : List NamespaceDeclaration :=
  [shelfBlock, topBlock "take" (.declared (some "shelf") "Item"), topBlock "clear" (.plain "void")]

theorem declared_shelfSurface : NamespaceDeclaration.ofSurface shelfSurface [] = .ok shelfFile := by
  cbv

def boxScope : Scope where
  path := ["shelf"]
  parameters := ["Item"]

def topScope : Scope where
  path := ["shelf", "top"]
  parameters := []

/-- The items in a box are taken for the type parameter of the box. -/
theorem item_not_reached_from_box :
    (shelfInspector.inspect [shelfModule]).result = .ok shelfSurface ∧
      NamespaceDeclaration.ofSurface shelfSurface [] = .ok shelfFile ∧
      NamespaceDeclaration.Writes shelfFile boxScope (.declared none "Item") ∧
      shelfSurface.Refers "shelf" [.text "Item"] (.custom itemType.identity) ∧
      ScriptType.reference shelfSurface "shelf" itemType.identity = (none, "Item") ∧
      ¬ Reaches shelfSurface [] shelfFile boxScope (ScriptType.nameText none "Item") itemType := by
  have hbox : boxType ∈ shelfSurface.types := List.mem_cons_self
  refine ⟨inspect_shelfModule, declared_shelfSurface, ?_, ?_, by decide, ?_⟩
  · exact @NamespaceDeclaration.Writes.property shelfFile shelfBlock boxInterface boxProperty
      List.mem_cons_self List.mem_cons_self List.mem_cons_self
  · exact .member hbox List.mem_cons_self
  · rintro ⟨hresolve, -⟩
    have hnone : resolve? shelfFile boxScope (Text.dottedParts "Item") = none := by decide
    rw [ScriptType.nameText, hnone] at hresolve
    cases hresolve

/-- From the top of the shelf they are reached. -/
theorem reaches_item_from_top :
    (shelfInspector.inspect [shelfModule]).result = .ok shelfSurface ∧
      NamespaceDeclaration.ofSurface shelfSurface [] = .ok shelfFile ∧
      NamespaceDeclaration.Writes shelfFile topScope (.declared (some "shelf") "Item") ∧
      Reaches shelfSurface [] shelfFile topScope (ScriptType.nameText (some "shelf") "Item")
        itemType := by
  have hblock : topBlock "take" (.declared (some "shelf") "Item") ∈ shelfFile := by
    simp [shelfFile]
  have hwrites : NamespaceDeclaration.Writes shelfFile topScope (.declared (some "shelf") "Item") :=
    .result hblock List.mem_cons_self rfl
  obtain ⟨space, ref, -, hspace, hreferences, hreached⟩ := reaches_iff_of_inspect
    reachable_shelfInspector inspect_shelfModule declared_shelfSurface hwrites
  have hreference : (some "shelf", "Item") ∈
      ref.identities.map (ScriptType.reference shelfSurface space) := by
    rw [← hreferences]
    exact List.mem_cons_self
  obtain ⟨identity, hidentity, hreference⟩ := List.mem_map.1 hreference
  obtain ⟨type, htype, rfl, hiff⟩ := hreached identity hidentity
  have hname : type.identity.name.display = "Item" := congrArg Prod.snd hreference
  have hitem : type = itemType := by
    have hnamed : ∀ type ∈ shelfSurface.types, type.identity.name.display = "Item" →
        type = itemType := by decide
    exact hnamed type htype hname
  rw [hreference, hitem] at hiff
  have hother : itemType.scriptSpace ≠ space := by
    rintro rfl
    cases hspace
  refine ⟨inspect_shelfModule, declared_shelfSurface, hwrites, hiff.2 ?_⟩
  refine ⟨by decide, by decide, fun hsame => absurd hsame hother, fun _ => ⟨by decide, ?_⟩⟩
  intro first hfirst
  have hfirst : first = "shelf" := by
    have hhead : (Namespace.segments itemType.scriptSpace).head? = some "shelf" := by decide
    rw [hhead] at hfirst
    exact (Option.some.inj hfirst).symm
  subst hfirst
  refine ⟨List.not_mem_nil, fun path hpath hprefix => ?_⟩
  have hnone : ∀ path ∈ topScope.path.inits, path ≠ [] →
      declares shelfFile path "shelf" = false := by
    decide
  exact hnone path ((List.mem_inits _ _).2 hprefix) hpath

end ScriptBridge
