import Mathlib
import ScriptBridge.Proofs.Artifact.DeclaredTypes
import ScriptBridge.Proofs.Artifact.Registrations
import ScriptBridge.Proofs.Surface.Reach
import ScriptBridge.Proofs.Surface.Selection

/-!
# Markers of nullable values

Wherever the text of a registered type shows a nullable declared type, it is marked if the type is a
value type and among the types of the surface. A type that only unknown types are applied to is not
among them.
-/

namespace ScriptBridge

/-! ### Texts within texts -/

namespace Text

/-- A text occurs in another. -/
def Within (inner outer : String) : Prop :=
  ∃ before after, outer = before ++ inner ++ after

variable {inner outer text : String}

theorem Within.refl (text : String) : Within text text :=
  ⟨"", "", by simp⟩

theorem Within.append_left (hwithin : Within inner outer) (before : String) :
    Within inner (before ++ outer) := by
  obtain ⟨start, rest, rfl⟩ := hwithin
  exact ⟨before ++ start, rest, by simp only [String.append_assoc]⟩

theorem Within.append_right (hwithin : Within inner outer) (after : String) :
    Within inner (outer ++ after) := by
  obtain ⟨start, rest, rfl⟩ := hwithin
  exact ⟨start, rest ++ after, by simp only [String.append_assoc]⟩

theorem Within.intercalate {texts : List String} (hwithin : Within inner text) (hmem : text ∈ texts)
    (separator : String) : Within inner (String.intercalate separator texts) := by
  induction texts with
  | nil => cases hmem
  | cons first rest ih =>
    cases rest with
    | nil =>
      rw [String.intercalate_singleton, ← List.mem_singleton.1 hmem]
      exact hwithin
    | cons next rest =>
      rw [String.intercalate_cons_cons]
      rcases List.mem_cons.1 hmem with rfl | hmem
      · exact (hwithin.append_right separator).append_right _
      · exact (ih hmem).append_left _

end Text

/-! ### Parts that are shown -/

/-- A reference is a part of another that its canonical text shows. -/
inductive TypeRef.ShownIn (node : TypeRef) : TypeRef → Prop
  | here : ShownIn node node
  | nullable {inner : TypeRef} : ShownIn node inner → ShownIn node (.nullable inner)
  | element {element : TypeRef} {collection : String} :
    ShownIn node element → ShownIn node (.array element collection)
  | key {key value : TypeRef} {collection : String} :
    ShownIn node key → ShownIn node (.map key value collection)
  | value {key value : TypeRef} {collection : String} :
    ShownIn node value → ShownIn node (.map key value collection)
  | result {inner : TypeRef} : ShownIn node inner → ShownIn node (.taskOf inner)
  | argument {identity : TypeIdentity} {args : List TypeRef} {arg : TypeRef} :
    arg ∈ args → ShownIn node arg → ShownIn node (.generic identity args)
  | applied {managed : String} {args : List TypeRef} {arg : TypeRef} :
    '.' ∈ managed.toList → arg ∈ args → ShownIn node arg → ShownIn node (.unknown managed args)

theorem TypeRef.ShownIn.names {node ref : TypeRef} {identity : TypeIdentity}
    (hshown : node.ShownIn ref) (hnames : node.Names identity) : ref.Names identity := by
  induction hshown with
  | here => exact hnames
  | nullable _ ih => exact .nullable ih
  | element _ ih => exact .element ih
  | key _ ih => exact .key ih
  | value _ ih => exact .value ih
  | result _ ih => exact .result ih
  | argument hmem _ ih => exact .argument hmem ih
  | applied _ hmem _ ih => exact .applied hmem ih

theorem TypeRef.names_of_identity? {ref : TypeRef} {identity : TypeIdentity}
    (hidentity : ref.identity? = some identity) : ref.Names identity := by
  cases ref with
  | custom other =>
    cases hidentity
    exact .custom
  | generic other args =>
    cases hidentity
    exact .generic
  | _ => cases hidentity

namespace Registration

variable {surface : Surface}

theorem renderAll_eq_map (refs : List TypeRef) :
    renderAll surface refs = refs.map (render surface) := by
  induction refs with
  | nil => rfl
  | cons ref refs ih => rw [renderAll, ih, List.map_cons]

theorem within_applied {inner text : String} {args : List String} (hwithin : Text.Within inner text)
    (hmem : text ∈ args) (name : String) : Text.Within inner (applied name args) := by
  rw [applied, String.append_assoc]
  exact ((hwithin.intercalate hmem ", ").append_right ">").append_left _

/-- The text of a part that is shown occurs in the text of the whole. -/
theorem within_render {node ref : TypeRef} (hshown : node.ShownIn ref) :
    Text.Within (render surface node) (render surface ref) := by
  induction hshown with
  | here => exact .refl _
  | @nullable inner _ ih =>
    rw [render]
    by_cases hvalue : isValueType surface inner = true
    · rw [if_pos hvalue]
      exact ih.append_right "?"
    · rw [if_neg hvalue]
      exact ih
  | @element _ collection _ ih =>
    rw [render]
    by_cases hempty : collection.isEmpty = true
    · rw [if_pos hempty]
      exact ih.append_right "[]"
    · rw [if_neg hempty]
      exact within_applied ih List.mem_cons_self _
  | key _ ih =>
    rw [render]
    exact within_applied ih List.mem_cons_self _
  | value _ ih =>
    rw [render]
    exact within_applied ih (List.mem_cons_of_mem _ List.mem_cons_self) _
  | result _ ih =>
    rw [render, paired]
    exact (ih.append_left "(").append_right ", byte)"
  | argument hmem _ ih =>
    rw [render, renderAll_eq_map]
    exact within_applied ih (List.mem_map_of_mem hmem) _
  | applied hdot hmem _ ih =>
    rw [render, if_pos (by simpa using hdot), renderAll_eq_map,
      if_neg (by simpa using List.ne_nil_of_mem hmem)]
    exact within_applied ih (List.mem_map_of_mem hmem) _

/-- A nullable declared type is marked if it is known to be a value type. -/
theorem render_nullable {inner : TypeRef} {identity : TypeIdentity}
    (hidentity : inner.identity? = some identity) :
    render surface (.nullable inner) =
      if isValueIdentity surface identity then render surface inner ++ "?"
      else render surface inner := by
  have hvalue : isValueType surface inner = isValueIdentity surface identity := by
    cases inner with
    | custom other =>
      cases hidentity
      rfl
    | generic other args =>
      cases hidentity
      rfl
    | _ => cases hidentity
  rw [render, hvalue]

theorem marked_ne (text : String) : text ++ "?" ≠ text := by
  intro heq
  have hlength := congrArg String.length heq
  have hmark : "?".length = 1 := rfl
  rw [String.length_append] at hlength
  omega

/-! ### References that are registered -/

/-- The references that are registered for one in a signature: with a task its value, and with a
collection interface the collections that stand for it. -/
def refsOf : TypeRef → List TypeRef
  | .nullable inner => refsOf inner
  | .taskOf inner => if inner.isSerialized then .taskOf inner :: refsOf inner else []
  | .array element collection =>
    if (TypeRef.array element collection).isSerialized then
      .array element collection ::
        (if listInterfaces.contains collection then
          [.array element "System.Collections.Generic.List", .array element ""]
        else [])
    else []
  | .map key value collection =>
    .map key value collection ::
      (if mapInterfaces.contains collection then
        [.map key value "System.Collections.Generic.Dictionary"]
      else [])
  | .generic identity args => [.generic identity args]
  | .custom identity => [.custom identity]
  | .primitive .. | .task | .parameter _ | .unknown .. => []

theorem ofRef_eq_map : ∀ ref : TypeRef, ofRef surface ref = (refsOf ref).map (render surface)
  | .nullable inner => ofRef_eq_map inner
  | .taskOf inner => by
    rw [ofRef, refsOf]
    split
    · rw [List.map_cons, ofRef_eq_map inner, render]
    · rfl
  | .array element collection => by
    unfold ofRef
    rw [refsOf]
    split
    · rw [substitutes, List.map_cons]
      split <;> rfl
    · rfl
  | .map key value collection => by
    have hserialized : (TypeRef.map key value collection).isSerialized = true := rfl
    unfold ofRef
    rw [refsOf, if_pos hserialized, substitutes, List.map_cons]
    split <;> rfl
  | .generic .. | .custom _ | .primitive .. | .task | .parameter _ | .unknown .. => rfl

/-- What is registered for a reference mentions and names nothing else than the reference does. -/
theorem mentions_of_mem_refsOf {identity : TypeIdentity} {registered : TypeRef} :
    ∀ ref : TypeRef, registered ∈ refsOf ref →
      (registered.Mentions identity → ref.Mentions identity) ∧
        (registered.Names identity → ref.Names identity)
  | .nullable inner, hmem => by
    obtain ⟨hmentions, hnames⟩ := mentions_of_mem_refsOf inner hmem
    exact ⟨fun h => .nullable (hmentions h), fun h => .nullable (hnames h)⟩
  | .taskOf inner, hmem => by
    rw [refsOf] at hmem
    split at hmem
    · rcases List.mem_cons.1 hmem with rfl | hmem
      · exact ⟨id, id⟩
      · obtain ⟨hmentions, hnames⟩ := mentions_of_mem_refsOf inner hmem
        exact ⟨fun h => .result (hmentions h), fun h => .result (hnames h)⟩
    · cases hmem
  | .array element collection, hmem => by
    obtain ⟨other, rfl⟩ : ∃ other, registered = .array element other := by
      rw [refsOf] at hmem
      split at hmem
      · rcases List.mem_cons.1 hmem with rfl | hmem
        · exact ⟨collection, rfl⟩
        · split at hmem
          · rcases List.mem_cons.1 hmem with rfl | hmem
            · exact ⟨_, rfl⟩
            · exact ⟨_, List.mem_singleton.1 hmem⟩
          · cases hmem
      · cases hmem
    constructor
    · intro hmentions
      cases hmentions with
      | element h => exact .element h
    · intro hnames
      cases hnames with
      | element h => exact .element h
  | .map key value collection, hmem => by
    obtain ⟨other, rfl⟩ : ∃ other, registered = .map key value other := by
      rw [refsOf] at hmem
      rcases List.mem_cons.1 hmem with rfl | hmem
      · exact ⟨collection, rfl⟩
      · split at hmem
        · exact ⟨_, List.mem_singleton.1 hmem⟩
        · cases hmem
    constructor
    · intro hmentions
      cases hmentions with
      | key h => exact .key h
      | value h => exact .value h
    · intro hnames
      cases hnames with
      | key h => exact .key h
      | value h => exact .value h
  | .generic .., hmem | .custom _, hmem => by
    rw [List.mem_singleton.1 hmem]
    exact ⟨id, id⟩

/-- The references whose texts are registered for a surface. -/
def refsOfSurface (surface : Surface) : List TypeRef :=
  (surface.methods.flatMap (·.signature)).flatMap refsOf ++
    (surface.types.filter (·.parameters.isEmpty)).map fun type => .custom type.identity

theorem ofSurface_eq_distinct (surface : Surface) :
    ofSurface surface = distinct ((refsOfSurface surface).map (render surface)) := by
  have hsignatures : (surface.methods.flatMap (·.signature)).flatMap (ofRef surface) =
      ((surface.methods.flatMap (·.signature)).flatMap refsOf).map (render surface) := by
    rw [List.map_flatMap]
    exact List.flatMap_congr fun ref _ => ofRef_eq_map ref
  rw [ofSurface, refsOfSurface, List.map_append, hsignatures, List.map_map]
  rfl

end Registration

/-! ### Declarations of what is named -/

/-- Whatever is named in the signature of a method has been declared. -/
def Method.NamesDeclared (registry : Registry) (method : Method) : Prop :=
  ∀ ref ∈ method.signature, ∀ identity, ref.Names identity → registry.IsDeclared identity

theorem namesDeclared_of_takes {registry : Registry} {ignores : List String}
    {entries : List (Value × MethodKind × MethodDecl)} {found after : Discovery}
    (hrun : Takes registry ignores entries found after)
    (hfound : ∀ method ∈ found.methods, method.NamesDeclared registry) :
    ∀ method ∈ after.methods, method.NamesDeclared registry := by
  induction hrun with
  | done => exact hfound
  | next hstep _ ih =>
    refine ih ?_
    cases hstep with
    | ignored => exact hfound
    | duplicate => exact hfound
    | taken _ _ _ _ _ _ harguments hreturns hmethod hexplores =>
      rw [hexplores.frame.1, Discovery.methods_addMethod]
      intro other hother
      rcases List.mem_append.1 hother with hold | hlast
      · exact hfound other hold
      · rw [List.mem_singleton.1 hlast, hmethod]
        intro ref href identity hnames
        rcases List.mem_append.1 href with htype | hresult
        · obtain ⟨argument, hargument, rfl⟩ := List.mem_map.1 htype
          exact Frontier.isDeclared_of_argumentsOf harguments hargument hnames
        · rw [List.mem_singleton.1 hresult] at hnames
          exact Registry.isDeclared_of_names_resolveValue hreturns hnames

section Inspected

variable {inspector : Inspector} {modules : List Descriptor} {surface : Surface}

theorem namesDeclared_of_inspect (hinspect : (inspector.inspect modules).result = .ok surface) :
    ∀ method ∈ surface.methods, method.NamesDeclared (Registry.ofModules modules) := by
  obtain ⟨warnings, log, after, htakes, rfl⟩ := takes_of_inspect hinspect
  exact namesDeclared_of_takes htakes fun _ hmem => nomatch hmem

/-- What a registered reference names has been declared, and what it mentions is among the types. -/
theorem declared_of_registered (hinspect : (inspector.inspect modules).result = .ok surface)
    {ref : TypeRef} (href : ref ∈ Registration.refsOfSurface surface) (identity : TypeIdentity) :
    (ref.Names identity → (Registry.ofModules modules).IsDeclared identity) ∧
      (ref.Mentions identity → ∃ type ∈ surface.types, type.identity = identity) := by
  rcases List.mem_append.1 href with hsignature | hplain
  · obtain ⟨outer, houter, hmem⟩ := List.mem_flatMap.1 hsignature
    obtain ⟨method, hmethod, houter⟩ := List.mem_flatMap.1 houter
    obtain ⟨hmentions, hnames⟩ := Registration.mentions_of_mem_refsOf outer hmem
    refine ⟨fun h => ?_, fun h => ?_⟩
    · exact namesDeclared_of_inspect hinspect method hmethod outer houter identity (hnames h)
    · exact (mentioned_of_inspect hinspect).1 method hmethod outer houter identity (hmentions h)
  · obtain ⟨type, hkept, rfl⟩ := List.mem_map.1 hplain
    have htype := List.mem_of_mem_filter hkept
    refine ⟨fun hnames => ?_, fun hmentions => ?_⟩
    · cases hnames
      exact isDeclared_of_describedBy (describedBy_of_inspect hinspect htype)
    · cases hmentions
      exact ⟨type, htype, rfl⟩

/-- A declaration is of a value type if it is an enumeration or says so. -/
def TypeDecl.IsValue (decl : TypeDecl) : Prop :=
  decl.kind = .enumeration ∨ decl.isValueType = true

theorem isValueType_of_describe {registry : Registry} {identity : TypeIdentity} {decl : TypeDecl}
    {scriptSpace : String} {type : DeclaredType}
    (hdescribe : describe registry identity decl scriptSpace = .ok type) :
    type.isValueType = true ↔ decl.IsValue := by
  obtain ⟨shape, -, hmake⟩ := Outcome.bind_eq_ok_iff.1 hdescribe
  cases hmake
  rw [Bool.or_eq_true, beq_iff_eq, TypeDecl.IsValue]

/-- A declared type is known as a value type if its first declaration is of one and it is among the
types. -/
theorem isValueIdentity_iff (hinspect : (inspector.inspect modules).result = .ok surface)
    {identity : TypeIdentity} {decl : TypeDecl}
    (hfind : (modules.flatMap (·.types)).find? (·.key == .text identity.key) = some decl) :
    Registration.isValueIdentity surface identity = true ↔
      decl.IsValue ∧ ∃ type ∈ surface.types, type.identity = identity := by
  have hdistinct := nodup_identities_of_inspect hinspect
  by_cases hfound : ∃ type ∈ surface.types, type.identity = identity
  · obtain ⟨type, htype, rfl⟩ := hfound
    obtain ⟨first, _, hfirst, -, -, -, hdescribe⟩ := describedBy_of_inspect hinspect htype
    rw [Registry.find?_ofModules] at hfirst
    obtain rfl : first = decl := Option.some.inj (hfirst.symm.trans hfind)
    rw [Registration.isValueIdentity, Surface.findType?_eq_some hdistinct htype,
      isValueType_of_describe hdescribe]
    exact (and_iff_left ⟨type, htype, rfl⟩).symm
  · have hnone : surface.findType? identity = none := by
      rw [Surface.findType?, List.find?_eq_none]
      intro type htype hsame
      exact hfound ⟨type, htype, by simpa using hsame⟩
    rw [Registration.isValueIdentity, hnone]
    exact iff_of_false Bool.false_ne_true fun hboth => hfound hboth.2

end Inspected

/-! ### Markers -/

/-- The texts that are registered are those of some references. Wherever such a text shows a
nullable declared type, its type has a first declaration, and it is marked just if that is of a
value type and the type is among the types of the surface; and so is every type mentioned outside
unknown types. -/
theorem marked_iff_of_inspect {inspector : Inspector} {modules : List Descriptor}
    {surface : Surface} (hinspect : (inspector.inspect modules).result = .ok surface) :
    Registration.ofSurface surface = Registration.distinct
        ((Registration.refsOfSurface surface).map (Registration.render surface)) ∧
      ∀ ref ∈ Registration.refsOfSurface surface, ∀ inner identity,
        inner.identity? = some identity → (TypeRef.nullable inner).ShownIn ref →
          Text.Within (Registration.render surface (.nullable inner))
              (Registration.render surface ref) ∧
            (ref.Mentions identity → ∃ type ∈ surface.types, type.identity = identity) ∧
            ∃ decl,
              (modules.flatMap (·.types)).find? (·.key == .text identity.key) = some decl ∧
                decl.identity = identity ∧
                (Registration.render surface (.nullable inner) =
                    Registration.render surface inner ++ "?" ↔
                  decl.IsValue ∧ ∃ type ∈ surface.types, type.identity = identity) ∧
                (Registration.render surface (.nullable inner) = Registration.render surface inner ↔
                  ¬ (decl.IsValue ∧ ∃ type ∈ surface.types, type.identity = identity)) := by
  refine ⟨Registration.ofSurface_eq_distinct surface,
    fun ref href inner identity hidentity hshown => ?_⟩
  obtain ⟨hnames, hmentions⟩ := declared_of_registered hinspect href identity
  obtain ⟨decl, hfind, hdecl⟩ :=
    hnames (hshown.names (.nullable (TypeRef.names_of_identity? hidentity)))
  rw [Registry.find?_ofModules] at hfind
  refine ⟨Registration.within_render hshown, hmentions, decl, hfind, hdecl, ?_⟩
  rw [← isValueIdentity_iff hinspect hfind, Registration.render_nullable hidentity]
  have hne := Registration.marked_ne (Registration.render surface inner)
  by_cases hvalue : Registration.isValueIdentity surface identity = true
  · rw [if_pos hvalue]
    exact ⟨iff_of_true rfl hvalue, iff_of_false hne fun hnot => hnot hvalue⟩
  · rw [if_neg hvalue]
    exact ⟨iff_of_false (fun heq => hne heq.symm) hvalue, iff_of_true rfl hvalue⟩

/-! ### Points and sizes -/

def pointDecl : TypeDecl := objectDecl "atlas" "Point" [] [] true

def sizeDecl : TypeDecl := objectDecl "atlas" "Size" [] [] true

/-- Sizes are known only by what an unknown type is applied to. -/
def atlasModule : Descriptor where
  assembly := .text "Atlas"
  types := [pointDecl, sizeDecl]
  methods :=
    [invokableDecl "atlas" "Atlas" "Points" "List<Point?>",
      invokableDecl "atlas" "Atlas" "Sizes" "List<IEnumerable<Size?>>"]

def atlasInspector : Inspector where
  resolver := { rules := [] }

def pointsRef : TypeRef :=
  .array (.nullable (.custom pointDecl.identity)) "System.Collections.Generic.List"

def sizesRef : TypeRef :=
  .array (.unknown "System.Collections.Generic.IEnumerable" [.nullable (.custom sizeDecl.identity)])
    "System.Collections.Generic.List"

def pointType : DeclaredType := objectType pointDecl []

def atlasSurface : Surface where
  methods :=
    [invokableMethod "atlas" "Atlas" "Points" "points" pointsRef,
      invokableMethod "atlas" "Atlas" "Sizes" "sizes" sizesRef]
  types := [pointType]
  namespaces := ["atlas"]

def atlasRegistry : Registry where
  decls := [pointDecl, sizeDecl]

theorem resolveValue_points :
    atlasRegistry.resolveValue (.text "List<Point?>") "atlas" [] = .ok pointsRef :=
  Registry.resolveValue_eq_ok_iff.2
    ⟨_, .mk "List" [.mk "Point" [] [.nullable]] [], rfl, by cbv, by decide +kernel⟩

theorem resolveValue_sizes :
    atlasRegistry.resolveValue (.text "List<IEnumerable<Size?>>") "atlas" [] = .ok sizesRef :=
  Registry.resolveValue_eq_ok_iff.2
    ⟨_, .mk "List" [.mk "IEnumerable" [.mk "Size" [] [.nullable]] []] [], rfl, by cbv,
      by decide +kernel⟩

theorem inspect_atlasModule : (atlasInspector.inspect [atlasModule]).result = .ok atlasSurface := by
  have hdeclared : declareModules [atlasModule] ({}, { resolver := atlasInspector.resolver }) =
      (atlasRegistry, { resolver := atlasInspector.resolver }) := rfl
  refine inspect_of_takes hdeclared
    ⟨_, .next (.taken rfl rfl rfl rfl rfl rfl rfl resolveValue_points rfl
      (@Explores.described _ _ _ _ _ pointDecl _ pointType rfl rfl rfl rfl rfl .done))
      (.next (.taken rfl rfl rfl rfl rfl rfl rfl resolveValue_sizes rfl .done) .done), ?_⟩
  rfl

/-- Points that may be absent are marked. -/
theorem marked_point :
    (atlasInspector.inspect [atlasModule]).result = .ok atlasSurface ∧
      pointsRef ∈ Registration.refsOfSurface atlasSurface ∧
      (TypeRef.nullable (.custom pointDecl.identity)).ShownIn pointsRef ∧
      Registration.render atlasSurface (.nullable (.custom pointDecl.identity)) =
        Registration.render atlasSurface (.custom pointDecl.identity) ++ "?" := by
  have href : pointsRef ∈ Registration.refsOfSurface atlasSurface := List.mem_cons_self
  have hshown : (TypeRef.nullable (.custom pointDecl.identity)).ShownIn pointsRef := .element .here
  obtain ⟨-, hmarked⟩ := marked_iff_of_inspect inspect_atlasModule
  obtain ⟨-, hfound, decl, hfind, -, hmarked, -⟩ := hmarked pointsRef href _ _ rfl hshown
  obtain rfl : pointDecl = decl := Option.some.inj hfind
  refine ⟨inspect_atlasModule, href, hshown, hmarked.2 ⟨.inr rfl, hfound ?_⟩⟩
  exact .element (.nullable .custom)

/-- Sizes are declared to be of a value type, and still those that may be absent are not marked. -/
theorem size_not_marked :
    (atlasInspector.inspect [atlasModule]).result = .ok atlasSurface ∧
      sizesRef ∈ Registration.refsOfSurface atlasSurface ∧
      (TypeRef.nullable (.custom sizeDecl.identity)).ShownIn sizesRef ∧
      ([atlasModule].flatMap (·.types)).find? (·.key == .text sizeDecl.identity.key) =
        some sizeDecl ∧
      sizeDecl.IsValue ∧
      Registration.render atlasSurface (.nullable (.custom sizeDecl.identity)) =
        Registration.render atlasSurface (.custom sizeDecl.identity) ∧
      ("global::System.Collections.Generic.List<global::System.Collections.Generic.IEnumerable<" ++
        "global::atlas.Size>>") ∈ Registration.ofSurface atlasSurface := by
  have href : sizesRef ∈ Registration.refsOfSurface atlasSurface :=
    List.mem_cons_of_mem _ List.mem_cons_self
  have hshown : (TypeRef.nullable (.custom sizeDecl.identity)).ShownIn sizesRef :=
    .element (.applied (by decide) List.mem_cons_self .here)
  refine ⟨inspect_atlasModule, href, hshown, rfl, .inr rfl, by decide +kernel, by decide +kernel⟩

end ScriptBridge
