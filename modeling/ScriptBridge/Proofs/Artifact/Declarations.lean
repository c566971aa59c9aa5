import Mathlib.Data.List.Basic
import ScriptBridge.Artifact.Declarations
import ScriptBridge.Proofs.Layout
import ScriptBridge.Proofs.Outcome
import ScriptBridge.Proofs.Surface.Views

/-!
# What a declaration file declares

The lines inside the blocks of a namespace are those of the methods that stand in it, and the blocks of
enumerations there are those of the enumerations. Two script-side namespaces may have the same segments,
so the order is not that of the surface.
-/

namespace ScriptBridge

open NamespaceDeclaration (inNamespaces)

/-- The headers of the blocks that the namespaces of a path are declared in. -/
def namespaceHeaders (path : List String) : List String :=
  path.map fun segment => "export namespace " ++ segment ++ " \x7b"

/-- The declaration of an enumeration. -/
def Layout.enumeration? : Layout → Option Layout
  | .line _ => none
  | .block header body footer =>
    if "export enum ".toList.isPrefixOf header.toList then some (.block header body footer) else none

/-- What is declared in a namespace, its types first. -/
def NamespaceDeclaration.content (declaration : NamespaceDeclaration) : List Layout :=
  declaration.types.map (·.layout) ++ declaration.methods.map fun method => .line method.text

/-- The pieces of a declaration file. -/
def NamespaceDeclaration.pieces (declarations : List NamespaceDeclaration) : List Layout :=
  .line fileHeader :: declarations.flatMap fun declaration => .line "" :: declaration.layout

/-! ### Blocks of namespaces -/

theorem namespaceHeader_injective {segment other : String}
    (heq : "export namespace " ++ segment ++ " \x7b" = "export namespace " ++ other ++ " \x7b") :
    segment = other := by
  simpa [String.ext_iff] using heq

theorem interfaceHeader_ne (rest other : String) :
    "export interface " ++ rest ≠ "export namespace " ++ other := by
  simp [String.ext_iff]

theorem bodyUnder_layout (segment : String) (declaration : TypeDeclaration) :
    declaration.layout.bodyUnder ("export namespace " ++ segment ++ " \x7b") = [] := by
  cases declaration with
  | enumeration name members =>
    rw [TypeDeclaration.layout, Layout.bodyUnder, if_neg]
    intro heq
    simp [String.ext_iff] at heq
  | interface declaration =>
    rw [TypeDeclaration.layout, Layout.bodyUnder, if_neg]
    intro heq
    unfold InterfaceDeclaration.header at heq
    simp only [String.append_assoc] at heq
    exact interfaceHeader_ne _ _ heq

theorem flatMap_bodyUnder_content (segment : String) (declaration : NamespaceDeclaration) :
    declaration.content.flatMap (Layout.bodyUnder ("export namespace " ++ segment ++ " \x7b")) =
      [] := by
  rw [List.flatMap_eq_nil_iff]
  intro piece hpiece
  rcases List.mem_append.1 hpiece with htype | hmethod
  · obtain ⟨type, -, rfl⟩ := List.mem_map.1 htype
    exact bodyUnder_layout segment type
  · obtain ⟨method, -, rfl⟩ := List.mem_map.1 hmethod
    rfl

/-- What is gathered inside the blocks of a path, if nothing is gathered from blocks of namespaces, comes
from the content of the namespace at the path. -/
theorem filterMap_within_inNamespaces {α : Type} {gather : Layout → Option α} {body : List Layout}
    (hgather : ∀ segment body footer,
      gather (.block ("export namespace " ++ segment ++ " \x7b") body footer) = none)
    (hbody : ∀ segment,
      body.flatMap (Layout.bodyUnder ("export namespace " ++ segment ++ " \x7b")) = [])
    (path inner : List String) :
    (Layout.within (namespaceHeaders path) (inNamespaces body inner)).filterMap gather =
      if inner = path then body.filterMap gather else [] := by
  induction inner generalizing path with
  | nil =>
    cases path with
    | nil => rfl
    | cons segment path =>
      simp only [namespaceHeaders, List.map_cons, Layout.within, inNamespaces, hbody,
        Layout.within_nil]
      rfl
  | cons segment inner ih =>
    cases path with
    | nil =>
      simp [namespaceHeaders, Layout.within, inNamespaces, hgather]
    | cons other path =>
      simp only [namespaceHeaders, List.map_cons, Layout.within, inNamespaces, List.flatMap_cons,
        List.flatMap_nil, List.append_nil, Layout.bodyUnder]
      by_cases hsame : segment = other
      · subst hsame
        rw [if_pos rfl]
        simpa [namespaceHeaders] using ih path
      · rw [if_neg fun heq => hsame (namespaceHeader_injective heq), Layout.within_nil, if_neg]
        · rfl
        · intro heq
          exact hsame (List.cons.inj heq).1

theorem filterMap_within_pieces {α : Type} {gather : Layout → Option α}
    (hgather : ∀ segment body footer,
      gather (.block ("export namespace " ++ segment ++ " \x7b") body footer) = none)
    (declarations : List NamespaceDeclaration) {path : List String} (hpath : path ≠ []) :
    (Layout.within (namespaceHeaders path) (NamespaceDeclaration.pieces declarations)).filterMap
        gather =
      declarations.flatMap fun declaration =>
        if declaration.path = path then declaration.content.filterMap gather else [] := by
  have hdeclaration : ∀ declaration : NamespaceDeclaration,
      (Layout.within (namespaceHeaders path) (.line "" :: declaration.layout)).filterMap gather =
        if declaration.path = path then declaration.content.filterMap gather else [] := by
    intro declaration
    obtain ⟨segment, rest, rfl⟩ := List.exists_cons_of_ne_nil hpath
    exact filterMap_within_inNamespaces hgather
      (fun segment => flatMap_bodyUnder_content segment declaration) (segment :: rest)
      declaration.path
  have hheader : Layout.within (namespaceHeaders path) (NamespaceDeclaration.pieces declarations) =
      declarations.flatMap fun declaration =>
        Layout.within (namespaceHeaders path) (.line "" :: declaration.layout) := by
    obtain ⟨segment, rest, rfl⟩ := List.exists_cons_of_ne_nil hpath
    rw [← Layout.within_flatMap]
    rfl
  rw [hheader, List.filterMap_flatMap]
  exact List.flatMap_congr fun declaration _ => hdeclaration declaration

/-! ### Namespaces of the same segments -/

section Segments

variable {α β : Type} (spaceOf : α → String) (path : List String) (items : List α)

/-- The items of one namespace have its segments. -/
theorem filter_segments_filter_space (space : String) :
    (items.filter (spaceOf · == space)).filter
        (fun item => Namespace.segments (spaceOf item) == path) =
      if Namespace.segments space = path then items.filter (spaceOf · == space) else [] := by
  have hitem : ∀ item ∈ items.filter (spaceOf · == space), spaceOf item = space := by
    intro item hitem
    simpa using (List.mem_filter.1 hitem).2
  split
  · rename_i hsame
    refine List.filter_eq_self.2 fun item hmem => ?_
    simp [hitem item hmem, hsame]
  · rename_i hother
    refine List.filter_eq_nil_iff.2 fun item hmem => ?_
    simp [hitem item hmem, hother]

/-- What stands in namespaces with the segments of a path, namespace by namespace. -/
theorem perm_flatMap_segments {spaceOf : α → String} {items : List α} (F : α → β)
    {spaces : List String} (hdistinct : spaces.Nodup)
    (hplaced : ∀ item ∈ items, spaceOf item ∈ spaces) :
    (spaces.flatMap fun space =>
        if Namespace.segments space = path then (items.filter (spaceOf · == space)).map F
        else []).Perm
      ((items.filter fun item => Namespace.segments (spaceOf item) == path).map F) := by
  have hkept : ∀ item ∈ items.filter fun item => Namespace.segments (spaceOf item) == path,
      spaceOf item ∈ spaces := fun item hitem => hplaced item (List.mem_of_mem_filter hitem)
  refine List.Perm.trans (.of_eq ?_) ((perm_flatMap_filter_space hdistinct hkept).map F)
  rw [List.map_flatMap]
  refine List.flatMap_congr fun space _ => ?_
  rw [List.filter_filter, List.filter_congr fun item _ => Bool.and_comm _ _, ← List.filter_filter,
    filter_segments_filter_space]
  split <;> rfl

end Segments

/-! ### What is declared -/

theorem flatMap_filter_of_eq_nil {α β : Type} {keep : α → Bool} {f : α → List β} {items : List α}
    (hdropped : ∀ item, keep item = false → f item = []) :
    (items.filter keep).flatMap f = items.flatMap f := by
  induction items with
  | nil => rfl
  | cons item items ih =>
    rw [List.filter_cons, List.flatMap_cons]
    split
    · rw [List.flatMap_cons, ih]
    · rename_i hkeep
      rw [hdropped item (by simpa using hkeep), ih, List.nil_append]

/-- The declaration of a namespace has its segments, its types and its methods. -/
theorem parts_of_ofNamespace {surface : Surface} {handlers : TypeHandlers} {space : String}
    {declaration : NamespaceDeclaration}
    (hmade : NamespaceDeclaration.ofNamespace surface handlers space = .ok declaration) :
    declaration.path = Namespace.segments space ∧
      (surface.typesIn space).mapM (TypeDeclaration.ofType surface handlers) =
        .ok declaration.types ∧
      (surface.methodsIn space).mapM (MethodDeclaration.ofMethod surface handlers) =
        .ok declaration.methods := by
  obtain ⟨types, htypes, hrest⟩ := Outcome.bind_eq_ok_iff.1 hmade
  obtain ⟨methods, hmethods, hpair⟩ := Outcome.bind_eq_ok_iff.1 hrest
  cases hpair
  exact ⟨rfl, htypes, hmethods⟩

section Gathered

variable {α γ : Type} {surface : Surface} {handlers : TypeHandlers}
  {declarations : List NamespaceDeclaration} {path : List String} {items : List α}
  {spaceOf : α → String} {F : α → Except EmitFault γ}

/-- What is picked from the declaration of each namespace is picked at a path from those that stand
there. -/
theorem perm_flatMap_declarations {pick : NamespaceDeclaration → List γ} (hplaced : surface.Placed)
    (hmade : NamespaceDeclaration.ofSurface surface handlers = .ok declarations)
    (hitems : ∀ item ∈ items, spaceOf item ∈ surface.namespaces)
    (hpick : ∀ space declaration,
      NamespaceDeclaration.ofNamespace surface handlers space = .ok declaration →
        (pick declaration).map .ok = (items.filter (spaceOf · == space)).map F)
    (hempty : ∀ space, surface.typesIn space = [] → surface.methodsIn space = [] →
      items.filter (spaceOf · == space) = []) :
    ((declarations.flatMap fun declaration =>
        if declaration.path = path then pick declaration else []).map Except.ok).Perm
      ((items.filter fun item => Namespace.segments (spaceOf item) == path).map F) := by
  refine List.Perm.trans ?_ (perm_flatMap_segments path F hplaced.distinct hitems)
  rw [List.map_flatMap]
  have hspaces : ∀ space declaration,
      NamespaceDeclaration.ofNamespace surface handlers space = .ok declaration →
        (if Namespace.segments space = path then (items.filter (spaceOf · == space)).map F
          else []) =
          (if declaration.path = path then pick declaration else []).map Except.ok := by
    intro space declaration hspace
    rw [(parts_of_ofNamespace hspace).1]
    split
    · exact (hpick space declaration hspace).symm
    · rfl
  rw [← Outcome.flatMap_eq_of_mapM hmade hspaces]
  refine .of_eq (flatMap_filter_of_eq_nil fun space hspace => ?_)
  obtain ⟨htypes, hmethods⟩ : surface.typesIn space = [] ∧ surface.methodsIn space = [] := by
    simpa using hspace
  rw [hempty space htypes hmethods]
  split <;> rfl

/-- What is gathered from the content of each namespace is gathered at a path from those that stand
there. -/
theorem perm_gathered {gather : Layout → Option γ} (hplaced : surface.Placed)
    (hmade : NamespaceDeclaration.ofSurface surface handlers = .ok declarations)
    (hpath : path ≠ [])
    (hgather : ∀ segment body footer,
      gather (.block ("export namespace " ++ segment ++ " \x7b") body footer) = none)
    (hitems : ∀ item ∈ items, spaceOf item ∈ surface.namespaces)
    (hcontent : ∀ space declaration,
      NamespaceDeclaration.ofNamespace surface handlers space = .ok declaration →
        (declaration.content.filterMap gather).map .ok =
          (items.filter (spaceOf · == space)).map F)
    (hempty : ∀ space, surface.typesIn space = [] → surface.methodsIn space = [] →
      items.filter (spaceOf · == space) = []) :
    (((Layout.within (namespaceHeaders path) (NamespaceDeclaration.pieces declarations)).filterMap
        gather).map Except.ok).Perm
      ((items.filter fun item => Namespace.segments (spaceOf item) == path).map F) := by
  rw [filterMap_within_pieces hgather declarations hpath]
  exact perm_flatMap_declarations hplaced hmade hitems hcontent hempty

end Gathered

section Instances

variable {surface : Surface} {handlers : TypeHandlers} {declarations : List NamespaceDeclaration}
  {declaration : NamespaceDeclaration} {space : String} {path : List String}

theorem line?_content (declaration : NamespaceDeclaration) :
    declaration.content.filterMap Layout.line? = declaration.methods.map (·.text) := by
  have htypes : (declaration.types.map (·.layout)).filterMap Layout.line? = [] := by
    rw [List.filterMap_eq_nil_iff]
    intro piece hpiece
    obtain ⟨type, -, rfl⟩ := List.mem_map.1 hpiece
    cases type <;> rfl
  rw [NamespaceDeclaration.content, List.filterMap_append, htypes, List.nil_append,
    List.filterMap_map]
  change declaration.methods.filterMap (fun method => some method.text) = _
  rw [List.filterMap_eq_map']

theorem enumeration?_content (declaration : NamespaceDeclaration) :
    declaration.content.filterMap Layout.enumeration? =
      (declaration.types.map (·.layout)).filterMap Layout.enumeration? := by
  have hmethods : (declaration.methods.map fun method => Layout.line method.text).filterMap
      Layout.enumeration? = [] := by
    rw [List.filterMap_eq_nil_iff]
    intro piece hpiece
    obtain ⟨method, -, rfl⟩ := List.mem_map.1 hpiece
    rfl
  rw [NamespaceDeclaration.content, List.filterMap_append, hmethods, List.append_nil]

theorem isEnumeration_header (name : String) :
    "export enum ".toList.isPrefixOf ("export enum " ++ name ++ " \x7b").toList = true := by
  rw [String.append_assoc, String.toList_append, List.isPrefixOf_iff_prefix]
  exact List.prefix_append _ _

theorem interfaceHeader_not_enumeration (rest : String) :
    "export enum ".toList.isPrefixOf ("export interface " ++ rest).toList = false := by
  rw [String.toList_append]
  rfl

theorem enumeration?_layout {type : DeclaredType} {declared : TypeDeclaration}
    (hmade : TypeDeclaration.ofType surface handlers type = .ok declared) :
    declared.layout.enumeration? =
      if type.kind = .enumeration then some declared.layout else none := by
  unfold TypeDeclaration.ofType at hmade
  unfold DeclaredType.kind
  split at hmade
  · rename_i values hshape
    obtain ⟨members, -, hdeclared⟩ := Outcome.bind_eq_ok_iff.1 hmade
    cases hdeclared
    rw [hshape]
    exact if_pos (isEnumeration_header _)
  · rename_i parameters members bases hshape
    obtain ⟨names, -, hmade⟩ := Outcome.bind_eq_ok_iff.1 hmade
    obtain ⟨baseTypes, -, hmade⟩ := Outcome.bind_eq_ok_iff.1 hmade
    obtain ⟨_, -, hmade⟩ := Outcome.bind_eq_ok_iff.1 hmade
    obtain ⟨properties, -, hdeclared⟩ := Outcome.bind_eq_ok_iff.1 hmade
    cases hdeclared
    rw [hshape, TypeDeclaration.layout, Layout.enumeration?, if_neg]
    · rfl
    · unfold InterfaceDeclaration.header
      simp only [String.append_assoc, interfaceHeader_not_enumeration]
      exact Bool.false_ne_true

theorem enumeration?_layouts {types : List DeclaredType} {declared : List TypeDeclaration}
    (hmade : types.mapM (TypeDeclaration.ofType surface handlers) = .ok declared) :
    ((declared.map (·.layout)).filterMap Layout.enumeration?).map Except.ok =
      (types.filter (·.kind == .enumeration)).map fun type =>
        (TypeDeclaration.ofType surface handlers type).map (·.layout) := by
  have hall := Outcome.mapM_eq_ok_iff.1 hmade
  clear hmade
  induction hall with
  | nil => rfl
  | @cons type declared _ _ hhead _ ih =>
    rw [List.map_cons, List.filterMap_cons, enumeration?_layout hhead, List.filter_cons]
    by_cases hkind : type.kind = .enumeration
    · simp only [hkind, if_true, beq_self_eq_true, List.map_cons, ih, hhead]
      rfl
    · simp only [hkind, if_false, beq_iff_eq, ih]

/-- The lines in the namespaces of a path are those of the methods that stand there, each once. -/
theorem perm_declared_methods (hplaced : surface.Placed)
    (hmade : NamespaceDeclaration.ofSurface surface handlers = .ok declarations)
    (hpath : path ≠ []) :
    (((Layout.within (namespaceHeaders path) (NamespaceDeclaration.pieces declarations)).filterMap
        Layout.line?).map Except.ok).Perm
      ((surface.methodsAt path).map fun method =>
        (MethodDeclaration.ofMethod surface handlers method).map (·.text)) := by
  refine perm_gathered hplaced hmade hpath (fun _ _ _ => rfl) hplaced.methods ?_ ?_
  · intro space declaration hspace
    obtain ⟨-, -, hmethods⟩ := parts_of_ofNamespace hspace
    have htexts := congrArg (List.map (Except.map MethodDeclaration.text))
      (Outcome.map_eq_of_mapM hmethods)
    rw [List.map_map, List.map_map] at htexts
    rw [line?_content, List.map_map]
    exact htexts.symm
  · exact fun _ _ hmethods => hmethods

/-- The blocks of enumerations in the namespaces of a path are those of the enumerations that stand
there, each once. -/
theorem perm_declared_enumerations (hplaced : surface.Placed)
    (hmade : NamespaceDeclaration.ofSurface surface handlers = .ok declarations)
    (hpath : path ≠ []) :
    (((Layout.within (namespaceHeaders path) (NamespaceDeclaration.pieces declarations)).filterMap
        Layout.enumeration?).map Except.ok).Perm
      ((surface.enumerationsAt path).map fun type =>
        (TypeDeclaration.ofType surface handlers type).map (·.layout)) := by
  have hhere : ∀ space, surface.enumerations.filter (·.scriptSpace == space) =
      (surface.typesIn space).filter (·.kind == .enumeration) := by
    intro space
    rw [Surface.enumerations, Surface.typesIn, List.filter_filter, List.filter_filter]
    exact List.filter_congr fun type _ => Bool.and_comm _ _
  refine perm_gathered hplaced hmade hpath ?_ ?_ ?_ ?_
  · intro segment body footer
    refine if_neg ?_
    rw [String.append_assoc, String.toList_append]
    exact Bool.false_ne_true
  · exact fun type htype => hplaced.types type (List.mem_of_mem_filter htype)
  · intro space declaration hspace
    obtain ⟨-, htypes, -⟩ := parts_of_ofNamespace hspace
    rw [enumeration?_content, hhere]
    exact enumeration?_layouts htypes
  · intro space htypes _
    rw [hhere, htypes]
    rfl

end Instances

end ScriptBridge
