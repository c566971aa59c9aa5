import ScriptBridge.TypeRef

/-!
# Mentioned types

A reference mentions the declared types that are named in it at any depth but inside unknown types.
Walking the reference finds exactly these.
-/

namespace ScriptBridge.TypeRef

/-- The declared types named in a reference: by itself, or by what it wraps, holds, results in or is
applied to. What an unknown type is applied to does not count. -/
inductive Mentions : TypeRef → TypeIdentity → Prop
  | custom {identity : TypeIdentity} : Mentions (.custom identity) identity
  | generic {identity : TypeIdentity} {args : List TypeRef} :
    Mentions (.generic identity args) identity
  | argument {outer identity : TypeIdentity} {args : List TypeRef} {arg : TypeRef} :
    arg ∈ args → Mentions arg identity → Mentions (.generic outer args) identity
  | nullable {inner : TypeRef} {identity : TypeIdentity} :
    Mentions inner identity → Mentions (.nullable inner) identity
  | element {element : TypeRef} {collection : String} {identity : TypeIdentity} :
    Mentions element identity → Mentions (.array element collection) identity
  | key {key value : TypeRef} {collection : String} {identity : TypeIdentity} :
    Mentions key identity → Mentions (.map key value collection) identity
  | value {key value : TypeRef} {collection : String} {identity : TypeIdentity} :
    Mentions value identity → Mentions (.map key value collection) identity
  | result {inner : TypeRef} {identity : TypeIdentity} :
    Mentions inner identity → Mentions (.taskOf inner) identity

/-- The declared types named in a reference, in what an unknown type is applied to as well. -/
inductive Names : TypeRef → TypeIdentity → Prop
  | custom {identity : TypeIdentity} : Names (.custom identity) identity
  | generic {identity : TypeIdentity} {args : List TypeRef} : Names (.generic identity args) identity
  | argument {outer identity : TypeIdentity} {args : List TypeRef} {arg : TypeRef} :
    arg ∈ args → Names arg identity → Names (.generic outer args) identity
  | nullable {inner : TypeRef} {identity : TypeIdentity} :
    Names inner identity → Names (.nullable inner) identity
  | element {element : TypeRef} {collection : String} {identity : TypeIdentity} :
    Names element identity → Names (.array element collection) identity
  | key {key value : TypeRef} {collection : String} {identity : TypeIdentity} :
    Names key identity → Names (.map key value collection) identity
  | value {key value : TypeRef} {collection : String} {identity : TypeIdentity} :
    Names value identity → Names (.map key value collection) identity
  | result {inner : TypeRef} {identity : TypeIdentity} :
    Names inner identity → Names (.taskOf inner) identity
  | applied {managed : String} {args : List TypeRef} {arg : TypeRef} {identity : TypeIdentity} :
    arg ∈ args → Names arg identity → Names (.unknown managed args) identity

theorem Mentions.names {ref : TypeRef} {identity : TypeIdentity} (hmentions : ref.Mentions identity) :
    ref.Names identity := by
  induction hmentions with
  | custom => exact .custom
  | generic => exact .generic
  | argument hmem _ ih => exact .argument hmem ih
  | nullable _ ih => exact .nullable ih
  | element _ ih => exact .element ih
  | key _ ih => exact .key ih
  | value _ ih => exact .value ih
  | result _ ih => exact .result ih

theorem walkAll_eq_flatMap (refs : List TypeRef) : walkAll refs = refs.flatMap walk := by
  induction refs with
  | nil => rfl
  | cons ref refs ih => rw [walkAll, ih, List.flatMap_cons]

section Identities

variable (inner element key value : TypeRef) (collection name : String) (args : List TypeRef)
  (identity : TypeIdentity)

@[simp]
theorem identities_custom : (TypeRef.custom identity).identities = [identity] := rfl

@[simp]
theorem identities_generic :
    (TypeRef.generic identity args).identities = identity :: args.flatMap identities := by
  rw [identities, walk, walkAll_eq_flatMap]
  exact congrArg (identity :: ·) List.filterMap_flatMap

@[simp]
theorem identities_nullable : (TypeRef.nullable inner).identities = inner.identities := rfl

@[simp]
theorem identities_array : (TypeRef.array element collection).identities = element.identities := rfl

@[simp]
theorem identities_map :
    (TypeRef.map key value collection).identities = key.identities ++ value.identities :=
  List.filterMap_append

@[simp]
theorem identities_taskOf : (TypeRef.taskOf inner).identities = inner.identities := rfl

end Identities

theorem mem_identities_of_mentions {ref : TypeRef} {identity : TypeIdentity}
    (hmentions : ref.Mentions identity) : identity ∈ ref.identities := by
  induction hmentions with
  | custom => simp
  | generic => simp
  | argument hmem _ ih => simpa using Or.inr ⟨_, hmem, ih⟩
  | nullable _ ih => simpa using ih
  | element _ ih => simpa using ih
  | key _ ih => simpa using Or.inl ih
  | value _ ih => simpa using Or.inr ih
  | result _ ih => simpa using ih

mutual

theorem mentions_of_mem_identities {identity : TypeIdentity} :
    ∀ ref : TypeRef, identity ∈ ref.identities → ref.Mentions identity
  | .primitive .., hmem => nomatch hmem
  | .task, hmem => nomatch hmem
  | .parameter _, hmem => nomatch hmem
  | .unknown .., hmem => nomatch hmem
  | .custom other, hmem => by
    rw [identities_custom, List.mem_singleton] at hmem
    exact hmem ▸ .custom
  | .generic other args, hmem => by
    rw [identities_generic, List.mem_cons] at hmem
    rcases hmem with rfl | hmem
    · exact .generic
    · obtain ⟨arg, harg, hmentions⟩ := exists_mentions_of_mem_identities args hmem
      exact .argument harg hmentions
  | .nullable inner, hmem => .nullable (mentions_of_mem_identities inner hmem)
  | .array element _, hmem => .element (mentions_of_mem_identities element hmem)
  | .map key value _, hmem => by
    rw [identities_map, List.mem_append] at hmem
    rcases hmem with hmem | hmem
    · exact .key (mentions_of_mem_identities key hmem)
    · exact .value (mentions_of_mem_identities value hmem)
  | .taskOf inner, hmem => .result (mentions_of_mem_identities inner hmem)

theorem exists_mentions_of_mem_identities {identity : TypeIdentity} :
    ∀ refs : List TypeRef, identity ∈ refs.flatMap identities →
      ∃ ref ∈ refs, ref.Mentions identity
  | [], hmem => nomatch hmem
  | ref :: refs, hmem => by
    rw [List.flatMap_cons, List.mem_append] at hmem
    rcases hmem with hmem | hmem
    · exact ⟨ref, List.mem_cons_self, mentions_of_mem_identities ref hmem⟩
    · obtain ⟨other, hother, hmentions⟩ := exists_mentions_of_mem_identities refs hmem
      exact ⟨other, List.mem_cons_of_mem _ hother, hmentions⟩

end

theorem mem_identities_iff {ref : TypeRef} {identity : TypeIdentity} :
    identity ∈ ref.identities ↔ ref.Mentions identity :=
  ⟨mentions_of_mem_identities ref, mem_identities_of_mentions⟩

mutual

/-- What a part of a reference mentions, the reference does. -/
theorem mentions_of_mem_walk {part : TypeRef} {identity : TypeIdentity}
    (hmentions : part.Mentions identity) : ∀ ref : TypeRef, part ∈ ref.walk → ref.Mentions identity
  | .primitive .., hpart | .task, hpart | .parameter _, hpart | .unknown .., hpart | .custom _, hpart =>
    List.mem_singleton.1 hpart ▸ hmentions
  | .generic identity args, hpart => by
    rcases List.mem_cons.1 hpart with rfl | hpart
    · exact hmentions
    · obtain ⟨arg, harg, hmentions⟩ := exists_mentions_of_mem_walkAll hmentions args hpart
      exact .argument harg hmentions
  | .nullable inner, hpart => by
    rcases List.mem_cons.1 hpart with rfl | hpart
    · exact hmentions
    · exact .nullable (mentions_of_mem_walk hmentions inner hpart)
  | .array element _, hpart => by
    rcases List.mem_cons.1 hpart with rfl | hpart
    · exact hmentions
    · exact .element (mentions_of_mem_walk hmentions element hpart)
  | .map key value _, hpart => by
    rcases List.mem_cons.1 hpart with rfl | hpart
    · exact hmentions
    · rcases List.mem_append.1 hpart with hpart | hpart
      · exact .key (mentions_of_mem_walk hmentions key hpart)
      · exact .value (mentions_of_mem_walk hmentions value hpart)
  | .taskOf inner, hpart => by
    rcases List.mem_cons.1 hpart with rfl | hpart
    · exact hmentions
    · exact .result (mentions_of_mem_walk hmentions inner hpart)

theorem exists_mentions_of_mem_walkAll {part : TypeRef} {identity : TypeIdentity}
    (hmentions : part.Mentions identity) : ∀ refs : List TypeRef, part ∈ walkAll refs →
      ∃ ref ∈ refs, ref.Mentions identity
  | [], hpart => nomatch hpart
  | ref :: refs, hpart => by
    rcases List.mem_append.1 hpart with hpart | hpart
    · exact ⟨ref, List.mem_cons_self, mentions_of_mem_walk hmentions ref hpart⟩
    · obtain ⟨other, hother, hmentions⟩ := exists_mentions_of_mem_walkAll hmentions refs hpart
      exact ⟨other, List.mem_cons_of_mem _ hother, hmentions⟩

end

end ScriptBridge.TypeRef
