import Typings.Proofs.Syntax.Parts

/-!
# Annotations rebuilt

An annotation is rebuilt from the inside out: `node` is applied to every node once its parts are
rebuilt, and `place` to every location in it.
-/

namespace Typings

mutual

def FlowType.rebuild (node : FlowType → FlowType) (place : Option Location → Option Location) :
    FlowType → FlowType
  | .keyword k loc => node (.keyword k (place loc))
  | .function none returns rest loc =>
    node (.function none (rebuildType node place returns) (rebuildRest node place rest) (place loc))
  | .function (some params) returns rest loc =>
    node (.function (some (rebuildParams node place params)) (rebuildType node place returns)
      (rebuildRest node place rest) (place loc))
  | .generic name none loc => node (.generic name none (place loc))
  | .generic name (some args) loc =>
    node (.generic name (some (rebuildTypes node place args)) (place loc))
  | .nullable inner loc => node (.nullable (inner.rebuild node place) (place loc))
  | .object members indexers exact loc =>
    node (.object (rebuildMembers node place members) (rebuildIndexers node place indexers) exact
      (place loc))
  | .union types loc => node (.union (rebuildTypes node place types) (place loc))
  | .intersection types loc => node (.intersection (rebuildTypes node place types) (place loc))
  | .stringLiteral value raw loc => node (.stringLiteral value raw (place loc))
  | .booleanLiteral value raw loc => node (.booleanLiteral value raw (place loc))
  | .tuple types loc => node (.tuple (rebuildTypes node place types) (place loc))
  | .unknown tag loc => node (.unknown tag (place loc))

def rebuildTypes (node : FlowType → FlowType) (place : Option Location → Option Location) :
    List FlowType → List FlowType
  | [] => []
  | t :: ts => t.rebuild node place :: rebuildTypes node place ts

def rebuildType (node : FlowType → FlowType) (place : Option Location → Option Location) :
    Option FlowType → Option FlowType
  | none => none
  | some t => some (t.rebuild node place)

def FunctionParam.rebuild (node : FlowType → FlowType)
    (place : Option Location → Option Location) : FunctionParam → FunctionParam
  | ⟨name, type, optional, loc⟩ => ⟨name, type.rebuild node place, optional, place loc⟩

def rebuildParams (node : FlowType → FlowType) (place : Option Location → Option Location) :
    List FunctionParam → List FunctionParam
  | [] => []
  | p :: ps => p.rebuild node place :: rebuildParams node place ps

def rebuildRest (node : FlowType → FlowType) (place : Option Location → Option Location) :
    Option FunctionParam → Option FunctionParam
  | none => none
  | some p => some (p.rebuild node place)

def rebuildMembers (node : FlowType → FlowType) (place : Option Location → Option Location) :
    List Member → List Member
  | [] => []
  | .property key value optional loc :: ms =>
    .property key (value.rebuild node place) optional (place loc) :: rebuildMembers node place ms
  | .unknown tag loc :: ms => .unknown tag (place loc) :: rebuildMembers node place ms

def rebuildIndexers (node : FlowType → FlowType) (place : Option Location → Option Location) :
    List Indexer → List Indexer
  | [] => []
  | ⟨name, key, value, loc⟩ :: is =>
    ⟨name, key.rebuild node place, value.rebuild node place, place loc⟩ ::
      rebuildIndexers node place is

end

section

variable {node : FlowType → FlowType} {place : Option Location → Option Location}

@[simp] theorem rebuildTypes_eq_map (ts : List FlowType) :
    rebuildTypes node place ts = ts.map (FlowType.rebuild node place) := by
  induction ts with
  | nil => rfl
  | cons t ts ih => rw [rebuildTypes, ih, List.map_cons]

@[simp] theorem rebuildParams_eq_map (ps : List FunctionParam) :
    rebuildParams node place ps = ps.map (FunctionParam.rebuild node place) := by
  induction ps with
  | nil => rfl
  | cons p ps ih => rw [rebuildParams, ih, List.map_cons]

@[simp] theorem rebuildRest_eq_map (rest : Option FunctionParam) :
    rebuildRest node place rest = rest.map (FunctionParam.rebuild node place) := by
  cases rest <;> rfl

/-! ## Rebuilt parts -/

theorem rebuildMembers_congr {f g : FlowType → FlowType} {ms : List Member}
    (h : ∀ t ∈ ms.filterMap Member.value?, t.rebuild f place = t.rebuild g place) :
    rebuildMembers f place ms = rebuildMembers g place ms := by
  induction ms with
  | nil => rfl
  | cons m ms ih =>
      cases m with
      | unknown tag loc =>
          rw [rebuildMembers, rebuildMembers,
            ih fun t ht => h t (by simpa [Member.value?] using ht)]
      | property key value optional loc =>
          simp only [Member.value?, List.filterMap_cons, List.forall_mem_cons] at h
          rw [rebuildMembers, rebuildMembers, h.1, ih h.2]

theorem rebuildIndexers_congr {f g : FlowType → FlowType} {is : List Indexer}
    (h : ∀ t ∈ is.flatMap fun i => [i.key, i.value], t.rebuild f place = t.rebuild g place) :
    rebuildIndexers f place is = rebuildIndexers g place is := by
  induction is with
  | nil => rfl
  | cons i is ih =>
      obtain ⟨name, key, value, loc⟩ := i
      simp only [List.flatMap_cons, List.forall_mem_append, List.forall_mem_cons] at h
      rw [rebuildIndexers, rebuildIndexers, h.1.1, h.1.2.1, ih h.2]

theorem FunctionParam.rebuild_congr {f g : FlowType → FlowType} {p : FunctionParam}
    (h : p.type.rebuild f place = p.type.rebuild g place) :
    p.rebuild f place = p.rebuild g place := by
  obtain ⟨name, type, optional, loc⟩ := p
  rw [FunctionParam.rebuild, FunctionParam.rebuild, h]

theorem rebuildRest_congr {f g : FlowType → FlowType} {rest : Option FunctionParam}
    (h : ∀ p ∈ rest.toList, p.type.rebuild f place = p.type.rebuild g place) :
    rebuildRest f place rest = rebuildRest g place rest := by
  cases rest with
  | none => rfl
  | some p => rw [rebuildRest, rebuildRest, FunctionParam.rebuild_congr (h p (by simp))]

theorem rebuildType_congr {f g : FlowType → FlowType} {type : Option FlowType}
    (h : ∀ t ∈ type.toList, t.rebuild f place = t.rebuild g place) :
    rebuildType f place type = rebuildType g place type := by
  cases type with
  | none => rfl
  | some t => rw [rebuildType, rebuildType, h t (by simp)]

/-- An annotation is changed only at the top by what does not change its parts. -/
theorem FlowType.rebuild_of_parts {t : FlowType}
    (h : ∀ s ∈ t.parts, s.rebuild node place = s.rebuild id place) :
    t.rebuild node place = node (t.rebuild id place) := by
  cases t with
  | function params returns rest loc =>
      simp only [FlowType.parts, List.map_append, List.forall_mem_append, List.forall_mem_map] at h
      obtain ⟨⟨hp, hq⟩, hr⟩ := h
      cases params with
      | none =>
          rw [FlowType.rebuild, FlowType.rebuild, rebuildType_congr hr, rebuildRest_congr hq]
          rfl
      | some params =>
          have hm : params.map (FunctionParam.rebuild node place) =
              params.map (FunctionParam.rebuild id place) :=
            List.map_congr_left fun p h => FunctionParam.rebuild_congr (hp p h)
          rw [FlowType.rebuild, FlowType.rebuild, rebuildType_congr hr, rebuildRest_congr hq,
            rebuildParams_eq_map, rebuildParams_eq_map, hm]
          rfl
  | generic name args loc =>
      cases args with
      | none => rfl
      | some args =>
          have ha : args.map (FlowType.rebuild node place) = args.map (FlowType.rebuild id place) :=
            List.map_congr_left h
          rw [FlowType.rebuild, FlowType.rebuild, rebuildTypes_eq_map, rebuildTypes_eq_map, ha]
          rfl
  | nullable inner loc =>
      rw [FlowType.rebuild, FlowType.rebuild, h inner (by simp [FlowType.parts])]
      rfl
  | object members indexers exact loc =>
      rw [FlowType.parts, List.forall_mem_append] at h
      rw [FlowType.rebuild, FlowType.rebuild, rebuildMembers_congr h.1, rebuildIndexers_congr h.2]
      rfl
  | union types loc | intersection types loc | tuple types loc =>
      have ht : types.map (FlowType.rebuild node place) = types.map (FlowType.rebuild id place) :=
        List.map_congr_left h
      rw [FlowType.rebuild, FlowType.rebuild, rebuildTypes_eq_map, rebuildTypes_eq_map, ht]
      rfl
  | keyword | stringLiteral | booleanLiteral | unknown => rfl

end

end Typings
