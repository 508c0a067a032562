import DirSchema.Proofs.Schema.Resolution
import Mathlib.Data.List.Forall2
set_option autoImplicit false

namespace DirSchema

open List (Forall₂)

theorem Schema.attribute?_of_sameName (schema : Schema) {name other : String}
    (same : Text.sameName name other = true) :
    schema.attribute? name = schema.attribute? other := by
  rw [attribute?, attribute?, beq_iff_eq.mp same]

private theorem link_of_mem {links found : List Instance} {linked : Instance}
    (member : linked ∈ found) :
    Instance.link (found.foldl Instance.link links) linked = found.foldl Instance.link links := by
  rw [Schema.link_eq_keepNew, keepNew,
    if_pos (any_foldl_keepNew _ (fun registered => beq_self_eq_true registered.serial) member)]

/-- Linking a set of names comes to the same as linking all names as they are written. -/
theorem foldl_link_insertName (find : String → Option Instance) (links : List Instance)
    (written kept : List String) :
    ((written.foldl insertName kept).filterMap find).foldl Instance.link links =
      (written.filterMap find).foldl Instance.link
        ((kept.filterMap find).foldl Instance.link links) := by
  induction written generalizing kept with
  | nil => rfl
  | cons first rest ih =>
      rw [List.foldl_cons, ih, insertName]
      by_cases old : first ∈ kept
      · rw [if_pos (List.contains_iff_mem.mpr old)]
        cases found : find first with
        | none => rw [List.filterMap_cons_none found]
        | some linked =>
            have member : linked ∈ kept.filterMap find := List.mem_filterMap.mpr ⟨first, old, found⟩
            rw [List.filterMap_cons_some found, List.foldl_cons, link_of_mem member]
      · rw [if_neg (by simpa using old), List.filterMap_append, List.foldl_append]
        cases found : find first <;> simp [found]

namespace Schema

/-- A name as it is written for an attribute in one schema and in another: in another case, if the
attribute is declared. -/
def RecasesAttribute (schema : Schema) (name other : String) : Prop :=
  other = name ∨ Text.sameName other name = true ∧ (schema.attribute? name).isSome = true

/-- A set of attribute names whose elements are written in another case wherever they stand, before
equal ones are merged. -/
def RecasesNames (schema : Schema) (names others : List String) : Prop :=
  ∃ written rewritten : List String, Forall₂ schema.RecasesAttribute written rewritten ∧
    names = written.foldl insertName [] ∧ others = rewritten.foldl insertName []

/-- A parent in another case, if a class matches it. -/
def RecasesParent (schema : Schema) (parent other : Option String) : Prop :=
  other = parent ∨ ∃ reference rewritten, parent = some reference ∧ other = some rewritten ∧
    Text.sameName rewritten reference = true ∧
    ∃ declared ∈ schema.objectClasses, Text.sameName declared.name reference = true

/-- A class with its references in another case. -/
structure RecasesClass (schema : Schema) (owner other : ObjectClass) : Prop where
  required : schema.RecasesNames owner.requiredNames other.requiredNames
  optional : schema.RecasesNames owner.optionalNames other.optionalNames
  parent : schema.RecasesParent owner.subclassOf other.subclassOf
  rest : other =
    { owner with
      requiredNames := other.requiredNames
      optionalNames := other.optionalNames
      subclassOf := other.subclassOf }

structure RecasesBinding (binding other : Binding) : Prop where
  parent : Text.sameName other.allowableParent binding.allowableParent = true
  attr : Text.sameName other.namedBy binding.namedBy = true
  rest : other =
    { binding with allowableParent := other.allowableParent, namedBy := other.namedBy }

def RecasesEntry (entry other : String × Binding) : Prop :=
  other.1 = entry.1 ∧ RecasesBinding entry.2 other.2

/-- A schema with its references in another case. -/
structure Recases (schema other : Schema) : Prop where
  attributes : other.attributes = schema.attributes
  serials : other.serials = schema.serials
  classes : Forall₂ schema.RecasesClass schema.objectClasses other.objectClasses
  bindings : Forall₂ RecasesEntry schema.bindings other.bindings

/-- References to what is registered do not grow the registry. -/
theorem growAll_filter {schema grown : Schema}
    (extends_ : ∀ name, (schema.attribute? name).isSome = true →
      (grown.attribute? name).isSome = true) (references : List Reference) :
    grown.growAll references =
      grown.growAll (references.filter fun reference =>
        (schema.attribute? reference.name).isNone) := by
  induction references generalizing grown with
  | nil => rfl
  | cons first rest ih =>
      have further : ∀ name, (schema.attribute? name).isSome = true →
          ((grown.grow first).attribute? name).isSome = true := by
        intro name known
        obtain ⟨found, registered⟩ := Option.isSome_iff_exists.mp (extends_ name known)
        rw [attribute?_grow registered]
        rfl
      rw [growAll_cons, ih further]
      by_cases known : (schema.attribute? first.name).isSome = true
      · obtain ⟨found, registered⟩ := Option.isSome_iff_exists.mp (extends_ first.name known)
        rw [List.filter_cons_of_neg (by simp [← Option.not_isSome, known]),
          grow_of_found registered]
      · rw [List.filter_cons_of_pos (by simp [← Option.not_isSome, known]), growAll_cons]

/-- What synthesis and its warning take from a reference. -/
def Reference.trace (reference : Reference) : String × String × Option Coord :=
  (reference.name, reference.owner.name, reference.owner.origin)

private theorem Reference.warning_eq (reference : Reference) :
    reference.warning =
      synthesisWarning reference.trace.1 reference.trace.2.1 reference.trace.2.2 := rfl

/-- References with the same traces grow a registry alike, with the same warnings. -/
theorem growAll_of_traces {references others : List Reference}
    (same : references.map Reference.trace = others.map Reference.trace) (schema : Schema) :
    schema.growAll references = schema.growAll others ∧
      (schema.undeclared references).map Reference.warning =
        (schema.undeclared others).map Reference.warning := by
  induction references generalizing schema others with
  | nil =>
      rw [List.map_nil, eq_comm, List.map_eq_nil_iff] at same
      rw [same]
      exact ⟨rfl, rfl⟩
  | cons first rest ih =>
      rw [List.map_cons, eq_comm] at same
      obtain ⟨other, more, rfl, trace, traces⟩ := List.map_eq_cons_iff.mp same
      have name : other.name = first.name := congrArg Prod.fst trace
      have warning : other.warning = first.warning := by
        rw [Reference.warning_eq, Reference.warning_eq, trace]
      cases registered : schema.attribute? first.name with
      | some found =>
          have known : schema.attribute? other.name = some found := name ▸ registered
          rw [growAll_cons, growAll_cons, grow_of_found registered, grow_of_found known,
            undeclared_cons_of_found registered, undeclared_cons_of_found known]
          exact ih traces.symm schema
      | none =>
          have absent : schema.attribute? other.name = none := name ▸ registered
          have grown : schema.grow other = schema.grow first := by
            rw [grow_of_absent registered, grow_of_absent absent, name]
          obtain ⟨registry, warnings⟩ := ih traces.symm (schema.grow first)
          rw [growAll_cons, growAll_cons, undeclared_cons_of_absent registered,
            undeclared_cons_of_absent absent, grown, List.map_cons, List.map_cons, warning,
            warnings]
          exact ⟨registry, rfl⟩

section
variable {schema : Schema}

/-- Names that are not declared are kept as they are, in their order. -/
theorem RecasesNames.undeclared {names others : List String}
    (recased : schema.RecasesNames names others) :
    others.filter (fun name => (schema.attribute? name).isNone) =
      names.filter fun name => (schema.attribute? name).isNone := by
  obtain ⟨written, rewritten, each, rfl, rfl⟩ := recased
  rw [foldl_insertName, foldl_insertName, ← eraseDups_filter, ← eraseDups_filter]
  congr 1
  induction each with
  | nil => rfl
  | @cons name other _ _ recases _ ih =>
      rcases recases with rfl | ⟨same, known⟩
      · rw [List.filter_cons, List.filter_cons, ih]
      · have also : (schema.attribute? other).isSome = true := by
          rw [schema.attribute?_of_sameName same, known]
        rw [List.filter_cons_of_neg (by simp [← Option.not_isSome, also]),
          List.filter_cons_of_neg (by simp [← Option.not_isSome, known]), ih]

/-- A set of names in another case is linked to the same attributes in the same order. -/
theorem RecasesNames.links {names others : List String} (recased : schema.RecasesNames names others)
    (registry : Schema) (links : List Instance) :
    (others.filterMap registry.attribute?).foldl Instance.link links =
      (names.filterMap registry.attribute?).foldl Instance.link links := by
  obtain ⟨written, rewritten, each, rfl, rfl⟩ := recased
  rw [foldl_link_insertName, foldl_link_insertName]
  congr 1
  induction each with
  | nil => rfl
  | @cons name other _ _ recases _ ih =>
      have same : registry.attribute? other = registry.attribute? name := by
        rcases recases with rfl | ⟨same, -⟩
        · rfl
        · exact registry.attribute?_of_sameName same
      rw [List.filterMap_cons, List.filterMap_cons, same, ih]

/-- The references of a class to what is not declared, and who makes them. -/
theorem RecasesClass.traces {owner other : ObjectClass}
    (recased : schema.RecasesClass owner other) :
    ((referencesOf other).filter fun reference =>
        (schema.attribute? reference.name).isNone).map Reference.trace =
      ((referencesOf owner).filter fun reference =>
        (schema.attribute? reference.name).isNone).map Reference.trace := by
  have split (owner : ObjectClass) :
      ((referencesOf owner).filter fun reference =>
          (schema.attribute? reference.name).isNone).map Reference.trace =
        ((owner.requiredNames ++ owner.optionalNames).filter fun name =>
          (schema.attribute? name).isNone).map fun name => (name, owner.name, owner.origin) := by
    rw [referencesOf, List.filter_map, List.map_map]
    rfl
  have name : other.name = owner.name := by rw [recased.rest]
  have origin : other.origin = owner.origin := by rw [recased.rest]
  rw [split, split, List.filter_append, List.filter_append, recased.required.undeclared,
    recased.optional.undeclared, name, origin]

private theorem RecasesClass.linked {owner other : ObjectClass}
    (recased : schema.RecasesClass owner other)
    (registry : Schema) :
    (registry.linked other).required = (registry.linked owner).required ∧
      (registry.linked other).optional = (registry.linked owner).optional := by
  have required : other.required = owner.required := by rw [recased.rest]
  have optional : other.optional = owner.optional := by rw [recased.rest]
  rw [Schema.linked, Schema.linked, required, optional]
  exact ⟨recased.required.links registry _, recased.optional.links registry _⟩

private theorem traces_flatMap {owners others : List ObjectClass}
    (each : Forall₂ schema.RecasesClass owners others) :
    ((others.flatMap referencesOf).filter fun reference =>
        (schema.attribute? reference.name).isNone).map Reference.trace =
      ((owners.flatMap referencesOf).filter fun reference =>
        (schema.attribute? reference.name).isNone).map Reference.trace := by
  induction each with
  | nil => rfl
  | cons first _ ih =>
      rw [List.flatMap_cons, List.flatMap_cons, List.filter_append, List.filter_append,
        List.map_append, List.map_append, first.traces, ih]

end

/-- Growth looks at nothing but the registry. -/
theorem growAll_congr {schema other : Schema} (attributes : other.attributes = schema.attributes)
    (serials : other.serials = schema.serials) (references : List Reference) :
    (other.growAll references).attributes = (schema.growAll references).attributes ∧
      (other.growAll references).serials = (schema.growAll references).serials := by
  induction references generalizing schema other with
  | nil => exact ⟨attributes, serials⟩
  | cons first rest ih =>
      have find : other.attribute? first.name = schema.attribute? first.name := by
        rw [attribute?, attribute?, attributes]
      rw [growAll_cons, growAll_cons]
      apply ih
      · rw [grow, grow, find]
        split
        · exact attributes
        · rw [addAttribute, addAttribute, nextInstance, nextInstance, attributes, serials]
      · rw [grow, grow, find]
        split
        · exact serials
        · rw [addAttribute, addAttribute, serials]

section
variable {schema other : Schema} (recased : schema.Recases other)
include recased

private theorem Recases.attribute?_eq : other.attribute? = schema.attribute? := by
  funext name
  rw [attribute?, attribute?, recased.attributes]

theorem Recases.names : other.objectClasses.map (·.name) = schema.objectClasses.map (·.name) := by
  have each {owners others : List ObjectClass}
      (each : Forall₂ schema.RecasesClass owners others) :
      others.map (·.name) = owners.map (·.name) := by
    induction each with
    | nil => rfl
    | cons first _ ih => rw [List.map_cons, List.map_cons, ih, first.rest]
  exact each recased.classes

/-- Both registries grow alike, with the same warnings. -/
theorem Recases.grown :
    (other.growAll other.references).attributes =
        (schema.growAll schema.references).attributes ∧
      (other.growAll other.references).serials = (schema.growAll schema.references).serials ∧
      (other.undeclared other.references).map Reference.warning =
        (schema.undeclared schema.references).map Reference.warning := by
  have undeclared (references : List Reference) : other.undeclared references =
      schema.undeclared (references.filter fun reference =>
        (schema.attribute? reference.name).isNone) := by
    rw [Schema.undeclared, Schema.undeclared, List.filter_filter, recased.attribute?_eq]
    simp only [Bool.and_self]
  have own : schema.undeclared schema.references =
      schema.undeclared (schema.references.filter fun reference =>
        (schema.attribute? reference.name).isNone) := by
    rw [Schema.undeclared, Schema.undeclared, List.filter_filter]
    simp only [Bool.and_self]
  obtain ⟨attributes, serials⟩ :=
    growAll_congr recased.attributes recased.serials other.references
  obtain ⟨registry, warnings⟩ := growAll_of_traces (traces_flatMap recased.classes) schema
  have same : schema.growAll other.references = schema.growAll schema.references := by
    rw [growAll_filter (fun _ known => known) other.references,
      growAll_filter (fun _ known => known) schema.references]
    exact registry
  rw [attributes, serials, undeclared, own, same]
  exact ⟨rfl, rfl, warnings⟩

/-- The grown registries hold the same attributes, to which classes are linked alike. -/
theorem Recases.linked {owner another : ObjectClass} (each : schema.RecasesClass owner another) :
    ((other.growAll other.references).linked another).required =
        ((schema.growAll schema.references).linked owner).required ∧
      ((other.growAll other.references).linked another).optional =
        ((schema.growAll schema.references).linked owner).optional := by
  have find : (other.growAll other.references).attribute? =
      (schema.growAll schema.references).attribute? := by
    funext name
    rw [attribute?, attribute?, recased.grown.1]
  have alike : (other.growAll other.references).linked another =
      (schema.growAll schema.references).linked another := by
    rw [Schema.linked, Schema.linked, find]
  rw [alike]
  exact each.linked (schema.growAll schema.references)

end
end Schema
end DirSchema
