import DirSchema.Schema.Resolve
import DirSchema.Proofs.Schema.Registration
set_option autoImplicit false

namespace DirSchema.Schema

/-- A class that names an attribute. -/
structure Reference where
  owner : ObjectClass
  name : String

/-- What a class names, required attributes first. -/
def referencesOf (owner : ObjectClass) : List Reference :=
  (owner.requiredNames ++ owner.optionalNames).map fun name => { owner, name }

/-- What the classes of a schema name, in their order. -/
def references (schema : Schema) : List Reference := schema.objectClasses.flatMap referencesOf

/-- The first reference to each name that has no attribute. -/
def undeclared (schema : Schema) (references : List Reference) : List Reference :=
  (references.filter fun reference => (schema.attribute? reference.name).isNone).eraseDupsBy
    fun later earlier => Text.sameName later.name earlier.name

/-- The registered attributes with the given names, each once and where it is named first. -/
def instances (schema : Schema) (names : List String) : List Instance :=
  (names.filterMap schema.attribute?).eraseDupsBy
    fun later earlier => later.serial == earlier.serial

/-- The warning about a reference for which an attribute was synthesized. -/
def Reference.warning (reference : Reference) : Diagnostic :=
  synthesisWarning reference.name reference.owner.name reference.owner.origin

/-- The schema in which a reference has an attribute. -/
def grow (schema : Schema) (reference : Reference) : Schema :=
  match schema.attribute? reference.name with
  | some _ => schema
  | none => schema.addAttribute (Attribute.synthesized reference.name)

/-- The schema in which every reference has an attribute. -/
def growAll (schema : Schema) (references : List Reference) : Schema :=
  references.foldl grow schema

theorem growAll_append (schema : Schema) (first second : List Reference) :
    schema.growAll (first ++ second) = (schema.growAll first).growAll second := List.foldl_append

theorem growAll_cons (schema : Schema) (first : Reference) (rest : List Reference) :
    schema.growAll (first :: rest) = (schema.grow first).growAll rest := rfl

theorem attribute?_addAttribute (schema : Schema) (attr : Attribute) (name : String) :
    (schema.addAttribute attr).attribute? name =
      if Text.sameName name attr.name then some (schema.nextInstance attr)
      else schema.attribute? name := by
  rw [attribute?, addAttribute, lookup_insertAt]
  simp only [Text.sameName, beq_iff_eq]
  rfl

theorem grow_of_found {schema : Schema} {reference : Reference} {found : Instance}
    (known : schema.attribute? reference.name = some found) : schema.grow reference = schema := by
  rw [grow, known]

theorem grow_of_absent {schema : Schema} {reference : Reference}
    (absent : schema.attribute? reference.name = none) :
    schema.grow reference = schema.addAttribute (Attribute.synthesized reference.name) := by
  rw [grow, absent]

/-- What is found is found again in a grown registry. -/
theorem attribute?_grow {schema : Schema} {name : String} {found : Instance}
    (known : schema.attribute? name = some found) (reference : Reference) :
    (schema.grow reference).attribute? name = some found := by
  cases registered : schema.attribute? reference.name with
  | some other => rw [grow_of_found registered, known]
  | none =>
      rw [grow_of_absent registered, attribute?_addAttribute]
      split
      · rename_i same
        have folded : Text.fold name = Text.fold reference.name := by
          simpa [Text.sameName, Attribute.synthesized] using same
        rw [attribute?, folded, ← attribute?, registered] at known
        cases known
      · exact known

theorem attribute?_growAll {schema : Schema} {name : String} {found : Instance}
    (known : schema.attribute? name = some found) (references : List Reference) :
    (schema.growAll references).attribute? name = some found := by
  induction references generalizing schema with
  | nil => exact known
  | cons first rest ih => exact ih (attribute?_grow known first)

private theorem attribute?_grow_self (schema : Schema) (reference : Reference) :
    ((schema.grow reference).attribute? reference.name).isSome = true := by
  cases registered : schema.attribute? reference.name with
  | some found => rw [grow_of_found registered, registered]; rfl
  | none =>
      rw [grow_of_absent registered, attribute?_addAttribute]
      simp [Text.sameName, Attribute.synthesized]

/-- Every reference is found in the end. -/
theorem attribute?_growAll_of_mem {references : List Reference} {reference : Reference}
    (member : reference ∈ references) (schema : Schema) :
    ((schema.growAll references).attribute? reference.name).isSome = true := by
  obtain ⟨before, after, rfl⟩ := List.append_of_mem member
  rw [growAll_append, growAll_cons]
  obtain ⟨found, known⟩ :=
    Option.isSome_iff_exists.mp (attribute?_grow_self (schema.growAll before) reference)
  rw [attribute?_growAll known after]
  rfl

private theorem Sound.grow {schema : Schema} (sound : schema.Sound) (reference : Reference) :
    (schema.grow reference).Sound := by
  rw [Schema.grow]
  split
  · exact sound
  · exact sound.addAttribute _

theorem Sound.growAll {schema : Schema} (sound : schema.Sound) (references : List Reference) :
    (schema.growAll references).Sound := by
  induction references generalizing schema with
  | nil => exact sound
  | cons first rest ih => exact ih (sound.grow first)

theorem growAll_frame (schema : Schema) (references : List Reference) :
    (schema.growAll references).objectClasses = schema.objectClasses ∧
      (schema.growAll references).bindings = schema.bindings := by
  induction references generalizing schema with
  | nil => exact ⟨rfl, rfl⟩
  | cons first rest ih =>
      rw [growAll_cons, (ih _).1, (ih _).2, grow]
      split <;> exact ⟨rfl, rfl⟩

private theorem growAll_of_found (schema : Schema) (references : List Reference)
    (known : ∀ reference ∈ references, (schema.attribute? reference.name).isSome = true) :
    schema.growAll references = schema := by
  induction references with
  | nil => rfl
  | cons first rest ih =>
      obtain ⟨found, registered⟩ := Option.isSome_iff_exists.mp (known first List.mem_cons_self)
      rw [growAll_cons, grow_of_found registered]
      exact ih fun reference member => known reference (List.mem_cons_of_mem _ member)

theorem undeclared_cons_of_found {schema : Schema} {first : Reference} {found : Instance}
    (known : schema.attribute? first.name = some found) (rest : List Reference) :
    schema.undeclared (first :: rest) = schema.undeclared rest := by
  rw [undeclared, List.filter_cons_of_neg (by simp [known]), ← undeclared]

theorem undeclared_cons_of_absent {schema : Schema} {first : Reference}
    (absent : schema.attribute? first.name = none) (rest : List Reference) :
    schema.undeclared (first :: rest) = first :: (schema.grow first).undeclared rest := by
  -- Later references by the same name are dropped here, and found in the grown registry there.
  rw [undeclared, List.filter_cons_of_pos (by simp [absent]), List.eraseDupsBy_cons,
    List.filter_filter, undeclared]
  congr 2
  refine List.filter_congr fun reference _ => ?_
  rw [grow_of_absent absent, attribute?_addAttribute]
  by_cases same : Text.sameName reference.name first.name = true <;>
    simp [same, Attribute.synthesized]

/-- References are gone through one after another. -/
theorem undeclared_append (schema : Schema) (first second : List Reference) :
    schema.undeclared (first ++ second) =
      schema.undeclared first ++ (schema.growAll first).undeclared second := by
  induction first generalizing schema with
  | nil => rfl
  | cons reference rest ih =>
      rw [List.cons_append, growAll_cons]
      cases registered : schema.attribute? reference.name with
      | some found =>
          rw [undeclared_cons_of_found registered, undeclared_cons_of_found registered,
            grow_of_found registered, ih]
      | none =>
          rw [undeclared_cons_of_absent registered, undeclared_cons_of_absent registered, ih,
            List.cons_append]

private theorem undeclared_cons (schema : Schema) (first : Reference) (rest : List Reference) :
    schema.undeclared (first :: rest) =
      schema.undeclared [first] ++ (schema.grow first).undeclared rest :=
  undeclared_append schema [first] rest

private theorem undeclared_of_found (schema : Schema) (references : List Reference)
    (known : ∀ reference ∈ references, (schema.attribute? reference.name).isSome = true) :
    schema.undeclared references = [] := by
  have none : (references.filter fun reference =>
      (schema.attribute? reference.name).isNone) = [] := by
    rw [List.filter_eq_nil_iff]
    intro reference member
    obtain ⟨found, registered⟩ := Option.isSome_iff_exists.mp (known reference member)
    simp [registered]
  rw [undeclared, none]
  rfl

theorem mem_of_mem_undeclared {schema : Schema} {references : List Reference}
    {reference : Reference} (member : reference ∈ schema.undeclared references) :
    reference ∈ references := by
  induction references generalizing schema with
  | nil => cases member
  | cons first rest ih =>
      cases registered : schema.attribute? first.name with
      | some found =>
          rw [undeclared_cons_of_found registered] at member
          exact List.mem_cons_of_mem first (ih member)
      | none =>
          rw [undeclared_cons_of_absent registered] at member
          rcases List.mem_cons.mp member with rfl | later
          · exact List.mem_cons_self
          · exact List.mem_cons_of_mem first (ih later)

/-- The registry grows at its end, by one synthesized attribute for each name without one. -/
theorem attributes_growAll (schema : Schema) (references : List Reference) :
    ∃ synthesized, (schema.growAll references).attributes = schema.attributes ++ synthesized ∧
      synthesized.map (Prod.map id Instance.attr) =
        (schema.undeclared references).map fun reference =>
          (Text.fold reference.name, Attribute.synthesized reference.name) := by
  induction references generalizing schema with
  | nil => exact ⟨[], by simp [growAll], rfl⟩
  | cons first rest ih =>
      obtain ⟨synthesized, grown, names⟩ := ih (schema.grow first)
      cases registered : schema.attribute? first.name with
      | some found =>
          rw [grow_of_found registered] at grown names
          rw [growAll_cons, grow_of_found registered, undeclared_cons_of_found registered]
          exact ⟨synthesized, grown, names⟩
      | none =>
          have added : (schema.grow first).attributes = schema.attributes ++
              [(Text.fold first.name,
                schema.nextInstance (Attribute.synthesized first.name))] := by
            rw [grow_of_absent registered]
            exact insertAt_of_absent _ _ _ registered
          refine ⟨(Text.fold first.name, schema.nextInstance (Attribute.synthesized first.name)) ::
            synthesized, ?_, ?_⟩
          · rw [growAll_cons, grown, added, List.append_assoc, List.singleton_append]
          · rw [undeclared_cons_of_absent registered, List.map_cons, List.map_cons, names]
            rfl

/-- A class with everything it names linked to what a registry holds under the name. -/
def linked (registry : Schema) (owner : ObjectClass) : ObjectClass :=
  { owner with
    required := (owner.requiredNames.filterMap registry.attribute?).foldl Instance.link
      owner.required
    optional := (owner.optionalNames.filterMap registry.attribute?).foldl Instance.link
      owner.optional }

theorem link_eq_keepNew :
    Instance.link = keepNew fun later earlier : Instance => later.serial == earlier.serial := by
  funext links added
  have flip : (fun linked : Instance => linked.serial == added.serial) =
      fun linked : Instance => added.serial == linked.serial := by
    funext linked
    exact BEq.comm
  rw [Instance.link, keepNew, flip]

/-- Linked from nothing, an instance is kept once and where it comes first. -/
theorem linked_of_unlinked (registry : Schema) {owner : ObjectClass}
    (unlinked : owner.required = [] ∧ owner.optional = []) :
    registry.linked owner =
      { owner with
        required := registry.instances owner.requiredNames
        optional := registry.instances owner.optionalNames } := by
  have fromNothing (found : List Instance) : found.foldl Instance.link [] =
      found.eraseDupsBy fun later earlier => later.serial == earlier.serial := by
    rw [link_eq_keepNew, foldl_keepNew]
    simp
  rw [linked, unlinked.1, unlinked.2, fromNothing, fromNothing, instances, instances]

/-- Linking what is linked already adds nothing. -/
theorem linked_linked (registry : Schema) (owner : ObjectClass) :
    registry.linked (registry.linked owner) = registry.linked owner := by
  have again (links found : List Instance) :
      found.foldl Instance.link (found.foldl Instance.link links) =
        found.foldl Instance.link links := by
    rw [link_eq_keepNew]
    exact foldl_keepNew_again _ (fun registered => beq_self_eq_true registered.serial) links found
  simp only [linked, again]

theorem filterMap_growAll {schema : Schema} {names : List String}
    (known : ∀ name ∈ names, (schema.attribute? name).isSome = true)
    (references : List Reference) :
    names.filterMap (schema.growAll references).attribute? = names.filterMap schema.attribute? := by
  refine List.filterMap_congr fun name member => ?_
  obtain ⟨found, registered⟩ := Option.isSome_iff_exists.mp (known name member)
  rw [attribute?_growAll registered, registered]

/-- A class whose names are all registered is linked the same in a grown registry. -/
theorem linked_growAll {schema : Schema} {owner : ObjectClass}
    (known : ∀ reference ∈ referencesOf owner, (schema.attribute? reference.name).isSome = true)
    (references : List Reference) :
    (schema.growAll references).linked owner = schema.linked owner := by
  have named (name : String) (member : name ∈ owner.requiredNames ++ owner.optionalNames) :
      (schema.attribute? name).isSome = true :=
    known { owner, name } (List.mem_map.mpr ⟨name, member, rfl⟩)
  rw [linked, linked,
    filterMap_growAll fun name member => named name (List.mem_append_left _ member),
    filterMap_growAll fun name member => named name (List.mem_append_right _ member)]

private theorem lookupOrSynthesize_eq (schema : Schema) (owner : ObjectClass) (name : String) :
    ∃ found, (schema.grow { owner, name }).attribute? name = some found ∧
      schema.lookupOrSynthesize owner name =
        (schema.grow { owner, name }, found,
          (schema.undeclared [{ owner, name }]).map Reference.warning) := by
  cases registered : schema.attribute? name with
  | some found =>
      have known : schema.attribute? (Reference.mk owner name).name = some found := registered
      have kept : schema.grow { owner, name } = schema := grow_of_found registered
      refine ⟨found, by rw [kept, registered], ?_⟩
      rw [lookupOrSynthesize, registered, kept,
        undeclared_cons_of_found known]
      rfl
  | none =>
      have absent : schema.attribute? (Reference.mk owner name).name = none := registered
      have grown : schema.grow { owner, name } =
          schema.addAttribute (Attribute.synthesized name) := grow_of_absent registered
      refine ⟨schema.nextInstance (Attribute.synthesized name), ?_, ?_⟩
      · rw [grown, attribute?_addAttribute]
        simp [Text.sameName, Attribute.synthesized]
      · rw [lookupOrSynthesize, registered, grown,
          undeclared_cons_of_absent absent]
        rfl

private theorem lookupAll_eq (schema : Schema) (owner : ObjectClass) (names : List String) :
    lookupAll (m := Id) lookupOrSynthesize schema owner names =
      (schema.growAll (names.map fun name => { owner, name }),
        names.filterMap (schema.growAll (names.map fun name => { owner, name })).attribute?,
        (schema.undeclared (names.map fun name => { owner, name })).map Reference.warning) := by
  induction names generalizing schema with
  | nil => rfl
  | cons name rest ih =>
      obtain ⟨found, registered, looked⟩ := lookupOrSynthesize_eq schema owner name
      have kept := attribute?_growAll registered (rest.map fun name => { owner, name })
      have split := undeclared_cons schema { owner, name } (rest.map fun name => { owner, name })
      rw [lookupAll_cons, looked]
      simp only [ih, List.map_cons, growAll_cons]
      rw [List.filterMap_cons_some kept, split, List.map_append]

private theorem resolveClass_eq (schema : Schema) (owner : ObjectClass) :
    resolveClass (m := Id) lookupOrSynthesize schema owner =
      (schema.growAll (referencesOf owner), (schema.growAll (referencesOf owner)).linked owner,
        (schema.undeclared (referencesOf owner)).map Reference.warning) := by
  have required (name : String) (member : name ∈ owner.requiredNames) :
      ((schema.growAll (owner.requiredNames.map fun name => { owner, name })).attribute?
        name).isSome = true := by
    have referenced : Reference.mk owner name ∈
        owner.requiredNames.map fun name => { owner, name } :=
      List.mem_map.mpr ⟨name, member, rfl⟩
    exact attribute?_growAll_of_mem referenced schema
  -- The optional names can grow the registry, which leaves the required links as they are.
  rw [referencesOf, List.map_append, growAll_append, undeclared_append, List.map_append, linked,
    filterMap_growAll required]
  simp only [resolveClass_plain, lookupAll_eq]

private theorem resolveClasses_eq (schema : Schema) (owners : List ObjectClass) :
    resolveClasses (m := Id) lookupOrSynthesize schema owners =
      (schema.growAll (owners.flatMap referencesOf),
        owners.map (schema.growAll (owners.flatMap referencesOf)).linked,
        (schema.undeclared (owners.flatMap referencesOf)).map Reference.warning) := by
  induction owners generalizing schema with
  | nil => rfl
  | cons owner rest ih =>
      have known (reference : Reference) (member : reference ∈ referencesOf owner) :=
        attribute?_growAll_of_mem member schema
      rw [resolveClasses_cons, resolveClass_eq]
      simp only [ih, List.flatMap_cons, growAll_append, undeclared_append, List.map_cons,
        List.map_append, linked_growAll known]

/-- Resolution grows the registry by what the classes name and links every class to the result. -/
theorem resolve_eq (schema : Schema) :
    schema.resolve =
      ({ schema.growAll schema.references with
          objectClasses := schema.objectClasses.map (schema.growAll schema.references).linked },
        (schema.undeclared schema.references).map Reference.warning) := by
  rw [resolve_plain, resolveClasses_eq, ← references]

/-- What every class names is found in the grown registry. -/
theorem attribute?_growAll_references (schema : Schema) {owner : ObjectClass}
    (member : owner ∈ schema.objectClasses) {name : String}
    (named : name ∈ owner.requiredNames ++ owner.optionalNames) :
    ((schema.growAll schema.references).attribute? name).isSome = true := by
  have referenced : { owner, name } ∈ schema.references :=
    List.mem_flatMap.mpr ⟨owner, member, List.mem_map.mpr ⟨name, named, rfl⟩⟩
  exact attribute?_growAll_of_mem referenced schema

theorem attribute?_resolve (schema : Schema) :
    schema.resolve.1.attribute? = (schema.growAll schema.references).attribute? := by
  rw [resolve_eq]
  rfl

theorem linked_resolve (schema : Schema) :
    schema.resolve.1.linked = (schema.growAll schema.references).linked := by
  funext owner
  rw [linked, linked, attribute?_resolve]

theorem objectClasses_resolve (schema : Schema) :
    schema.resolve.1.objectClasses =
      schema.objectClasses.map (schema.growAll schema.references).linked := by
  rw [resolve_eq]

theorem bindings_resolve (schema : Schema) : schema.resolve.1.bindings = schema.bindings := by
  rw [resolve_eq]
  exact (growAll_frame schema _).2

theorem Sound.resolve {schema : Schema} (sound : schema.Sound) : schema.resolve.1.Sound := by
  have grown := sound.growAll schema.references
  rw [resolve_eq]
  exact ⟨grown.keyed, grown.keys, grown.numbered, grown.serials⟩

/-- What is registered stays registered. -/
theorem attribute?_resolve_of_found {schema : Schema} {name : String} {found : Instance}
    (registered : schema.attribute? name = some found) :
    schema.resolve.1.attribute? name = some found := by
  rw [attribute?_resolve]
  exact attribute?_growAll registered schema.references

theorem attribute?_resolve_of_named (schema : Schema) {owner : ObjectClass}
    (member : owner ∈ schema.objectClasses) {name : String}
    (named : name ∈ owner.requiredNames ++ owner.optionalNames) :
    (schema.resolve.1.attribute? name).isSome = true := by
  rw [attribute?_resolve]
  exact attribute?_growAll_references schema member named

theorem isResolved_resolve (schema : Schema) : schema.resolve.1.isResolved = true := by
  rw [resolve_eq]
  simp only [isResolved, List.all_map, List.all_eq_true, Function.comp]
  intro owner member name named
  exact attribute?_growAll_references schema member named

/-- A resolved schema is resolved to itself, and nothing more is synthesized. -/
theorem resolve_resolve (schema : Schema) :
    schema.resolve.1.resolve = (schema.resolve.1, []) := by
  have known : ∀ reference ∈ schema.resolve.1.references,
      (schema.resolve.1.attribute? reference.name).isSome = true := by
    intro reference member
    rw [resolve_eq] at member ⊢
    obtain ⟨owner, linkedOwner, fromOwner⟩ := List.mem_flatMap.mp member
    obtain ⟨original, declared, rfl⟩ := List.mem_map.mp linkedOwner
    obtain ⟨name, named, rfl⟩ := List.mem_map.mp fromOwner
    exact attribute?_growAll_references schema declared named
  have again : schema.resolve.1.objectClasses.map schema.resolve.1.linked =
      schema.resolve.1.objectClasses := by
    rw [resolve_eq, List.map_map]
    refine List.map_congr_left fun owner _ => ?_
    exact linked_linked (schema.growAll schema.references) owner
  rw [resolve_eq schema.resolve.1, growAll_of_found _ _ known, undeclared_of_found _ _ known, again]
  rfl

/-- What resolution is to make of a schema: one attribute more for each referenced name without one,
every class linked to what is then registered, and nothing left to resolve. -/
structure Resolution (schema resolved : Schema) (warnings : List Diagnostic) : Prop where
  extended : ∃ synthesized, resolved.attributes = schema.attributes ++ synthesized ∧
    synthesized.map (Prod.map id Instance.attr) =
      (schema.undeclared schema.references).map fun reference =>
        (Text.fold reference.name,
          { name := reference.name
            alternateNames := some reference.name
            valueSyntax := .caseIgnoreString
            multiValued := false
            origin := none })
  linked : resolved.objectClasses = schema.objectClasses.map fun owner =>
    { owner with
      required := resolved.instances owner.requiredNames
      optional := resolved.instances owner.optionalNames }
  bindings : resolved.bindings = schema.bindings
  complete : resolved.isResolved = true
  sound : resolved.Sound
  warned : warnings = (schema.undeclared schema.references).map fun reference =>
    synthesisWarning reference.name reference.owner.name reference.owner.origin
  stable : resolved.resolve = (resolved, [])

/-- Two classes of one name that refer to a declared attribute and to others in several cases. -/
def people : List Declaration :=
  [.objectClass
      { name := "person", requiredNames := ["cn", "Mail", "CN"], optionalNames := ["Cn", "sn"] },
    .attr { name := "mail", valueSyntax := .caseExactString },
    .objectClass { name := "person", requiredNames := ["SN"], optionalNames := ["mail", "MAIL"] }]

end DirSchema.Schema
