import DirSchema.Schema.Resolve
import DirSchema.Proofs.Schema.Registration
set_option autoImplicit false

namespace DirSchema

variable (move : Coord → Coord)

def Attribute.relocate (attr : Attribute) : Attribute :=
  { attr with origin := attr.origin.map move }

/-- The registration of an attribute that was declared elsewhere. -/
def Instance.relocate (registered : Instance) : Instance :=
  { registered with attr := registered.attr.relocate move }

def ObjectClass.relocate (declared : ObjectClass) : ObjectClass :=
  { declared with
    required := declared.required.map (Instance.relocate move)
    optional := declared.optional.map (Instance.relocate move)
    origin := declared.origin.map move }

def Binding.relocate (binding : Binding) : Binding :=
  { binding with origin := binding.origin.map move }

def Declaration.relocate : Declaration → Declaration
  | .attr declared => .attr (declared.relocate move)
  | .objectClass declared => .objectClass (declared.relocate move)
  | .binding declared => .binding (declared.relocate move)

def Diagnostic.relocate (diagnostic : Diagnostic) : Diagnostic :=
  { diagnostic with
    labels := diagnostic.labels.map fun label => { label with coord := move label.coord } }

namespace Schema

/-- The schema as if everything in it had been declared elsewhere. -/
def relocate (schema : Schema) : Schema :=
  { schema with
    attributes := schema.attributes.map (Prod.map id (Instance.relocate move))
    objectClasses := schema.objectClasses.map (ObjectClass.relocate move)
    bindings := schema.bindings.map (Prod.map id (Binding.relocate move)) }

theorem attribute?_relocate (schema : Schema) (name : String) :
    (schema.relocate move).attribute? name =
      (schema.attribute? name).map (Instance.relocate move) := lookup_map _ _ _

theorem addAttribute_relocate (schema : Schema) (attr : Attribute) :
    (schema.relocate move).addAttribute (attr.relocate move) =
      (schema.addAttribute attr).relocate move := by
  have registered := map_insertAt (Instance.relocate move) attr.key (schema.nextInstance attr)
    schema.attributes
  simp only [addAttribute, relocate, registered]
  rfl

private theorem declare_relocate (schema : Schema) (declaration : Declaration) :
    (schema.relocate move).declare (declaration.relocate move) =
      (schema.declare declaration).relocate move := by
  cases declaration with
  | attr declared => exact addAttribute_relocate move schema declared
  | objectClass declared =>
      simp only [declare, Declaration.relocate, addObjectClass, relocate, List.map_append,
        List.map_singleton]
  | binding declared =>
      have registered := map_insertAt (Binding.relocate move) declared.ldapName declared
        schema.bindings
      simp only [declare, Declaration.relocate, addBinding, relocate, registered]
      rfl

theorem declareEach_relocate (schema : Schema) (declarations : List Declaration) :
    (schema.relocate move).declareEach (declarations.map (Declaration.relocate move)) =
      (schema.declareEach declarations).relocate move := by
  induction declarations generalizing schema with
  | nil => rfl
  | cons first rest ih =>
      rw [List.map_cons, declareEach_cons, declare_relocate, ih, declareEach_cons]

private theorem foldl_link_relocate (links found : List Instance) :
    (found.map (Instance.relocate move)).foldl Instance.link
        (links.map (Instance.relocate move)) =
      (found.foldl Instance.link links).map (Instance.relocate move) := by
  induction found generalizing links with
  | nil => rfl
  | cons first rest ih =>
      have linked : Instance.link (links.map (Instance.relocate move)) (first.relocate move) =
          (Instance.link links first).map (Instance.relocate move) := by
        rw [Instance.link, Instance.link, List.any_map, apply_ite (List.map _), List.map_append]
        rfl
      rw [List.map_cons, List.foldl_cons, linked, ih, List.foldl_cons]

private theorem synthesisWarning_relocate (name className : String) (origin : Option Coord) :
    synthesisWarning name className (origin.map move) =
      (synthesisWarning name className origin).relocate move := by
  cases origin <;> rfl

private theorem lookupOrSynthesize_relocate (schema : Schema) (owner : ObjectClass)
    (name : String) :
    (schema.relocate move).lookupOrSynthesize (owner.relocate move) name =
      ((schema.lookupOrSynthesize owner name).1.relocate move,
        (schema.lookupOrSynthesize owner name).2.1.relocate move,
        (schema.lookupOrSynthesize owner name).2.2.map (Diagnostic.relocate move)) := by
  rw [lookupOrSynthesize, lookupOrSynthesize, attribute?_relocate]
  cases registered : schema.attribute? name with
  | some found => rfl
  | none =>
      have synthesized :
          (Attribute.synthesized name).relocate move = Attribute.synthesized name := rfl
      have added := addAttribute_relocate move schema (Attribute.synthesized name)
      have warned := synthesisWarning_relocate move name owner.name owner.origin
      rw [synthesized] at added
      simp only [Option.map_none, List.map_singleton, added, ← warned]
      rfl

private theorem lookupAll_relocate (schema : Schema) (owner : ObjectClass) (names : List String) :
    lookupAll (m := Id) lookupOrSynthesize (schema.relocate move) (owner.relocate move) names =
      ((lookupAll (m := Id) lookupOrSynthesize schema owner names).1.relocate move,
        (lookupAll (m := Id) lookupOrSynthesize schema owner names).2.1.map
          (Instance.relocate move),
        (lookupAll (m := Id) lookupOrSynthesize schema owner names).2.2.map
          (Diagnostic.relocate move)) := by
  induction names generalizing schema with
  | nil => rfl
  | cons name rest ih =>
      simp only [lookupAll_cons, lookupOrSynthesize_relocate, ih, List.map_cons, List.map_append]

private theorem resolveClass_relocate (schema : Schema) (owner : ObjectClass) :
    resolveClass (m := Id) lookupOrSynthesize (schema.relocate move) (owner.relocate move) =
      ((resolveClass (m := Id) lookupOrSynthesize schema owner).1.relocate move,
        (resolveClass (m := Id) lookupOrSynthesize schema owner).2.1.relocate move,
        (resolveClass (m := Id) lookupOrSynthesize schema owner).2.2.map
          (Diagnostic.relocate move)) := by
  have required : (owner.relocate move).requiredNames = owner.requiredNames := rfl
  have optional : (owner.relocate move).optionalNames = owner.optionalNames := rfl
  simp only [resolveClass_plain, required, optional, lookupAll_relocate, List.map_append]
  simp only [ObjectClass.relocate, foldl_link_relocate]

private theorem resolveClasses_relocate (schema : Schema) (owners : List ObjectClass) :
    resolveClasses (m := Id) lookupOrSynthesize (schema.relocate move)
        (owners.map (ObjectClass.relocate move)) =
      ((resolveClasses (m := Id) lookupOrSynthesize schema owners).1.relocate move,
        (resolveClasses (m := Id) lookupOrSynthesize schema owners).2.1.map
          (ObjectClass.relocate move),
        (resolveClasses (m := Id) lookupOrSynthesize schema owners).2.2.map
          (Diagnostic.relocate move)) := by
  induction owners generalizing schema with
  | nil => rfl
  | cons owner rest ih =>
      simp only [List.map_cons, resolveClasses_cons, resolveClass_relocate, ih, List.map_append]

/-- Resolution does not look at coordinates. -/
theorem resolve_relocate (schema : Schema) :
    (schema.relocate move).resolve =
      (schema.resolve.1.relocate move, schema.resolve.2.map (Diagnostic.relocate move)) := by
  have classes : (schema.relocate move).objectClasses =
      schema.objectClasses.map (ObjectClass.relocate move) := rfl
  rw [resolve_plain, resolve_plain, classes, resolveClasses_relocate]
  rfl

end Schema
end DirSchema
