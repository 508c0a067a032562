import DirSchema.Model.Basic
import DirSchema.Proofs.Schema.Reference
import DirSchema.Proofs.Schema.Resolution
import Mathlib.Data.List.Pairwise
set_option autoImplicit false

namespace DirSchema

/-- Names that some elements give are kept in the order of the first element that gives each. -/
theorem pairwise_findIdx_insertName {α : Type} (name? : α → Option String) (elements : List α) :
    ((elements.filterMap name?).foldl insertName []).Pairwise fun earlier later =>
      elements.findIdx (name? · == some earlier) < elements.findIdx (name? · == some later) := by
  induction elements using List.reverseRecOn with
  | nil => exact .nil
  | append_singleton front last ih =>
      have found {name : String} (member : name ∈ (front.filterMap name?).foldl insertName []) :
          front.findIdx (name? · == some name) < front.length := by
        rw [foldl_insertName, List.mem_eraseDups] at member
        obtain ⟨element, among, given⟩ := List.mem_filterMap.mp member
        exact List.findIdx_lt_length_of_exists ⟨element, among, by simp [given]⟩
      have before : ((front.filterMap name?).foldl insertName []).Pairwise fun earlier later =>
          (front ++ [last]).findIdx (name? · == some earlier) <
            (front ++ [last]).findIdx (name? · == some later) := by
        refine ih.imp_of_mem fun {earlier later} member among less => ?_
        rw [List.findIdx_append, List.findIdx_append, if_pos (found member), if_pos (found among)]
        exact less
      rw [List.filterMap_append, List.foldl_append]
      cases given : name? last with
      | none =>
          rw [List.filterMap_cons_none given]
          exact before
      | some name =>
          rw [List.filterMap_cons_some given, List.filterMap_nil, List.foldl_cons, List.foldl_nil,
            insertName]
          split
          · exact before
          · rename_i new
            have absent : front.findIdx (name? · == some name) = front.length := by
              refine List.findIdx_eq_length.mpr fun element member => ?_
              rw [foldl_insertName, List.contains_eq_mem, decide_eq_true_eq,
                List.mem_eraseDups] at new
              exact beq_false_of_ne fun same => new (List.mem_filterMap.mpr ⟨element, member, same⟩)
            refine List.pairwise_append.mpr ⟨before, List.pairwise_singleton .., ?_⟩
            intro earlier member later same
            rw [List.mem_singleton.mp same, List.findIdx_append, List.findIdx_append,
              if_pos (found member), absent, if_neg (Nat.lt_irrefl _)]
            exact Nat.lt_add_left _ (found member)

namespace Model

/-- What an entry of the bindings leads to, if it stands below a class. -/
def child? (schema : Schema) (name : String) (entry : String × Binding) : Option String :=
  if Text.sameName entry.2.allowableParent name then
    some (schema.declaredClassName entry.2.ldapName)
  else none

def BoundBelow (schema : Schema) (name spelling : String) : Prop :=
  ∃ entry ∈ schema.bindings, Text.sameName entry.2.allowableParent name = true ∧
    entry.2.ldapName = spelling

/-- How the children of a class are listed: each that a binding below the class leads to, once, in
the order of the first binding that leads to it. Two spellings of one name are both listed exactly
if both are bound below the class and no class matches them. -/
structure ListsChildren (schema : Schema) (owner : ObjectClass) (children : List String) :
    Prop where
  listed : ∀ child, child ∈ children ↔
    ∃ entry ∈ schema.bindings, Text.sameName entry.2.allowableParent owner.name = true ∧
      schema.declaredClassName entry.2.ldapName = child
  ordered : children.Pairwise fun earlier later =>
    schema.bindings.findIdx (child? schema owner.name · == some earlier) <
      schema.bindings.findIdx (child? schema owner.name · == some later)
  once : children.Nodup
  twice : ∀ child other, Text.sameName child other = true → child ≠ other →
    (child ∈ children ∧ other ∈ children ↔
      ¬ schema.Declares child ∧ BoundBelow schema owner.name child ∧
        BoundBelow schema owner.name other)

section
variable (schema : Schema) (name : String)

theorem childrenOf_eq : childrenOf schema name =
    (schema.bindings.filterMap (child? schema name)).foldl insertName [] := by
  have split : schema.bindings.filterMap (child? schema name) =
      (schema.bindings.filter fun entry => Text.sameName entry.2.allowableParent name).map
        fun entry => schema.declaredClassName entry.2.ldapName := by
    rw [← List.filterMap_eq_map, List.filterMap_filter]
    rfl
  rw [split, List.foldl_map]
  rfl

theorem mem_childrenOf {child : String} : child ∈ childrenOf schema name ↔
    ∃ entry ∈ schema.bindings, Text.sameName entry.2.allowableParent name = true ∧
      schema.declaredClassName entry.2.ldapName = child := by
  rw [childrenOf_eq, foldl_insertName, List.mem_eraseDups, List.mem_filterMap]
  refine exists_congr fun entry => and_congr_right fun _ => ?_
  rw [child?]
  split <;> simp [*]

private theorem nodup_childrenOf : (childrenOf schema name).Nodup := by
  rw [childrenOf_eq, foldl_insertName]
  exact nodup_eraseDups _

variable {schema name}

/-- A child leads to itself. -/
theorem declaredClassName_of_mem_childrenOf {child : String}
    (isChild : child ∈ childrenOf schema name) : schema.declaredClassName child = child := by
  obtain ⟨entry, -, -, rfl⟩ := (mem_childrenOf schema name).mp isChild
  exact schema.declaredClassName_idem entry.2.ldapName

private theorem mem_childrenOf_of_not_declares {child : String}
    (undeclared : ¬ schema.Declares child) :
    child ∈ childrenOf schema name ↔ BoundBelow schema name child := by
  rw [mem_childrenOf]
  refine exists_congr fun entry => and_congr_right fun _ => and_congr_right fun _ => ?_
  constructor
  · rintro rfl
    symm
    exact Schema.declaredClassName_of_not_declares fun declares =>
      undeclared (declares.of_sameName (Text.sameName_symm (schema.sameName_declaredClassName _)))
  · rintro rfl
    exact Schema.declaredClassName_of_not_declares undeclared

/-- Which children are the same name in other cases. -/
theorem mem_childrenOf_twice {child other : String} (same : Text.sameName child other = true)
    (differ : child ≠ other) :
    child ∈ childrenOf schema name ∧ other ∈ childrenOf schema name ↔
      ¬ schema.Declares child ∧ BoundBelow schema name child ∧ BoundBelow schema name other := by
  have alsoNot (undeclared : ¬ schema.Declares child) : ¬ schema.Declares other :=
    fun declares => undeclared (declares.of_sameName (Text.sameName_symm same))
  constructor
  · rintro ⟨isChild, isOther⟩
    have undeclared : ¬ schema.Declares child := by
      intro declares
      apply differ
      rw [← declaredClassName_of_mem_childrenOf isChild,
        ← declaredClassName_of_mem_childrenOf isOther]
      exact (declares.declaredClassName_congr same).symm
    exact ⟨undeclared, (mem_childrenOf_of_not_declares undeclared).mp isChild,
      (mem_childrenOf_of_not_declares (alsoNot undeclared)).mp isOther⟩
  · rintro ⟨undeclared, bound, otherBound⟩
    exact ⟨(mem_childrenOf_of_not_declares undeclared).mpr bound,
      (mem_childrenOf_of_not_declares (alsoNot undeclared)).mpr otherBound⟩

variable (schema name)

theorem listsChildren_childrenOf (owner : ObjectClass) :
    ListsChildren schema owner (childrenOf schema owner.name) where
  listed := fun _ => mem_childrenOf schema owner.name
  ordered := by
    rw [childrenOf_eq]
    exact pairwise_findIdx_insertName (child? schema owner.name) schema.bindings
  once := nodup_childrenOf schema owner.name
  twice := fun _ _ => mem_childrenOf_twice

end

/-- A class is bound under its own name. -/
theorem keyed_register {α : Type} (key : α → String) (values : List α) :
    ∀ entry ∈ register key [] values, key entry.2 = entry.1 := by
  induction values using List.reverseRecOn with
  | nil => exact fun entry member => absurd member List.not_mem_nil
  | append_singleton front last ih =>
      intro entry member
      rw [register_concat] at member
      rcases mem_insertAt member with rfl | old
      · rfl
      · exact ih entry old

/-- Bindings stand in the order in which each class was first bound. -/
theorem ldapNames_bindings (declarations : List Declaration) :
    ((Schema.declareEach {} declarations).resolve.1.bindings.map fun entry => entry.2.ldapName) =
      ((declarations.filterMap Declaration.binding?).map Binding.ldapName).eraseDups := by
  rw [Schema.bindings_resolve, Schema.bindings_declareEach, ← keys_register]
  exact List.map_congr_left fun entry member => keyed_register Binding.ldapName _ entry member

/-- The children of a class are what the bindings below it lead to, each spelling once and in the
order of bindings, which is that in which each class was first bound. They are the same for classes
with the same name in other cases. A child is listed twice, in two spellings, exactly if both
spellings are bound below the class and no class is declared that they match. -/
theorem children_listed (schema : Schema) (owner : ObjectClass) (package : String)
    (kind : ArtifactKind) :
    ListsChildren schema owner (ofClass schema owner package kind).childObjectClasses ∧
      (∀ other : ObjectClass, Text.sameName other.name owner.name = true →
        (ofClass schema other package kind).childObjectClasses =
          (ofClass schema owner package kind).childObjectClasses) ∧
      ∀ declarations : List Declaration,
        ((Schema.declareEach {} declarations).resolve.1.bindings.map
            fun entry => entry.2.ldapName) =
          ((declarations.filterMap Declaration.binding?).map Binding.ldapName).eraseDups := by
  refine ⟨listsChildren_childrenOf schema owner, fun other same => ?_, ldapNames_bindings⟩
  show childrenOf schema other.name = childrenOf schema owner.name
  simp only [childrenOf, (Text.sameName_congr same _).1]

/-- A class that is declared in two cases and refers to its children in two cases. -/
def staffed : Schema :=
  Schema.declareEach {}
    [.objectClass { name := "person" }, .objectClass { name := "Person" },
      .objectClass { name := "employee" },
      .binding ⟨"a", "Employee", "PERSON", "cn", none⟩,
      .binding ⟨"b", "contractor", "person", "cn", none⟩,
      .binding ⟨"c", "employee", "Person", "uid", none⟩]

theorem staffed_listed :
    Text.sameName "Person" "person" = true ∧
      (ofClass staffed { name := "Person" } "app" .entity).childObjectClasses =
        ["employee", "contractor"] ∧
      (ofClass staffed { name := "Person" } "app" .entity).childObjectClasses =
        (ofClass staffed { name := "person" } "app" .entity).childObjectClasses := by
  have same : Text.sameName "Person" "person" = true := by decide
  obtain ⟨-, alike, -⟩ := children_listed staffed { name := "person" } "app" .entity
  exact ⟨same, by decide, alike { name := "Person" } same⟩

/-- A class that is bound in two spellings and not declared. -/
def contracted : Schema :=
  Schema.declareEach {}
    [.objectClass { name := "person" }, .binding ⟨"a", "Employee", "person", "cn", none⟩,
      .binding ⟨"b", "EMPLOYEE", "person", "cn", none⟩]

theorem contracted_listed_twice :
    (ofClass contracted { name := "person" } "app" .entity).childObjectClasses =
        ["Employee", "EMPLOYEE"] ∧
      Text.sameName "Employee" "EMPLOYEE" = true ∧
      ¬ (ofClass contracted { name := "person" } "app" .entity).childObjectClasses.Pairwise
        fun child other => Text.sameName child other = false := by
  decide

end Model
end DirSchema
