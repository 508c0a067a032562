import DirSchema.Model.Basic
import DirSchema.Proofs.Model.Distinct
import DirSchema.Proofs.Model.Spelling
set_option autoImplicit false

namespace DirSchema.Model

/-- The identifier that a field name spells, raw or not. -/
def wordOf (name : String) : String :=
  match name.toList with
  | 'r' :: '#' :: word => String.ofList word
  | _ => name

/-- How fields are called: a keyword is raw, and nothing else has the mark of a raw identifier. -/
def Spelled (name : String) : Prop :=
  (∃ word ∈ keywords, name = "r#" ++ word) ∨ ('#' ∉ name.toList ∧ name ∉ keywords)

theorem toList_raw (word : String) : ("r#" ++ word).toList = 'r' :: '#' :: word.toList :=
  String.toList_append

private theorem wordOf_raw (word : String) : wordOf ("r#" ++ word) = word := by
  rw [wordOf, toList_raw]
  exact String.ofList_toList

private theorem wordOf_of_not_mem {name : String} (plain : '#' ∉ name.toList) :
    wordOf name = name := by
  rw [wordOf]
  split
  · rename_i word raw
    rw [raw] at plain
    simp at plain
  · rfl

/-- Fields that spell one identifier have one name. -/
theorem Spelled.eq_of_wordOf {name other : String} (spelled : Spelled name)
    (spelledOther : Spelled other) (same : wordOf name = wordOf other) : name = other := by
  rcases spelled with ⟨word, keyword, rfl⟩ | ⟨plain, free⟩ <;>
    rcases spelledOther with ⟨wordOther, keywordOther, rfl⟩ | ⟨plainOther, freeOther⟩
  · rw [wordOf_raw, wordOf_raw] at same
    rw [same]
  · rw [wordOf_raw, wordOf_of_not_mem plainOther] at same
    rw [same] at keyword
    exact absurd keyword freeOther
  · rw [wordOf_raw, wordOf_of_not_mem plain] at same
    rw [same] at free
    exact absurd keywordOther free
  · rwa [wordOf_of_not_mem plain, wordOf_of_not_mem plainOther] at same

theorem underscore_not_mem_keyword : ∀ word ∈ keywords, '_' ∉ word.toList := by decide

private theorem spelled_fieldNameOf (name : String) : Spelled (fieldNameOf name) := by
  have escaped : ∀ word ∈ reservedWords,
      '#' ∉ (word ++ "_").toList ∧ word ++ "_" ∉ keywords := by decide +kernel
  have plain := Text.mark_not_mem_snakeCase name
  rw [fieldNameOf]
  split
  · rename_i never
    exact .inr (escaped _ (List.contains_iff_mem.mp never))
  split
  · rename_i keyword
    exact .inl ⟨Text.snakeCase name, List.contains_iff_mem.mp keyword, rfl⟩
  rename_i other
  split
  · have whole : ("_" ++ Text.snakeCase name).toList = '_' :: (Text.snakeCase name).toList :=
      String.toList_append
    refine .inr ⟨?_, fun keyword => underscore_not_mem_keyword _ keyword ?_⟩
    · rw [whole, List.mem_cons, not_or]
      exact ⟨by decide, plain⟩
    · rw [whole]
      exact List.mem_cons_self
  · exact .inr ⟨plain, fun keyword => other (List.contains_iff_mem.mpr keyword)⟩

private theorem mark_not_mem_withoutRawMarks {name : String} (spelled : Spelled name) :
    '#' ∉ withoutRawMarks name.toList := by
  have plain : ∀ word ∈ keywords, '#' ∉ word.toList := by decide
  rcases spelled with ⟨word, keyword, rfl⟩ | ⟨absent, -⟩
  · rw [toList_raw, withoutRawMarks, withoutRawMarks_of_not_mem (plain word keyword)]
    exact plain word keyword
  · rwa [withoutRawMarks_of_not_mem absent]

/-- What has a number is spelled plainly. -/
theorem Spelled.numbered {name : String} (spelled : Spelled name) (n : Nat) :
    Spelled (numbered (numberedBase name) n) := by
  refine .inr ⟨fun member => ?_, fun keyword => underscore_not_mem_keyword _ keyword ?_⟩
  · rw [toList_numbered, List.mem_append, List.mem_cons] at member
    rcases member with base | mark | digit
    · exact mark_not_mem_withoutRawMarks spelled ((List.rdropWhile_prefix _ _).subset base)
    · exact absurd mark (by decide)
    · exact absurd (Nat.isDigit_of_mem_toDigits (by decide) (by decide) digit) (by decide)
  · rw [toList_numbered]
    simp

/-- Each name is chosen in view of the ones before it. -/
theorem chosen_distinctNames {taken names : List String} {i : Nat} {given name : String}
    (position : names[i]? = some given) (final : (distinctNames taken names)[i]? = some name) :
    Chosen (taken ++ (distinctNames taken names).take i) given name := by
  induction names generalizing taken i with
  | nil => cases position
  | cons first rest ih =>
      rw [distinctNames] at final ⊢
      cases i with
      | zero =>
          rw [List.getElem?_cons_zero, Option.some.injEq] at position final
          rw [← position, ← final, List.take_zero, List.append_nil]
          exact chosen_distinctName taken first
      | succ i =>
          rw [List.getElem?_cons_succ] at position final
          rw [List.take_succ_cons]
          exact (ih position final).perm List.perm_middle.symm

/-- What is chosen for the first names does not depend on the others. -/
theorem take_distinctNames (taken names : List String) (i : Nat) :
    (distinctNames taken names).take i = distinctNames taken (names.take i) := by
  induction names generalizing taken i with
  | nil => rw [List.take_nil, distinctNames, List.take_nil]
  | cons first rest ih =>
      cases i with
      | zero => rfl
      | succ i => rw [List.take_succ_cons, distinctNames, distinctNames, List.take_succ_cons, ih]

/-- The fields of a class, required ones first. -/
def ClassView.fields (view : ClassView) : List Field := view.required ++ view.optional

def ClassView.fieldNames (view : ClassView) : List String := view.fields.map (·.fieldName)

def Field.unnamed (field : Field) : Field := { field with fieldName := "" }

def ClassView.unnamed (view : ClassView) : ClassView :=
  { view with
    required := view.required.map Field.unnamed
    optional := view.optional.map Field.unnamed }

/-- What the field names of a class are, given those that its attributes have by themselves. -/
structure Named (view : ClassView) (hasParent : Bool) (final : ClassView) : Prop where
  /-- Nothing but field names changes. -/
  rest : final.unnamed = view.unnamed
  /-- No two fields share a name. -/
  distinct : final.fieldNames.Nodup
  /-- The field that a subclass embeds its parent in stays free. -/
  parent : hasParent = true → parentField ∉ final.fieldNames
  /-- Nor do two fields, called as their attributes have them called, share the identifier that their
  names spell. -/
  identifiers : (∀ field ∈ view.fields, field.fieldName = fieldNameOf field.name) →
    ((takenNames hasParent ++ final.fieldNames).map wordOf).Nodup
  /-- A name changes only if it has to, and to the first number that is free. -/
  chosen : ∀ (i : Nat) (given name : String), view.fieldNames[i]? = some given →
    final.fieldNames[i]? = some name →
    Chosen (takenNames hasParent ++ final.fieldNames.take i) given name
  /-- A number makes an identifier of an identifier, whatever letters there are. -/
  valid : ∀ letters : Letters, (∀ name ∈ view.fieldNames, letters.isIdentifier name = true) →
    ∀ name ∈ final.fieldNames, letters.isIdentifier name = true
  /-- What the first fields are called does not depend on the fields behind them. -/
  stable : ∀ (other : ClassView) (i : Nat),
    other.fieldNames.take i = view.fieldNames.take i →
    (other.withDistinctFields hasParent).fieldNames.take i = final.fieldNames.take i

theorem mem_takenNames {hasParent : Bool} {name : String} :
    name ∈ takenNames hasParent ↔ hasParent = true ∧ name = parentField := by
  cases hasParent <;> simp [takenNames]

section
variable (view : ClassView) (hasParent : Bool)

theorem ClassView.fieldNames_withDistinctFields : (view.withDistinctFields hasParent).fieldNames =
    distinctNames (takenNames hasParent) view.fieldNames :=
  Model.fieldNames_withDistinctFields view hasParent

theorem ClassView.unnamed_withDistinctFields :
    (view.withDistinctFields hasParent).unnamed = view.unnamed := by
  have blind : ∀ (field : Field) (name : String),
      Field.unnamed { field with fieldName := name } = field.unnamed := fun _ _ => rfl
  rw [withDistinctFields, unnamed, unnamed, Field.map_rename _ blind, Field.map_rename _ blind]

/-- The names of fields and of the parent are spelled so that no two spell one identifier. -/
theorem spelled_of_mem_fieldNames
    (given : ∀ field ∈ view.fields, field.fieldName = fieldNameOf field.name) :
    ∀ name ∈ takenNames hasParent ++ (view.withDistinctFields hasParent).fieldNames,
      Spelled name := by
  have alone : ∀ name ∈ view.fieldNames, Spelled name := by
    refine List.forall_mem_map.mpr fun field member => ?_
    rw [given field member]
    exact spelled_fieldNameOf field.name
  rw [List.forall_mem_append]
  constructor
  · intro name member
    rw [(mem_takenNames.mp member).2]
    exact .inr (by decide)
  · rw [ClassView.fieldNames_withDistinctFields]
    exact forall_mem_distinctNames alone (fun name member => (alone name member).numbered) _

/-- Fields are called as little differently from their attributes as makes them distinct. -/
theorem named_withDistinctFields : Named view hasParent (view.withDistinctFields hasParent) := by
  have nodup : (takenNames hasParent ++ (view.withDistinctFields hasParent).fieldNames).Nodup :=
    nodup_fieldNames view hasParent
  exact
    { rest := view.unnamed_withDistinctFields hasParent
      distinct := (List.nodup_append.mp nodup).2.1
      parent := by
        intro subclass member
        have reserved := mem_takenNames.mpr ⟨subclass, rfl⟩
        exact (List.nodup_append.mp nodup).2.2 _ reserved _ member rfl
      identifiers := by
        intro given
        have spelled := spelled_of_mem_fieldNames view hasParent given
        exact nodup.map_on fun name member other memberOther same =>
          (spelled name member).eq_of_wordOf (spelled other memberOther) same
      chosen := by
        intro i given name position final
        rw [ClassView.fieldNames_withDistinctFields] at final ⊢
        exact chosen_distinctNames position final
      valid := by
        intro letters given
        rw [ClassView.fieldNames_withDistinctFields]
        exact forall_mem_distinctNames given
          (fun name member => Letters.isIdentifier_numbered (given name member)) _
      stable := by
        intro other i same
        rw [ClassView.fieldNames_withDistinctFields, ClassView.fieldNames_withDistinctFields,
          take_distinctNames, take_distinctNames, same] }

end

example : distinctNames (takenNames true) ["type_2", "r#type", "r#type", "parent"] =
    ["type_2", "r#type", "type_3", "parent_2"] := by
  decide +kernel

theorem Field.fieldName_ofAttribute (attr : Attribute) :
    (Field.ofAttribute attr).fieldName = fieldNameOf attr.name := by
  rw [Field.ofAttribute]

section
variable (schema : Schema) (owner : ObjectClass) (package : String) (kind : ArtifactKind)

/-- The fields of a class have the distinct forms of the names that its attributes have by
themselves. -/
theorem fieldNames_ofClass : (ofClass schema owner package kind).objectClass.fieldNames =
    distinctNames (takenNames owner.subclassOf.isSome)
      (owner.attributes.map fun linked => fieldNameOf linked.attr.name) := by
  rw [ofClass, ClassView.fieldNames_withDistinctFields, ClassView.fieldNames, ClassView.fields,
    fieldsOf, fieldsOf, ← List.map_append, List.map_map]
  exact congrArg _ (List.map_congr_left fun linked _ => Field.fieldName_ofAttribute linked.attr)

/-- But for their names, the fields of a class are those of its attributes. -/
theorem unnamed_fields_ofClass :
    (ofClass schema owner package kind).objectClass.fields.map Field.unnamed =
      owner.attributes.map fun linked => (Field.ofAttribute linked.attr).unnamed := by
  have parts (view : ClassView) : view.fields.map Field.unnamed =
      view.unnamed.required ++ view.unnamed.optional := List.map_append
  rw [parts, ofClass, ClassView.unnamed_withDistinctFields, ← parts, ClassView.fields, fieldsOf,
    fieldsOf, ← List.map_append, List.map_map]
  rfl

end

end DirSchema.Model
