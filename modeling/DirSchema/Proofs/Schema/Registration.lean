import DirSchema.Proofs.FirstSeen
import DirSchema.Schema.Basic
set_option autoImplicit false

namespace DirSchema

section InsertAt
variable {α β : Type}

theorem keys_insertAt (key : String) (value : α) (entries : List (String × α)) :
    (insertAt key value entries).map Prod.fst = insertName (entries.map Prod.fst) key := by
  induction entries with
  | nil => rfl
  | cons entry rest ih =>
      by_cases same : entry.1 = key
      · simp [insertAt, insertName, same]
      · have other : key ≠ entry.1 := Ne.symm same
        simp only [insertAt, same, ↓reduceIte, List.map_cons, ih]
        by_cases member : key ∈ rest.map Prod.fst <;> simp_all [insertName]

theorem lookup_cons_ite (name sought : String) (value : α) (rest : List (String × α)) :
    ((name, value) :: rest).lookup sought =
      if sought = name then some value else rest.lookup sought := by
  rw [List.lookup_cons]
  by_cases same : sought = name
  · simp [same]
  · simp [same, beq_eq_false_iff_ne.mpr same]

theorem lookup_insertAt (key sought : String) (value : α) (entries : List (String × α)) :
    (insertAt key value entries).lookup sought =
      if sought = key then some value else entries.lookup sought := by
  induction entries with
  | nil => exact lookup_cons_ite key sought value []
  | cons entry rest ih =>
      obtain ⟨name, stored⟩ := entry
      by_cases here : name = key
      · rw [insertAt, if_pos here, lookup_cons_ite, lookup_cons_ite, here]
        by_cases same : sought = key <;> simp [same]
      · rw [insertAt, if_neg here, lookup_cons_ite, lookup_cons_ite, ih]
        by_cases found : sought = name <;> simp [found, here]

theorem insertAt_of_absent (key : String) (value : α) (entries : List (String × α))
    (absent : entries.lookup key = none) :
    insertAt key value entries = entries ++ [(key, value)] := by
  induction entries with
  | nil => rfl
  | cons entry rest ih =>
      obtain ⟨name, stored⟩ := entry
      rw [lookup_cons_ite] at absent
      by_cases here : key = name
      · simp [here] at absent
      · rw [if_neg here] at absent
        simp [insertAt, Ne.symm here, ih absent]

theorem mem_insertAt {key : String} {value : α} {entries : List (String × α)}
    {entry : String × α} (member : entry ∈ insertAt key value entries) :
    entry = (key, value) ∨ entry ∈ entries := by
  induction entries with
  | nil => simpa [insertAt] using member
  | cons first rest ih =>
      by_cases here : first.1 = key
      · rw [insertAt, if_pos here, List.mem_cons] at member
        exact member.imp id (List.mem_cons_of_mem first)
      · rw [insertAt, if_neg here, List.mem_cons] at member
        rcases member with same | later
        · exact Or.inr (same ▸ List.mem_cons_self)
        · exact (ih later).imp id (List.mem_cons_of_mem first)

theorem map_insertAt (f : α → β) (key : String) (value : α) (entries : List (String × α)) :
    (insertAt key value entries).map (Prod.map id f) =
      insertAt key (f value) (entries.map (Prod.map id f)) := by
  induction entries with
  | nil => rfl
  | cons entry rest ih =>
      obtain ⟨name, stored⟩ := entry
      rw [insertAt, List.map_cons, Prod.map_apply, id, insertAt, ← ih]
      by_cases here : name = key
      · rw [if_pos here, if_pos here, List.map_cons, Prod.map_apply, id]
      · rw [if_neg here, if_neg here, List.map_cons, Prod.map_apply, id]

theorem lookup_map (f : α → β) (key : String) (entries : List (String × α)) :
    (entries.map (Prod.map id f)).lookup key = (entries.lookup key).map f := by
  induction entries with
  | nil => rfl
  | cons entry rest ih =>
      obtain ⟨name, stored⟩ := entry
      rw [List.map_cons, Prod.map_apply, id, lookup_cons_ite, lookup_cons_ite, ih]
      by_cases here : key = name <;> simp [here]

/-- Values registered one after another under keys of their own. -/
def register (key : α → String) (entries : List (String × α)) (values : List α) :
    List (String × α) :=
  values.foldl (fun entries value => insertAt (key value) value entries) entries

theorem register_cons (key : α → String) (entries : List (String × α)) (first : α)
    (rest : List α) :
    register key entries (first :: rest) = register key (insertAt (key first) first entries) rest :=
  rfl

theorem register_concat (key : α → String) (entries : List (String × α)) (values : List α)
    (last : α) :
    register key entries (values ++ [last]) =
      insertAt (key last) last (register key entries values) := List.foldl_append

theorem mem_register {key : α → String} {entries : List (String × α)} {values : List α}
    {entry : String × α} (member : entry ∈ register key entries values) :
    entry.2 ∈ values ∨ entry ∈ entries := by
  induction values generalizing entries with
  | nil => exact Or.inr member
  | cons first rest ih =>
      rcases ih member with later | inserted
      · exact Or.inl (List.mem_cons_of_mem first later)
      · rcases mem_insertAt inserted with rfl | old
        · exact Or.inl List.mem_cons_self
        · exact Or.inr old

theorem keys_register (key : α → String) (values : List α) :
    (register key [] values).map Prod.fst = (values.map key).eraseDups := by
  have step (entries : List (String × α)) :
      (register key entries values).map Prod.fst =
        (values.map key).foldl insertName (entries.map Prod.fst) := by
    induction values generalizing entries with
    | nil => rfl
    | cons value values ih =>
        rw [register_cons, ih, keys_insertAt]
        rfl
  rw [step, List.map_nil, foldl_insertName]

theorem lookup_register (key : α → String) (sought : String) (values : List α) :
    (register key [] values).lookup sought =
      values.reverse.find? fun value => key value == sought := by
  induction values using List.reverseRecOn with
  | nil => rfl
  | append_singleton values value ih =>
      rw [register_concat, lookup_insertAt, ih, List.reverse_append]
      by_cases same : sought = key value
      · simp [same]
      · simp [same, Ne.symm same]

end InsertAt

namespace Declaration

def attr? : Declaration → Option Attribute
  | .attr declared => some declared
  | _ => none

def objectClass? : Declaration → Option ObjectClass
  | .objectClass declared => some declared
  | _ => none

def binding? : Declaration → Option Binding
  | .binding declared => some declared
  | _ => none

end Declaration

namespace Schema

/-- The schema with declarations in their order. -/
def declareEach (schema : Schema) (declarations : List Declaration) : Schema :=
  declarations.foldl declare schema

@[simp] theorem declareEach_nil (schema : Schema) : schema.declareEach [] = schema := rfl

@[simp] theorem declareEach_cons (schema : Schema) (first : Declaration)
    (rest : List Declaration) :
    schema.declareEach (first :: rest) = (schema.declare first).declareEach rest := rfl

theorem declareEach_append (schema : Schema) (first second : List Declaration) :
    schema.declareEach (first ++ second) = (schema.declareEach first).declareEach second :=
  List.foldl_append

/-- Registration of attributes does not look at classes and bindings. -/
theorem foldl_addAttribute (schema : Schema) (attrs : List Attribute) (classes : List ObjectClass)
    (bindings : List (String × Binding)) :
    attrs.foldl addAttribute { schema with objectClasses := classes, bindings := bindings } =
      { attrs.foldl addAttribute schema with objectClasses := classes, bindings := bindings } := by
  induction attrs generalizing schema with
  | nil => rfl
  | cons first rest ih => exact ih (schema.addAttribute first)

/-- Declarations of different kinds commute: only the order within each kind is left. -/
theorem declareEach_eq (schema : Schema) (declarations : List Declaration) :
    schema.declareEach declarations =
      { (declarations.filterMap Declaration.attr?).foldl addAttribute schema with
        objectClasses := schema.objectClasses ++ declarations.filterMap Declaration.objectClass?
        bindings := register Binding.ldapName schema.bindings
          (declarations.filterMap Declaration.binding?) } := by
  induction declarations generalizing schema with
  | nil =>
      rw [declareEach_nil, List.filterMap_nil, List.filterMap_nil, List.append_nil]
      rfl
  | cons first rest ih =>
      rw [declareEach_cons, ih]
      cases first with
      | attr attr => rfl
      | objectClass declared =>
          have attrs := foldl_addAttribute schema (rest.filterMap Declaration.attr?)
            (schema.objectClasses ++ [declared]) schema.bindings
          simp only [declare, addObjectClass, attrs, List.append_assoc, List.singleton_append]
          rfl
      | binding declared =>
          have attrs := foldl_addAttribute schema (rest.filterMap Declaration.attr?)
            schema.objectClasses (insertAt declared.ldapName declared schema.bindings)
          simp only [declare, addBinding, attrs]
          rfl

/-- Every class is kept, in order. -/
theorem objectClasses_declareEach (schema : Schema) (declarations : List Declaration) :
    (schema.declareEach declarations).objectClasses =
      schema.objectClasses ++ declarations.filterMap Declaration.objectClass? := by
  rw [declareEach_eq]

/-- Attributes are registered by their folded names. -/
theorem attributes_declareEach (schema : Schema) (declarations : List Declaration) :
    (schema.declareEach declarations).attributes.map (Prod.map id Instance.attr) =
      register Attribute.key (schema.attributes.map (Prod.map id Instance.attr))
        (declarations.filterMap Declaration.attr?) := by
  induction declarations generalizing schema with
  | nil => rfl
  | cons first rest ih =>
      rw [declareEach_cons, ih]
      cases first with
      | attr attr =>
          have found : Declaration.attr? (.attr attr) = some attr := rfl
          rw [List.filterMap_cons_some found, register_cons]
          simp only [declare, addAttribute, map_insertAt, nextInstance]
      | objectClass objectClass => rfl
      | binding binding => rfl

/-- Bindings are registered by the names of their classes. -/
theorem bindings_declareEach (schema : Schema) (declarations : List Declaration) :
    (schema.declareEach declarations).bindings =
      register Binding.ldapName schema.bindings
        (declarations.filterMap Declaration.binding?) := by
  rw [declareEach_eq]

/-- What registration keeps: an attribute stands under its own key, no key stands twice, and no
two registrations share a serial. -/
structure Sound (schema : Schema) : Prop where
  keyed : ∀ entry ∈ schema.attributes, entry.1 = entry.2.attr.key
  keys : (schema.attributes.map Prod.fst).Nodup
  numbered : ∀ entry ∈ schema.attributes, entry.2.serial < schema.serials
  serials : (schema.attributes.map fun entry => entry.2.serial).Nodup

theorem sound_empty : Sound {} := by
  constructor <;> simp

private theorem serials_insertAt {entries : List (String × Instance)} {bound : Nat}
    (nodup : (entries.map fun entry => entry.2.serial).Nodup)
    (below : ∀ entry ∈ entries, entry.2.serial < bound) (key : String) (attr : Attribute) :
    ((insertAt key ⟨bound, attr⟩ entries).map fun entry => entry.2.serial).Nodup := by
  induction entries with
  | nil => simp [insertAt]
  | cons first rest ih =>
      rw [List.map_cons, List.nodup_cons] at nodup
      have belowRest : ∀ entry ∈ rest, entry.2.serial < bound :=
        fun entry member => below entry (List.mem_cons_of_mem first member)
      by_cases here : first.1 = key
      · rw [insertAt, if_pos here, List.map_cons, List.nodup_cons]
        refine ⟨?_, nodup.2⟩
        intro member
        obtain ⟨entry, inRest, same⟩ := List.mem_map.mp member
        have := belowRest entry inRest
        simp only at same
        omega
      · rw [insertAt, if_neg here, List.map_cons, List.nodup_cons]
        refine ⟨?_, ih nodup.2 belowRest⟩
        intro member
        obtain ⟨entry, inserted, same⟩ := List.mem_map.mp member
        rcases mem_insertAt inserted with new | old
        · have := below first List.mem_cons_self
          subst new
          simp only at same
          omega
        · exact nodup.1 (List.mem_map.mpr ⟨entry, old, same⟩)

theorem Sound.addAttribute {schema : Schema} (sound : schema.Sound) (attr : Attribute) :
    (schema.addAttribute attr).Sound where
  keyed := by
    intro entry member
    rcases mem_insertAt member with rfl | old
    · rfl
    · exact sound.keyed entry old
  keys := by
    rw [Schema.addAttribute, keys_insertAt]
    exact nodup_insertName sound.keys attr.key
  numbered := by
    intro entry member
    rcases mem_insertAt member with rfl | old
    · exact Nat.lt_succ_self schema.serials
    · exact Nat.lt_succ_of_lt (sound.numbered entry old)
  serials := serials_insertAt sound.serials sound.numbered attr.key attr

theorem Sound.declare {schema : Schema} (sound : schema.Sound) (declaration : Declaration) :
    (schema.declare declaration).Sound := by
  cases declaration with
  | attr attr => exact sound.addAttribute attr
  | objectClass objectClass => exact ⟨sound.keyed, sound.keys, sound.numbered, sound.serials⟩
  | binding binding => exact ⟨sound.keyed, sound.keys, sound.numbered, sound.serials⟩

theorem Sound.declareEach {schema : Schema} (sound : schema.Sound)
    (declarations : List Declaration) : (schema.declareEach declarations).Sound := by
  induction declarations generalizing schema with
  | nil => exact sound
  | cons first rest ih => exact ih (sound.declare first)

end Schema
end DirSchema
