import DirSchema.Proofs.Decoder.Canonical.Lines
set_option autoImplicit false

namespace DirSchema.Decoder.Canonical

open DirSchema.Source (Line IsLine)

/-- Lines of an open block that take its draft to another and give no cause to report. -/
def Reads (draft : Draft) (texts : List (List Char)) (result : Draft) : Prop :=
  ∀ (origin : Coord) (lines : List Line), lines.map (·.text) = texts →
    (State.reading origin draft).steps lines = (.reading origin result, [])

theorem Reads.nil (draft : Draft) : Reads draft [] draft := by
  intro origin lines same
  rw [List.map_eq_nil_iff.mp same, State.steps_nil]

theorem Reads.append {draft middle result : Draft} {first second : List (List Char)}
    (readsFirst : Reads draft first middle) (readsSecond : Reads middle second result) :
    Reads draft (first ++ second) result := by
  intro origin lines same
  obtain ⟨front, back, rfl, sameFront, sameBack⟩ := List.map_eq_append_iff.mp same
  rw [State.steps_append, readsFirst origin front sameFront, readsSecond origin back sameBack]
  rfl

theorem Reads.line {draft result : Draft} {text : List Char} (entry : IsEntry text)
    (read : ∀ coord, draft.read { text, coord } = (result, [])) : Reads draft [text] result := by
  intro origin lines same
  obtain ⟨line, rfl, rfl⟩ := List.map_eq_singleton_iff.mp same
  rw [State.steps_cons, step_entry origin draft line entry, read line.coord]
  rfl

private theorem ofLine_assignment {key value : String} (validKey : IsKey key)
    (valid : IsValue value) :
    Entry.ofLine (assignment key value) = { key := key.toList, value := value.toList } :=
  Entry.ofLine_assignment key.toList [' '] [' '] value.toList validKey.1.isKeyword (by decide)
    (by decide) valid.trimmed.start

private theorem ofLine_listing {key : String} {listed : List String} (validKey : IsKey key)
    (nonempty : listed ≠ []) (valid : ∀ name ∈ listed, IsName name) :
    Entry.ofLine (listing key listed) =
      { key := key.toList
        value := List.intercalate [',', ' '] (listed.map String.toList) } := by
  have list := isList_intercalate listed nonempty valid
  exact Entry.ofLine_keyword key.toList [' '] _ validKey.1.isKeyword (by decide) (by decide)
    list.noEquals list.trimmed.start

theorem Reads.assignment {draft result : Draft} {key value : String} (validKey : IsKey key)
    (valid : IsValue value)
    (read : ∀ line : Line, Entry.ofLine line.text = { key := key.toList, value := value.toList } →
      draft.read line = (result, [])) :
    Reads draft [assignment key value] result :=
  Reads.line (validKey.isEntry _ (by simp; decide))
    fun coord => read { text := _, coord } (ofLine_assignment validKey valid)

/-- A field that is absent has no line and leaves the draft as it is. -/
theorem Reads.optional {draft result : Draft} {key : String} {value : Option String}
    (validKey : IsKey key) (valid : ∀ text ∈ value, IsValue text)
    (absent : value = none → result = draft)
    (present : ∀ text, value = some text → ∀ line : Line,
      Entry.ofLine line.text = { key := key.toList, value := text.toList } →
        draft.read line = (result, [])) :
    Reads draft (Canonical.optional key value) result := by
  cases value with
  | none =>
      rw [absent rfl]
      exact Reads.nil draft
  | some text => exact Reads.assignment validKey (valid text rfl) (present text rfl)

/-- The same of a list without names. -/
theorem Reads.names {draft result : Draft} {key : String} {listed : List String}
    (validKey : IsKey key) (valid : ∀ name ∈ listed, IsName name)
    (absent : listed = [] → result = draft)
    (present : listed ≠ [] → ∀ line : Line,
      Entry.ofLine line.text =
          { key := key.toList
            value := List.intercalate [',', ' '] (listed.map String.toList) } →
        draft.read line = (result, [])) :
    Reads draft (Canonical.names key listed) result := by
  cases listed with
  | nil =>
      rw [absent rfl]
      exact Reads.nil draft
  | cons first rest =>
      have nonempty : first :: rest ≠ [] := List.cons_ne_nil first rest
      exact Reads.line (validKey.isEntry _ (by simp; decide))
        fun coord => present nonempty { text := _, coord } (ofLine_listing validKey nonempty valid)

private theorem ofText_names {listed : List String} (nonempty : listed ≠ [])
    (valid : ∀ name ∈ listed, IsName name) :
    NameLine.ofText (List.intercalate [',', ' '] (listed.map String.toList)) =
      { names := listed, continues := false } := by
  have list := isList_intercalate listed nonempty valid
  have last (c : Char) (ends : c ∈ (List.intercalate [',', ' ']
      (listed.map String.toList)).getLast?) := isNameChar_ne (list.last c ends)
  have noSemicolon := Text.dropEndWhile_eq_self (· == ';') _
    (fun c ends => by simpa using (last c ends).2.2.1)
  have read := namesOf_intercalate listed fun name member => (valid name member).isListed
  have ends (mark : Char) (other : mark = ';' ∨ mark = ',') :
      Text.endsWith mark (List.intercalate [',', ' '] (listed.map String.toList)) = false := by
    rw [Text.endsWith, beq_eq_false_iff_ne]
    intro same
    have ne := last mark same
    rcases other with rfl | rfl
    · exact ne.2.2.1 rfl
    · exact ne.2.1 rfl
  rw [NameLine.ofText, noSemicolon, Text.trimEnd_eq_self _ list.trimmed.stop, read,
    ends ',' (Or.inr rfl)]
  simp [list.nonempty]

private theorem ofName?_name (known : ValueSyntax) (declarable : known ≠ .unspecified) :
    ValueSyntax.ofName? known.name = some known := by
  cases known
  case unspecified => exact absurd rfl declarable
  all_goals decide

namespace AttributeBlock

def draft (block : AttributeBlock) : AttributeDraft :=
  { name := some block.name
    alternateNames := block.alternateNames
    valueSyntax := block.valueSyntax
    multiValued := block.multiValued }

private theorem isLine_flag (said : Option Bool) : ∀ text ∈ flag said, IsLine text := by
  have word (word : String) (key : IsKey word) : IsLine word.toList :=
    ⟨key.1.1, key.1.isValue.trimmed, key.1.isValue.2.2.1⟩
  intro text member
  cases said with
  | none => cases member
  | some multi =>
      cases multi with
      | true =>
          rw [List.mem_singleton.mp member]
          exact word "multi-valued" (by decide)
      | false =>
          rw [List.mem_singleton.mp member]
          exact word "single-valued" (by decide)

private theorem reads_flag (draft : AttributeDraft) (said : Option Bool)
    (unsaid : draft.multiValued = none) :
    Reads (.attr draft) (flag said) (.attr { draft with multiValued := said }) := by
  have word (word : String) (key : IsKey word) : IsEntry word.toList := by
    simpa using key.isEntry [] (by simp)
  cases said with
  | none =>
      have same : { draft with multiValued := none } = draft := by rw [← unsaid]
      rw [same]
      exact Reads.nil _
  | some multi =>
      cases multi with
      | true =>
          have key : IsKey "multi-valued" := by decide
          apply Reads.line (word "multi-valued" key)
          intro coord
          have entry := Entry.ofLine_word "multi-valued".toList key.1.isKeyword
          simp only [Draft.read, AttributeDraft.read, entry, String.ofList_toList]
          rfl
      | false =>
          have key : IsKey "single-valued" := by decide
          apply Reads.line (word "single-valued" key)
          intro coord
          have entry := Entry.ofLine_word "single-valued".toList key.1.isKeyword
          simp only [Draft.read, AttributeDraft.read, entry, String.ofList_toList]
          rfl

theorem isLine_body (block : AttributeBlock) (valid : block.WellFormed) :
    ∀ text ∈ block.body, IsLine text := by
  intro text member
  simp only [body, List.mem_append] at member
  rcases member with ((name | alternateNames) | valueSyntax) | multiValued
  · rw [List.mem_singleton.mp name]
    exact isLine_assignment (by decide) valid.1.isValue
  · exact isLine_optional (by decide) valid.2 text alternateNames
  · split at valueSyntax
    · cases valueSyntax
    · rw [List.mem_singleton.mp valueSyntax]
      have value : IsValue block.valueSyntax.name := by
        cases block.valueSyntax <;> decide
      exact isLine_assignment (by decide) value
  · exact isLine_flag block.multiValued text multiValued

theorem reads_body (block : AttributeBlock) (valid : block.WellFormed) :
    Reads (.attr {}) block.body (.attr block.draft) := by
  have name : Reads (.attr {}) [assignment "name" block.name]
      (.attr { name := some block.name }) := by
    apply Reads.assignment (by decide) valid.1.isValue
    intro line entry
    simp only [Draft.read, AttributeDraft.read, entry, String.ofList_toList,
      valid.1.isValue.value?]
  have alternateNames : Reads (.attr { name := some block.name })
      (Canonical.optional "ldap-names" block.alternateNames)
      (.attr { name := some block.name, alternateNames := block.alternateNames }) := by
    apply Reads.optional (by decide) valid.2
    · intro absent
      rw [absent]
    · intro text present line entry
      have value := valid.2 text present
      simp only [Draft.read, AttributeDraft.read, entry, String.ofList_toList, value.value?,
        present]
  have valueSyntax :
      Reads (.attr { name := some block.name, alternateNames := block.alternateNames })
        (if block.valueSyntax = .unspecified then []
          else [assignment "syntax" block.valueSyntax.name])
        (.attr { block.draft with multiValued := none }) := by
    split
    · rename_i unspecified
      simpa only [draft, unspecified] using Reads.nil _
    · rename_i specified
      have value : IsValue block.valueSyntax.name := by
        cases block.valueSyntax <;> decide
      apply Reads.assignment (by decide) value
      intro line entry
      have kept := stripTerminators_eq_self _ value.2.2.2 value.trimmed.stop
      simp only [Draft.read, AttributeDraft.read, entry, kept, String.ofList_toList,
        ofName?_name block.valueSyntax specified, draft]
  have multiValued : Reads (.attr { block.draft with multiValued := none })
      (flag block.multiValued) (.attr block.draft) :=
    reads_flag _ block.multiValued rfl
  exact ((name.append alternateNames).append valueSyntax).append multiValued

end AttributeBlock

namespace ClassBlock

def draft (block : ClassBlock) : ClassDraft :=
  { name := some block.name
    alternateNames := block.alternateNames
    subclassOf := block.subclassOf
    kind := block.kind
    required := block.required
    optional := block.optional }

theorem isLine_body (block : ClassBlock) (valid : block.WellFormed) :
    ∀ text ∈ block.body, IsLine text := by
  obtain ⟨validName, validAlternates, validParent, validKind, validRequired, validOptional⟩ := valid
  intro text member
  simp only [body, List.mem_append] at member
  rcases member with ((((name | alternateNames) | parent) | kind) | required) | optional
  · rw [List.mem_singleton.mp name]
    exact isLine_assignment (by decide) validName.isValue
  · exact isLine_optional (by decide) validAlternates text alternateNames
  · exact isLine_optional (by decide) (fun name known => (validParent name known).isValue) text
      parent
  · exact isLine_optional (by decide) validKind text kind
  · exact isLine_names (by decide) validRequired text required
  · exact isLine_names (by decide) validOptional text optional

/-- A reference names one parent. -/
theorem readParents_name (draft : ClassDraft) (place : Coord) {parent : String}
    (valid : IsName parent) (first : draft.subclassOf = none) :
    draft.readParents place (namesOf (stripTerminators parent.toList)) =
      ({ draft with subclassOf := some parent }, []) := by
  have single : namesOf parent.toList = [parent] := by
    simpa using namesOf_name parent [] valid.isListed nofun
  rw [stripTerminators_keyword valid.isKeyword, single]
  simp only [ClassDraft.readParents, first]

private theorem readNames_listing (draft : ClassDraft) (list : NameList) {listed : List String}
    (nonempty : listed ≠ []) (valid : ∀ name ∈ listed, IsName name) :
    draft.readNames list (List.intercalate [',', ' '] (listed.map String.toList)) =
      match list with
      | .required => { draft with required := draft.required ++ listed, pending := none }
      | .optional => { draft with optional := draft.optional ++ listed, pending := none } := by
  cases list <;> simp [ClassDraft.readNames, ofText_names nonempty valid]

theorem reads_body (block : ClassBlock) (valid : block.WellFormed) :
    Reads (.objectClass {}) block.body (.objectClass block.draft) := by
  obtain ⟨validName, validAlternates, validParent, validKind, validRequired, validOptional⟩ := valid
  have name : Reads (.objectClass {}) [assignment "name" block.name]
      (.objectClass { name := some block.name }) := by
    apply Reads.assignment (by decide) validName.isValue
    intro line entry
    simp only [Draft.read, ClassDraft.read, entry, String.ofList_toList, validName.isValue.value?]
  have alternateNames : Reads (.objectClass { name := some block.name })
      (Canonical.optional "ldap-names" block.alternateNames)
      (.objectClass { name := some block.name, alternateNames := block.alternateNames }) := by
    apply Reads.optional (by decide) validAlternates
    · intro absent
      rw [absent]
    · intro text present line entry
      have value := validAlternates text present
      simp only [Draft.read, ClassDraft.read, entry, String.ofList_toList, value.value?, present]
  have parent : Reads
      (.objectClass { name := some block.name, alternateNames := block.alternateNames })
      (Canonical.optional "subclass-of" block.subclassOf)
      (.objectClass { block.draft with kind := none, required := [], optional := [] }) := by
    apply Reads.optional (by decide) fun text present => (validParent text present).isValue
    · intro absent
      simp only [draft, absent]
    · intro text present line entry
      have reference := validParent text present
      simp only [Draft.read, ClassDraft.read, entry, String.ofList_toList,
        readParents_name _ line.coord reference, draft, present]
  have kind : Reads
      (.objectClass { block.draft with kind := none, required := [], optional := [] })
      (Canonical.optional "kind" block.kind)
      (.objectClass { block.draft with required := [], optional := [] }) := by
    apply Reads.optional (by decide) validKind
    · intro absent
      simp only [draft, absent]
    · intro text present line entry
      have value := validKind text present
      simp only [Draft.read, ClassDraft.read, entry, String.ofList_toList, value.value?, draft,
        present]
  have required : Reads (.objectClass { block.draft with required := [], optional := [] })
      (Canonical.names "must-contain" block.required)
      (.objectClass { block.draft with optional := [] }) := by
    apply Reads.names (by decide) validRequired
    · intro absent
      simp only [draft, absent]
    · intro present line entry
      simp only [Draft.read, ClassDraft.read, entry, String.ofList_toList,
        readNames_listing _ .required present validRequired, draft, List.nil_append]
  have optional : Reads (.objectClass { block.draft with optional := [] })
      (Canonical.names "may-contain" block.optional) (.objectClass block.draft) := by
    apply Reads.names (by decide) validOptional
    · intro absent
      simp only [draft, absent]
    · intro present line entry
      simp only [Draft.read, ClassDraft.read, entry, String.ofList_toList,
        readNames_listing _ .optional present validOptional, draft, List.nil_append]
  exact ((((name.append alternateNames).append parent).append kind).append required).append
    optional

end ClassBlock

namespace BindingBlock

def draft (block : BindingBlock) : BindingDraft :=
  { name := block.name
    ldapName := some block.ldapName
    allowableParent := some block.allowableParent
    namedBy := some block.namedBy }

theorem isLine_body (block : BindingBlock) (valid : block.WellFormed) :
    ∀ text ∈ block.body, IsLine text := by
  obtain ⟨validName, validClass, validParent, validAttribute⟩ := valid
  intro text member
  simp only [body, List.mem_append, List.mem_cons, List.not_mem_nil, or_false] at member
  rcases member with name | rfl | rfl | rfl
  · exact isLine_optional (by decide) (fun name known => (validName name known).isValue) text name
  · exact isLine_assignment (by decide) validClass.isValue
  · exact isLine_assignment (by decide) validParent.isValue
  · exact isLine_assignment (by decide) validAttribute.isValue

theorem reads_body (block : BindingBlock) (valid : block.WellFormed) :
    Reads (.binding block.kind {}) block.body (.binding block.kind block.draft) := by
  obtain ⟨validName, validClass, validParent, validAttribute⟩ := valid
  have name : Reads (.binding block.kind {}) (Canonical.optional "name" block.name)
      (.binding block.kind { name := block.name }) := by
    apply Reads.optional (by decide) fun text present => (validName text present).isValue
    · intro absent
      rw [absent]
    · intro text present line entry
      have value := (validName text present).isValue
      simp only [Draft.read, BindingDraft.read, entry, String.ofList_toList, value.value?, present]
  have ldapName : Reads (.binding block.kind { name := block.name })
      [assignment "ldap-name" block.ldapName]
      (.binding block.kind { name := block.name, ldapName := some block.ldapName }) := by
    apply Reads.assignment (by decide) validClass.isValue
    intro line entry
    simp only [Draft.read, BindingDraft.read, entry, String.ofList_toList,
      validClass.isValue.value?]
  have allowableParent :
      Reads (.binding block.kind { name := block.name, ldapName := some block.ldapName })
        [assignment "allowable-parent" block.allowableParent]
        (.binding block.kind { block.draft with namedBy := none }) := by
    apply Reads.assignment (by decide) validParent.isValue
    intro line entry
    simp only [Draft.read, BindingDraft.read, entry, String.ofList_toList,
      validParent.isValue.value?, draft]
  have namedBy : Reads (.binding block.kind { block.draft with namedBy := none })
      [assignment "named-by" block.namedBy] (.binding block.kind block.draft) := by
    apply Reads.assignment (by decide) validAttribute.isValue
    intro line entry
    simp only [Draft.read, BindingDraft.read, entry, String.ofList_toList,
      validAttribute.isValue.value?, draft]
  exact name.append (ldapName.append (allowableParent.append namedBy))

end BindingBlock

end DirSchema.Decoder.Canonical
