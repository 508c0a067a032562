import DirSchema.FileTree.Basic
import DirSchema.Proofs.Text.Cutting
set_option autoImplicit false

namespace DirSchema.Path

open DirSchema.Text

/-- The names of the text of a path, `..` included. -/
def names (cs : List Char) : List String :=
  ((fields (· == '/') cs).filterMap fun piece =>
    if piece = [] then none else some (String.ofList piece)).filter (· ≠ ".")

structure IsName (name : List Char) : Prop where
  nonempty : name ≠ []
  single : '/' ∉ name
  visible : name ≠ ['.']

instance (name : List Char) : Decidable (IsName name) :=
  decidable_of_iff (name ≠ [] ∧ '/' ∉ name ∧ name ≠ ['.'])
    ⟨fun ⟨nonempty, single, visible⟩ => ⟨nonempty, single, visible⟩,
      fun isName => ⟨isName.nonempty, isName.single, isName.visible⟩⟩

/-- A text that a name can follow. -/
def Opens (front : List Char) : Prop := front = [] ∨ front.getLast? = some '/'

instance (front : List Char) : Decidable (Opens front) :=
  inferInstanceAs (Decidable (_ ∨ _))

/-- A text that ends in a name. -/
structure Ends (front name : List Char) (path : String) : Prop where
  text : path.toList = front ++ name
  opens : Opens front
  isName : IsName name

/-- A path that is written without separators and dots at its end. -/
def Tidy (path : String) : Prop := trimmed path.toList = path.toList ∨ path = "/"

variable {front back name cs : List Char} {path directory : String}

section Names

theorem Opens.cases (opens : Opens front) : front = [] ∨ ∃ before, front = before ++ ['/'] := by
  rcases opens with rfl | last
  · exact .inl rfl
  · exact .inr (List.getLast?_eq_some_iff.mp last)

theorem names_append (front back : List Char) :
    names (front ++ '/' :: back) = names front ++ names back := by
  rw [names, fields_append _ _ _ _ (by decide), List.filterMap_append, List.filter_append]
  rfl

theorem names_snoc (front : List Char) : names (front ++ ['/']) = names front := by
  rw [names_append, show names [] = [] from rfl, List.append_nil]

theorem fields_of_single (single : '/' ∉ name) : fields (· == '/') name = [name] := by
  apply fields_eq_singleton
  intro c member
  rw [beq_eq_false_iff_ne]
  rintro rfl
  exact single member

theorem IsName.names_eq (isName : IsName name) : names name = [String.ofList name] := by
  have shown : String.ofList name ≠ "." := by
    intro same
    exact isName.visible (by simpa using congrArg String.toList same)
  simp [names, fields_of_single isName.single, isName.nonempty, shown]

theorem Ends.names_eq (ends : Ends front name path) :
    names path.toList = names front ++ [String.ofList name] := by
  rw [ends.text]
  obtain rfl | ⟨before, rfl⟩ := ends.opens.cases
  · exact ends.isName.names_eq
  · rw [List.append_assoc, List.singleton_append, names_append, names_snoc, ends.isName.names_eq]

end Names

section Trimmed

theorem names_trimmed (cs : List Char) : names (trimmed cs) = names cs := by
  have reversed (cs : List Char) : names (trimmed.go cs) = names cs.reverse := by
    fun_induction trimmed.go cs with
    | case1 rest ih => rw [ih, List.reverse_cons, names_snoc]
    | case2 rest ih =>
        rw [ih, List.reverse_cons, List.reverse_cons, List.append_assoc, List.singleton_append,
          names_append, show names ['.'] = [] from rfl, List.append_nil]
    | case3 cs => rfl
  rw [trimmed, reversed, List.reverse_reverse]

theorem trimmed_isPrefix (cs : List Char) : (trimmed cs).IsPrefix cs := by
  have reversed (cs : List Char) : (trimmed.go cs).IsPrefix cs.reverse := by
    fun_induction trimmed.go cs with
    | case1 rest ih => exact ih.trans (by simp)
    | case2 rest ih => exact ih.trans (by simp)
    | case3 cs => exact List.prefix_rfl
  simpa [trimmed] using reversed cs.reverse

theorem trimmed_trimmed (cs : List Char) : trimmed (trimmed cs) = trimmed cs := by
  have reversed (cs : List Char) : trimmed (trimmed.go cs) = trimmed.go cs := by
    fun_induction trimmed.go cs with
    | case1 rest ih => exact ih
    | case2 rest ih => exact ih
    | case3 cs separator dot =>
        rw [trimmed, List.reverse_reverse, trimmed.go.eq_3 cs separator dot]
  exact reversed cs.reverse

theorem trimmed_snoc (front : List Char) : trimmed (front ++ ['/']) = trimmed front := by
  rw [trimmed, List.reverse_append]
  rfl

/-- A text that ends in a name is written without separators and dots at its end. -/
theorem trimmed_eq_self (isName : IsName name) :
    trimmed (front ++ name) = front ++ name := by
  have inside : ∀ c ∈ name.reverse, c ≠ '/' := by
    intro c member separator
    exact isName.single (separator ▸ List.mem_reverse.mp member)
  rw [trimmed, trimmed.go.eq_3, List.reverse_reverse]
  all_goals
    intro rest reversed
    rw [List.reverse_append] at reversed
    obtain ⟨last, others, named⟩ := List.exists_cons_of_ne_nil
      (List.reverse_ne_nil_iff.mpr isName.nonempty)
    rw [named] at inside reversed
  · rw [List.cons_append, List.cons.injEq] at reversed
    exact inside last (by simp) reversed.1
  · rw [List.cons_append, List.cons.injEq] at reversed
    cases others with
    | nil => exact isName.visible (by rw [List.reverse_eq_iff.mp named, reversed.1]; rfl)
    | cons next others =>
        rw [List.cons_append, List.cons.injEq] at reversed
        exact inside next (by simp) reversed.2.1

private theorem trimmed_dot (front : List Char) :
    trimmed (front ++ ['/'] ++ ['.']) = trimmed front := by
  rw [trimmed, List.reverse_append, List.reverse_append]
  rfl

/-- Every text ends in something without separators, which may be nothing. -/
theorem exists_opens (cs : List Char) :
    ∃ front name, cs = front ++ name ∧ Opens front ∧ '/' ∉ name := by
  induction cs with
  | nil => exact ⟨[], [], rfl, .inl rfl, List.not_mem_nil⟩
  | cons c cs ih =>
      obtain ⟨front, name, rfl, opens, single⟩ := ih
      rcases opens with rfl | last
      · by_cases separator : c = '/'
        · exact ⟨['/'], name, by rw [separator]; rfl, .inr rfl, single⟩
        · refine ⟨[], c :: name, rfl, .inl rfl, ?_⟩
          rw [List.mem_cons, not_or]
          exact ⟨Ne.symm separator, single⟩
      · refine ⟨c :: front, name, rfl, .inr ?_, single⟩
        rw [List.getLast?_cons, last]
        rfl

/-- A tidy path names nothing, or ends in a name. -/
theorem Tidy.cases (tidy : Tidy path) :
    path = "" ∨ path = "." ∨ path = "/" ∨ ∃ front name, Ends front name path := by
  rcases tidy with kept | rfl
  swap
  · exact .inr (.inr (.inl rfl))
  have longest (cs : List Char) : (trimmed cs).length ≤ cs.length :=
    (trimmed_isPrefix cs).length_le
  obtain ⟨front, name, text, opens, single⟩ := exists_opens path.toList
  by_cases empty : name = []
  · subst empty
    rw [List.append_nil] at text
    obtain rfl | ⟨before, rfl⟩ := opens.cases
    · exact .inl (String.toList_eq_nil_iff.mp text)
    · have shorter := longest before
      rw [text, trimmed_snoc] at kept
      rw [kept, List.length_append, List.length_singleton] at shorter
      omega
  by_cases dot : name = ['.']
  · subst dot
    obtain rfl | ⟨before, rfl⟩ := opens.cases
    · exact .inr (.inl (String.toList_injective text))
    · have shorter := longest before
      rw [text, trimmed_dot] at kept
      rw [kept, List.length_append, List.length_append, List.length_singleton] at shorter
      omega
  exact .inr (.inr (.inr ⟨front, name, text, opens, empty, single, dot⟩))

end Trimmed

section Parent

theorem isAbsolute_eq (path : String) : isAbsolute path = (path.toList.head? == some '/') := by
  rw [isAbsolute]
  split
  · rename_i rest text
    rw [text]
    rfl
  · rename_i other
    symm
    rw [beq_eq_false_iff_ne]
    intro head
    obtain ⟨rest, text⟩ := List.head?_eq_some_iff.mp head
    exact other rest text

theorem dropEndWhile_name (opens : Opens front) (single : '/' ∉ name) :
    dropEndWhile (· != '/') (front ++ name) = front := by
  rw [dropEndWhile_eq_rdropWhile]
  induction name using List.reverseRecOn with
  | nil =>
      rw [List.append_nil, List.rdropWhile_eq_self_iff]
      intro nonempty
      rcases opens with rfl | last
      · contradiction
      · rw [List.getLast?_eq_some_getLast nonempty, Option.some.injEq] at last
        simp [last]
  | append_singleton name c ih =>
      rw [List.mem_append, not_or, List.mem_singleton] at single
      rw [← List.append_assoc, List.rdropWhile_concat_pos]
      · exact ih single.1
      · exact bne_iff_ne.mpr (Ne.symm single.2)

theorem Ends.isEmpty_eq (ends : Ends front name path) : path.isEmpty = false := by
  by_contra empty
  rw [Bool.not_eq_false, String.isEmpty_iff] at empty
  have text := ends.text
  rw [empty] at text
  exact ends.isName.nonempty (List.append_eq_nil_iff.mp text.symm).2

theorem Ends.isAbsolute_front (ends : Ends front name path) :
    isAbsolute path = (front.head? == some '/') := by
  rw [isAbsolute_eq, ends.text]
  cases front with
  | cons c rest => rfl
  | nil =>
      rw [List.nil_append, List.head?_nil, show (none == some '/') = false from rfl,
        beq_eq_false_iff_ne]
      intro head
      exact ends.isName.single (List.mem_of_head? head)

private theorem Ends.getLast?_components (ends : Ends front name path) :
    ∃ last, (components path).getLast? = some last ∧ last ≠ .root := by
  obtain ⟨last, piece, inner⟩ : ∃ last, Component.ofPiece? name = some last ∧ last ≠ .root := by
    rw [Component.ofPiece?]
    by_cases up : name = ['.', '.']
    · exact ⟨.up, by simp [up], by simp⟩
    · exact ⟨.normal (String.ofList name), by simp [up, ends.isName.nonempty, ends.isName.visible],
        by simp⟩
  refine ⟨last, ?_, inner⟩
  obtain ⟨before, cut⟩ : ∃ before, fields (· == '/') path.toList = before ++ [name] := by
    rw [ends.text, ← fields_of_single ends.isName.single]
    obtain rfl | ⟨before, rfl⟩ := ends.opens.cases
    · exact ⟨[], rfl⟩
    · refine ⟨fields (· == '/') before, ?_⟩
      rw [List.append_assoc, List.singleton_append, fields_append _ _ _ _ (by decide)]
  rw [components, cut, List.filterMap_append, List.filterMap_cons, piece]
  simp

/-- What is known of the path of the directory that a path names an entry of. -/
structure Parent (front : List Char) (path directory : String) : Prop where
  tidy : Tidy directory
  names : names directory.toList = names front
  absolute : isAbsolute directory = isAbsolute path
  isPrefix : directory.toList.IsPrefix path.toList
  shorter : directory.length < path.length

theorem Ends.parent?_eq (ends : Ends front name path) :
    parent? path = some (if trimmed front = [] then if isAbsolute path then "/" else ""
      else String.ofList (trimmed front)) := by
  obtain ⟨last, found, inner⟩ := ends.getLast?_components
  have cut : trimmed (dropEndWhile (· != '/') (trimmed path.toList)) = trimmed front := by
    rw [ends.text, trimmed_eq_self ends.isName, dropEndWhile_name ends.opens ends.isName.single]
  rw [parent?, found, cut]
  cases text : trimmed front with
  | nil => cases last <;> simp_all
  | cons c rest => cases last <;> simp_all

theorem Ends.exists_parent (ends : Ends front name path) :
    ∃ directory, parent? path = some directory ∧ Parent front path directory := by
  have inFront := trimmed_isPrefix front
  have inPath : (trimmed front).IsPrefix path.toList := by
    rw [ends.text]
    exact inFront.trans (List.prefix_append front name)
  have shorter : (trimmed front).length < path.length := by
    have named := List.length_pos_iff.mpr ends.isName.nonempty
    have bound := inFront.length_le
    rw [← String.length_toList, ends.text, List.length_append]
    omega
  have above := names_trimmed front
  refine ⟨_, ends.parent?_eq, ?_⟩
  by_cases nothing : trimmed front = []
  · rw [if_pos nothing]
    rw [nothing] at above
    by_cases absolute : isAbsolute path = true
    · have head : path.toList.head? = some '/' := by rwa [isAbsolute_eq, beq_iff_eq] at absolute
      obtain ⟨rest, text⟩ := List.head?_eq_some_iff.mp head
      rw [if_pos absolute]
      refine ⟨.inr rfl, above, absolute.symm, ?_, ?_⟩
      · exact ⟨rest, text.symm⟩
      · rw [← String.length_toList (s := path), text]
        cases rest with
        | cons c rest => simp [show "/".length = 1 from rfl]
        | nil =>
            have alone : names path.toList = [] := by rw [text]; rfl
            rw [ends.names_eq] at alone
            simp at alone
    · rw [if_neg absolute]
      refine ⟨.inl rfl, above, ?_, List.nil_prefix, ?_⟩
      · rw [Bool.not_eq_true] at absolute
        rw [absolute]
        rfl
      · rw [nothing] at shorter
        exact shorter
  · rw [if_neg nothing]
    refine ⟨.inl ?_, ?_, ?_, ?_, ?_⟩
    · rw [String.toList_ofList, trimmed_trimmed]
    · rw [String.toList_ofList, above]
    · obtain ⟨rest, text⟩ := inPath
      rw [isAbsolute_eq, isAbsolute_eq, ← text, String.toList_ofList,
        List.head?_append_of_ne_nil _ nothing]
    · rwa [String.toList_ofList]
    · rwa [← String.length_toList, String.toList_ofList]

theorem ofPiece?_name {entry : String} (isName : IsName entry.toList) (inner : entry ≠ "..") :
    Component.ofPiece? entry.toList = some (.normal entry) := by
  have up : entry.toList ≠ ['.', '.'] := fun same => inner (String.toList_injective same)
  simp [Component.ofPiece?, isName.nonempty, isName.visible, up]

theorem IsName.isAbsolute_eq {entry : String} (isName : IsName entry.toList) :
    isAbsolute entry = false := by
  rw [Path.isAbsolute_eq, beq_eq_false_iff_ne]
  intro head
  exact isName.single (List.mem_of_head? head)

private theorem fileName?_name {entry : String} (isName : IsName entry.toList)
    (inner : entry ≠ "..") :
    fileName? entry = some entry := by
  have visible : [entry.toList].head? ≠ some ['.'] := by simpa using isName.visible
  rw [fileName?, components, isName.isAbsolute_eq, fields_of_single isName.single, if_neg visible,
    List.filterMap_cons, ofPiece?_name isName inner]
  rfl

/-- A path that ends in the name of an entry has one component more than that of the directory. -/
theorem components_entry {entry : String} (nonempty : directory ≠ "")
    (isName : IsName entry.toList) (inner : entry ≠ "..") :
    components (directory ++ "/" ++ entry) = components directory ++ [.normal entry] := by
  have text : (directory ++ "/" ++ entry).toList = directory.toList ++ '/' :: entry.toList := by
    rw [String.toList_append, String.toList_append, List.append_assoc]
    rfl
  have chars : directory.toList ≠ [] := fun none => nonempty (String.toList_eq_nil_iff.mp none)
  have absolute : isAbsolute (directory ++ "/" ++ entry) = isAbsolute directory := by
    rw [isAbsolute_eq, isAbsolute_eq, text, List.head?_append_of_ne_nil _ chars]
  have piece := ofPiece?_name isName inner
  have pieces := fields_append (· == '/') directory.toList entry.toList '/' (by decide)
  rw [fields_of_single isName.single] at pieces
  rw [components, components, absolute, text, pieces,
    List.head?_append_of_ne_nil _ (fields_ne_nil _ _), List.filterMap_append, List.filterMap_cons,
    piece]
  simp

end Parent

section Entry

variable {entry : String} (ends : Ends front name path) (isName : IsName entry.toList)
include ends isName

theorem Ends.join_eq : join path entry = path ++ "/" ++ entry := by
  have unseparated : path.toList.getLast? ≠ some '/' := by
    rw [ends.text, List.getLast?_append_of_ne_nil _ ends.isName.nonempty]
    intro last
    exact ends.isName.single (List.mem_of_getLast? last)
  rw [join, isName.isAbsolute_eq, ends.isEmpty_eq, if_neg (by simp), if_neg unseparated]

theorem Ends.join_ends : Ends (path.toList ++ ['/']) entry.toList (join path entry) where
  text := by
    rw [ends.join_eq isName, String.toList_append, String.toList_append]
    rfl
  opens := .inr (List.getLast?_concat ..)
  isName := isName

theorem Ends.join_parent : parent? (join path entry) = some path ∧
    Parent (path.toList ++ ['/']) (join path entry) path := by
  have below := ends.join_ends isName
  have nonempty : path.toList ≠ [] := by
    rw [ends.text]
    exact List.append_ne_nil_of_right_ne_nil _ ends.isName.nonempty
  have kept : trimmed path.toList = path.toList := by
    rw [ends.text, trimmed_eq_self ends.isName]
  have found : parent? (join path entry) = some path := by
    rw [below.parent?_eq, trimmed_snoc, kept, if_neg nonempty, String.ofList_toList]
  obtain ⟨directory, same, parent⟩ := below.exists_parent
  rw [found, Option.some.injEq] at same
  exact ⟨found, same ▸ parent⟩

/-- The last name of a path has the extension of the path. -/
theorem Ends.extension?_join (inner : entry ≠ "..") :
    extension? (join path entry) = extension? entry := by
  have nonempty : path ≠ "" := by
    intro empty
    have some := ends.isEmpty_eq
    rw [empty] at some
    cases some
  have whole : fileName? (join path entry) = some entry := by
    rw [ends.join_eq isName, fileName?, components_entry nonempty isName inner, List.getLast?_concat]
  rw [extension?, extension?, whole, fileName?_name isName inner]

end Entry

end DirSchema.Path
