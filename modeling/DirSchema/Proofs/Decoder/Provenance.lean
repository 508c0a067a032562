import DirSchema.Proofs.Decoder.Settlement
import DirSchema.Proofs.Decoder.Significance
import DirSchema.Proofs.Schema.Resolution
import Mathlib.Data.List.ReduceOption
set_option autoImplicit false

namespace DirSchema

/-- A move that leaves exactly the given places where they are. -/
theorem exists_move (places : List Coord) :
    ∃ move : Coord → Coord, ∀ place, move place = place ↔ place ∈ places := by
  refine ⟨fun place => if place ∈ places then place else { place with file := place.file + 1 }, ?_⟩
  intro place
  by_cases known : place ∈ places
  · simp [known]
  · have elsewhere : ({ place with file := place.file + 1 } : Coord) ≠ place := by
      intro same
      have file := congrArg Coord.file same
      exact Nat.succ_ne_self place.file file
    simp [known, elsewhere]

theorem eq_of_mem_of_map_eq {α : Type} {f : α → α} {values : List α} (fixed : values.map f = values)
    {value : α} (member : value ∈ values) : f value = value := by
  have pointwise : values.map f = values.map id := by rw [fixed, List.map_id]
  exact List.map_inj_left.mp pointwise value member

def Diagnostic.coords (diagnostic : Diagnostic) : List Coord := diagnostic.labels.map (·.coord)

def ObjectClass.coords (declared : ObjectClass) : List Coord :=
  (declared.origin :: declared.attributes.map (·.attr.origin)).reduceOption

def Schema.coords (schema : Schema) : List Coord :=
  (schema.attributes.map (·.2.attr.origin)).reduceOption ++
    schema.objectClasses.flatMap ObjectClass.coords ++
    (schema.bindings.map (·.2.origin)).reduceOption

def Decoder.Decoded.coords (decoded : Decoded) : List Coord :=
  decoded.schema.coords ++ decoded.diagnostics.flatMap Diagnostic.coords

section Relocation
variable (move : Coord → Coord)

theorem Diagnostic.coords_relocate (diagnostic : Diagnostic) :
    (diagnostic.relocate move).coords = diagnostic.coords.map move := by
  simp [coords, relocate]

private theorem ObjectClass.coords_relocate (declared : ObjectClass) :
    (declared.relocate move).coords = declared.coords.map move := by
  simp only [coords, ← List.reduceOption_map, attributes, relocate, List.map_cons, List.map_append,
    List.map_map]
  rfl

private theorem Schema.coords_relocate (schema : Schema) :
    (schema.relocate move).coords = schema.coords.map move := by
  simp only [coords, ← List.reduceOption_map, relocate, List.map_append, List.map_map,
    List.flatMap_map, List.map_flatMap, ObjectClass.coords_relocate]
  rfl

private theorem Decoder.Decoded.coords_relocate (decoded : Decoded) :
    (decoded.relocate move).coords = decoded.coords.map move := by
  simp only [coords, relocate, Schema.coords_relocate, List.map_append, List.flatMap_map,
    List.map_flatMap, Diagnostic.coords_relocate]

end Relocation

namespace Decoder

open DirSchema.Source (Line)

theorem map_relocate_of_fixed {move : Coord → Coord} {lines : List Line}
    (fixed : ∀ line ∈ lines, move line.coord = line.coord) :
    lines.map (Line.relocate move) = lines := by
  rw [List.map_congr_left (g := id), List.map_id]
  intro line member
  rw [Line.relocate, fixed line member, id]

/-- Every place that is told of what was decoded is that of a significant line. -/
theorem mem_coords_decodeLines {lines : List Line} {place : Coord}
    (member : place ∈ (decodeLines lines).coords) :
    ∃ line ∈ lines, line.isSignificant = true ∧ line.coord = place := by
  obtain ⟨move, fixes⟩ := exists_move ((lines.filter (·.isSignificant)).map (·.coord))
  have fixed : (lines.filter (·.isSignificant)).map (Line.relocate move) =
      lines.filter (·.isSignificant) :=
    map_relocate_of_fixed fun line among => (fixes line.coord).mpr (List.mem_map_of_mem among)
  have same : (decodeLines lines).coords.map move = (decodeLines lines).coords := by
    rw [← Decoded.coords_relocate, ← decodeLines_significant, ← decodeLines_relocate, fixed]
  obtain ⟨line, among, here⟩ :=
    List.mem_map.mp ((fixes place).mp (eq_of_mem_of_map_eq same member))
  obtain ⟨inLines, significant⟩ := List.mem_filter.mp among
  exact ⟨line, inLines, significant, here⟩

private theorem origin?_of_mem_declarations {lines : List Line} {declaration : Declaration}
    (member : declaration ∈ declarations (events lines)) : declaration.origin?.isSome = true := by
  have settled := (State.allSettlements_perm .idle lines).mem_iff.mpr
    (List.mem_append_left _ (mem_settlement?_of_declarations member))
  obtain ⟨block, -, origin, -⟩ := exists_settled (State.run_settles lines) settled
  rw [origin]
  rfl

/-- What a part of the declarations tells of their origins holds of each. -/
theorem origin_of_mem_filterMap {α : Type} {part : Declaration → Option α}
    (origin : α → Option Coord)
    (agrees : ∀ declaration value, part declaration = some value →
      declaration.origin? = origin value)
    {lines : List Line} {value : α}
    (member : value ∈ (declarations (events lines)).filterMap part) :
    (origin value).isSome = true := by
  obtain ⟨declaration, made, found⟩ := List.mem_filterMap.mp member
  rw [← agrees declaration value found]
  exact origin?_of_mem_declarations made

theorem origin_of_mem_attributes {lines : List Line} {entry : String × Instance}
    (member : entry ∈ (declareAll {} (events lines)).attributes) :
    entry.2.attr.origin.isSome = true := by
  have values := Schema.attributes_declareEach {} (declarations (events lines))
  have registered : (entry.1, entry.2.attr) ∈
      register Attribute.key [] ((declarations (events lines)).filterMap Declaration.attr?) := by
    rw [List.map_nil] at values
    exact values ▸ List.mem_map.mpr ⟨entry, member, rfl⟩
  have declared := (mem_register registered).resolve_right List.not_mem_nil
  refine origin_of_mem_filterMap Attribute.origin ?_ declared
  intro declaration value found
  cases declaration <;> cases found
  rfl

theorem origin_of_mem_objectClasses {lines : List Line} {owner : ObjectClass}
    (member : owner ∈ (declareAll {} (events lines)).objectClasses) :
    owner.origin.isSome = true := by
  rw [declareAll_eq, Schema.objectClasses_declareEach, List.nil_append] at member
  refine origin_of_mem_filterMap ObjectClass.origin ?_ member
  intro declaration value found
  cases declaration <;> cases found
  rfl

theorem origin_of_mem_bindings {lines : List Line} {entry : String × Binding}
    (member : entry ∈ (declareAll {} (events lines)).bindings) :
    entry.2.origin.isSome = true := by
  rw [declareAll_eq, Schema.bindings_declareEach] at member
  have declared := (mem_register member).resolve_right List.not_mem_nil
  refine origin_of_mem_filterMap Binding.origin ?_ declared
  intro declaration value found
  cases declaration <;> cases found
  rfl

end Decoder
end DirSchema
