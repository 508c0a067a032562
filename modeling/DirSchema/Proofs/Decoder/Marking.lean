import DirSchema.Diagnostic.Report
import DirSchema.Proofs.Decoder.Provenance
import DirSchema.Proofs.Source.Registry
import DirSchema.Proofs.Source.Standing
set_option autoImplicit false

namespace DirSchema.Decoder

open DirSchema.Source (Line Registry Standing)

/-- The registry with texts under their names, added one after another, and the texts with the
numbers that they got. -/
def register (registry : Registry) : List (String × String) → Registry × List Input
  | [] => (registry, [])
  | (name, text) :: rest =>
    let (registry, file) := registry.add name text
    let (registry, inputs) := register registry rest
    (registry, { file, text } :: inputs)

theorem register_cons (registry : Registry) (first : String × String)
    (rest : List (String × String)) :
    register registry (first :: rest) =
      ((register (registry.add first.1 first.2).1 rest).1,
        { file := (registry.add first.1 first.2).2, text := first.2 } ::
          (register (registry.add first.1 first.2).1 rest).2) := rfl

/-- What is held stays held while texts are registered under other paths. -/
theorem holds_register_of_apart {registry : Registry} {name text : String} {id : Nat}
    (held : registry.Holds name text id) {sources : List (String × String)}
    (apart : ∀ source ∈ sources, Path.same name source.1 = false) :
    (register registry sources).1.Holds name text id := by
  induction sources generalizing registry with
  | nil => exact held
  | cons first rest ih =>
      rw [register_cons]
      exact ih (held.add (apart first List.mem_cons_self) first.2)
        fun source member => apart source (List.mem_cons_of_mem first member)

/-- Under distinct paths, every text is held in the end. -/
theorem holds_register {registry : Registry} {sources : List (String × String)}
    (distinct : sources.Pairwise fun first second => Path.same first.1 second.1 = false)
    {input : Input} (member : input ∈ (register registry sources).2) :
    ∃ source ∈ sources, input.text = source.2 ∧
      (register registry sources).1.Holds source.1 source.2 input.file := by
  induction sources generalizing registry with
  | nil => cases member
  | cons first rest ih =>
      obtain ⟨apart, distinctRest⟩ := List.pairwise_cons.mp distinct
      rw [register_cons] at member ⊢
      rcases List.mem_cons.mp member with rfl | later
      · exact ⟨first, List.mem_cons_self, rfl,
          holds_register_of_apart (registry.holds_add first.1 first.2) apart⟩
      · obtain ⟨source, among, text, held⟩ := ih distinctRest later
        exact ⟨source, List.mem_cons_of_mem first among, text, held⟩

/-- What a place tells of a line of a registered source. -/
structure Marks (registry : Registry) (source : String × String) (line : Standing)
    (place : Coord) : Prop where
  stands : line.StandsIn source.2.toList
  held : registry.Holds source.1 source.2 place.file
  bytes : place = line.coord place.file
  text : (registry.file place.file).map (·.slice? place.start place.stop) =
    .ok (some (String.ofList line.text))
  location : registry.location place.file place.start =
    .ok { line := line.before.count '\n', column := line.indent.length }
  /-- Lines and columns are reported from one on. -/
  report : ∀ label : Diagnostic.Label, label.coord = place → ∃ name,
    Path.same name source.1 = true ∧
      label.report registry = .record
        [("message", .text label.message), ("file", .text name),
          ("span", .text (String.ofList line.text)),
          ("line", .number (line.before.count '\n' + 1 : Nat)),
          ("column", .number (line.indent.length + 1 : Nat))]

/-- The coordinate of a line that stands in the text of a held file marks it. -/
theorem marks_coord {registry : Registry} {source : String × String} {line : Standing} {id : Nat}
    (stands : line.StandsIn source.2.toList) (held : registry.Holds source.1 source.2 id) :
    Marks registry source line (line.coord id) := by
  obtain ⟨file, found, same, named⟩ := held.file
  have known : registry.file (line.coord id).file = .ok file := found
  rw [← same] at stands
  have text := stands.slice? id
  have located : registry.location (line.coord id).file (line.coord id).start =
      .ok line.location := by
    rw [Registry.location, known]
    exact stands.location (Registry.indexed_of_file known) id
  refine
    { stands := same ▸ stands
      held
      bytes := rfl
      text := ?_
      location := located
      report := ?_ }
  · rw [known, Except.map, text]
  · intro label here
    refine ⟨file.name, named, ?_⟩
    simp only [Diagnostic.Label.report, Diagnostic.markedText, here, known, located, text]
    rfl

/-- What is told of a schema that was decoded from registered sources. -/
structure Marked (registry : Registry) (sources : List (String × String)) (decoded : Decoded) :
    Prop where
  marks : ∀ place ∈ decoded.coords, ∃ source ∈ sources, ∃ line, Marks registry source line place
  objectClasses : ∀ owner ∈ decoded.schema.objectClasses, owner.origin ≠ none
  bindings : ∀ entry ∈ decoded.schema.bindings, entry.2.origin ≠ none
  /-- Only attributes that were synthesized, as a warning says, have no origin. -/
  attributes : ∀ entry ∈ decoded.schema.attributes, entry.2.attr.origin = none →
    entry.2.attr = .synthesized entry.2.attr.name ∧
      ∃ owner ∈ decoded.schema.objectClasses,
        Schema.synthesisWarning entry.2.attr.name owner.name owner.origin ∈ decoded.diagnostics

/-- An attribute without an origin is one that a warning is about. -/
theorem exists_warning_of_origin_none {lines : List Line} {entry : String × Instance}
    (member : entry ∈ (decodeLines lines).schema.attributes)
    (unknown : entry.2.attr.origin = none) :
    entry.2.attr = .synthesized entry.2.attr.name ∧
      ∃ owner ∈ (decodeLines lines).schema.objectClasses,
        Schema.synthesisWarning entry.2.attr.name owner.name owner.origin ∈
          (decodeLines lines).diagnostics := by
  rw [decodeLines, Schema.resolve_eq] at member ⊢
  obtain ⟨synthesized, grown, added⟩ := Schema.attributes_growAll (declareAll {} (events lines))
    (declareAll {} (events lines)).references
  rw [grown] at member
  rcases List.mem_append.mp member with declared | last
  · have origin := origin_of_mem_attributes declared
    rw [unknown] at origin
    cases origin
  · have named : (entry.1, entry.2.attr) ∈ synthesized.map (Prod.map id Instance.attr) :=
      List.mem_map.mpr ⟨entry, last, rfl⟩
    rw [added] at named
    obtain ⟨reference, undeclared, same⟩ := List.mem_map.mp named
    have attr : Attribute.synthesized reference.name = entry.2.attr := (Prod.mk.inj same).2
    rw [← attr]
    refine ⟨rfl, ?_⟩
    obtain ⟨owner, among, fromOwner⟩ :=
      List.mem_flatMap.mp (Schema.mem_of_mem_undeclared undeclared)
    obtain ⟨name, -, rfl⟩ := List.mem_map.mp fromOwner
    refine ⟨_, List.mem_map.mpr ⟨owner, among, rfl⟩, ?_⟩
    exact List.mem_append_right _ (List.mem_map.mpr ⟨{ owner, name }, undeclared, rfl⟩)

/-- Under distinct paths, whatever was registered or open before, origins and labels mark the
significant lines that they are about. -/
theorem decode_marks_lines (earlier : State) (registry : Registry)
    (sources : List (String × String))
    (distinct : sources.Pairwise fun first second => Path.same first.1 second.1 = false) :
    Marked (register registry sources).1 sources
      (earlier.decode (register registry sources).2) where
  marks := by
    intro place member
    obtain ⟨line, among, significant, rfl⟩ := mem_coords_decodeLines member
    obtain ⟨input, registered, inText⟩ := List.mem_flatMap.mp among
    obtain ⟨source, inSources, text, held⟩ := holds_register distinct registered
    obtain ⟨standing, stands, -, here⟩ := Line.exists_standing inText significant
    rw [here]
    exact ⟨source, inSources, standing, marks_coord (text ▸ stands) held⟩
  objectClasses := by
    intro owner member
    rw [State.decode_eq, decodeLines, Schema.resolve_eq] at member
    obtain ⟨declared, among, rfl⟩ := List.mem_map.mp member
    have origin := origin_of_mem_objectClasses among
    exact Option.isSome_iff_ne_none.mp origin
  bindings := by
    intro entry member
    rw [State.decode_eq, decodeLines, Schema.resolve_eq] at member
    have kept := (Schema.growAll_frame (declareAll {} (events (linesOf
      (register registry sources).2))) (declareAll {} (events (linesOf
      (register registry sources).2))).references).2
    exact Option.isSome_iff_ne_none.mp (origin_of_mem_bindings (kept ▸ member))
  attributes := fun _ member unknown => exists_warning_of_origin_none member unknown

/-- A file that was registered with another text and is written with other separators, and one with
indented text in several scripts. -/
def scattered : List (String × String) :=
  [("dir//a.dxc", "# é\r\n\u00A0 set object-class p = \x7b\r\n\tname = p\r\n\tmust-contain cn\r\n"),
    ("b.dxc", "  \x7d;\n\n\u3000ünsinn é")]

theorem scattered_marked :
    (scattered.Pairwise fun first second => Path.same first.1 second.1 = false) ∧
      ((State.idle.decode (register (Registry.add {} "dir/a.dxc" "old").1 scattered).2).coords =
        [⟨0, 9, 31⟩, ⟨1, 9, 19⟩, ⟨0, 9, 31⟩]) ∧
      Marked (register (Registry.add {} "dir/a.dxc" "old").1 scattered).1 scattered
        (State.idle.decode (register (Registry.add {} "dir/a.dxc" "old").1 scattered).2) := by
  have distinct : scattered.Pairwise fun first second => Path.same first.1 second.1 = false := by
    decide +kernel
  exact ⟨distinct, by decide +kernel, decode_marks_lines .idle _ scattered distinct⟩

end DirSchema.Decoder
