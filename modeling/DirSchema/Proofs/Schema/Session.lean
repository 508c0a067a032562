import DirSchema.Proofs.Schema.Resolution
import Mathlib.Data.List.Forall2
set_option autoImplicit false

namespace DirSchema.Schema

/-- Something that is done to a schema. -/
inductive Operation where
  | declare (declaration : Declaration)
  | resolve
deriving DecidableEq, Repr

def apply (schema : Schema) : Operation → Schema
  | .declare declaration => schema.declare declaration
  | .resolve => schema.resolve.1

def session (operations : List Operation) : Schema := operations.foldl apply {}

/-- Links that are as if all names had just been linked for the first time: each is to the very
attribute that is registered under its name, and there is one for each name, in the order in which
the names are seen first. -/
structure Fresh (registry : Schema) (names : List String) (links : List Instance) : Prop where
  registered : ∀ linked ∈ links, registry.isRegistered linked = true
  each : links.map (·.attr.key) = (names.map Text.fold).eraseDups

/-- What links have in common at any time: none is there twice, each is to an attribute whose name
is registered, and if there are any there are some for each name, in the order of the names. -/
structure Tracks (schema : Schema) (names : List String) (links : List Instance) : Prop where
  once : (links.map (·.serial)).Nodup
  known : ∀ linked ∈ links, (schema.attribute? linked.attr.name).isSome = true
  keys : links = [] ∨ (links.map (·.attr.key)).eraseDups = (names.map Text.fold).eraseDups

section
variable {registry : Schema} (sound : registry.Sound)
include sound

theorem Sound.key_eq {name : String} {found : Instance}
    (registered : registry.attribute? name = some found) : found.attr.key = Text.fold name := by
  obtain ⟨before, after, split, -⟩ := List.lookup_eq_some_iff.mp registered
  exact (sound.keyed (Text.fold name, found) (by rw [split]; simp)).symm

/-- What is found is registered under its own name. -/
theorem Sound.attribute?_name {name : String} {found : Instance}
    (registered : registry.attribute? name = some found) :
    registry.attribute? found.attr.name = some found := by
  have key : Text.fold found.attr.name = Text.fold name := sound.key_eq registered
  rw [attribute?, key, ← attribute?, registered]

/-- Two registered attributes are the same registration exactly if they have the same key. -/
theorem Sound.serial_eq_iff {name other : String} {found another : Instance}
    (registered : registry.attribute? name = some found)
    (alsoRegistered : registry.attribute? other = some another) :
    found.serial = another.serial ↔ found.attr.key = another.attr.key := by
  rw [sound.key_eq registered, sound.key_eq alsoRegistered]
  constructor
  · intro same
    obtain ⟨before, after, split, -⟩ := List.lookup_eq_some_iff.mp registered
    obtain ⟨front, back, cut, -⟩ := List.lookup_eq_some_iff.mp alsoRegistered
    have first : (Text.fold name, found) ∈ registry.attributes := by rw [split]; simp
    have second : (Text.fold other, another) ∈ registry.attributes := by rw [cut]; simp
    exact congrArg Prod.fst (List.inj_on_of_nodup_map sound.serials first second same)
  · intro same
    rw [attribute?, same, ← attribute?, alsoRegistered] at registered
    rw [Option.some.inj registered]

theorem Sound.isRegistered_of_found {name : String} {found : Instance}
    (registered : registry.attribute? name = some found) : registry.isRegistered found = true := by
  rw [isRegistered, sound.attribute?_name registered]
  exact beq_self_eq_true _

end

private theorem isRegistered_iff (registry : Schema) (linked : Instance) :
    registry.isRegistered linked = true ↔
      ∃ found, registry.attribute? linked.attr.name = some found ∧
        found.serial = linked.serial := by
  rw [isRegistered]
  cases registry.attribute? linked.attr.name <;> simp

/-- Registered attributes with one key are one registration. -/
theorem serial_eq_of_registered {registry : Schema} {linked another : Instance}
    (registered : registry.isRegistered linked = true)
    (alsoRegistered : registry.isRegistered another = true)
    (key : linked.attr.key = another.attr.key) : linked.serial = another.serial := by
  obtain ⟨found, here, serial⟩ := (isRegistered_iff _ _).mp registered
  obtain ⟨same, there, otherSerial⟩ := (isRegistered_iff _ _).mp alsoRegistered
  rw [attribute?, show Text.fold linked.attr.name = Text.fold another.attr.name from key,
    ← attribute?, there] at here
  rw [← serial, ← otherSerial, Option.some.inj here]

/-- If what was registered stays registered, a link under a known name is registered or not as
before. -/
theorem isRegistered_eq_of_kept {schema registry : Schema} {linked : Instance}
    (known : (schema.attribute? linked.attr.name).isSome = true)
    (kept : ∀ name found, schema.attribute? name = some found →
      registry.attribute? name = some found) :
    registry.isRegistered linked = schema.isRegistered linked := by
  obtain ⟨found, registered⟩ := Option.isSome_iff_exists.mp known
  rw [isRegistered, isRegistered, registered, kept _ _ registered]

private theorem nodup_foldl_link {links : List Instance} (once : (links.map (·.serial)).Nodup)
    (found : List Instance) : ((found.foldl Instance.link links).map (·.serial)).Nodup := by
  induction found generalizing links with
  | nil => exact once
  | cons first rest ih =>
      apply ih
      rw [Instance.link]
      split
      · exact once
      · rename_i new
        rw [List.map_append, List.nodup_append]
        refine ⟨once, List.nodup_singleton _, ?_⟩
        intro serial member other single same
        obtain ⟨linked, among, rfl⟩ := List.mem_map.mp member
        rw [List.map_singleton, List.mem_singleton] at single
        exact new (List.any_eq_true.mpr ⟨linked, among, beq_iff_eq.mpr (same.trans single)⟩)

/-- Links stay, in front of what is linked to later. -/
theorem foldl_link_extends (links found : List Instance) :
    ∃ added, found.foldl Instance.link links = links ++ added ∧
      ∀ linked ∈ added, linked ∈ found := by
  induction found generalizing links with
  | nil => exact ⟨[], (List.append_nil links).symm, nofun⟩
  | cons first rest ih =>
      obtain ⟨added, same, among⟩ := ih (Instance.link links first)
      rw [List.foldl_cons, same, Instance.link]
      split
      · exact ⟨added, rfl, fun linked member => List.mem_cons_of_mem _ (among linked member)⟩
      · refine ⟨first :: added, by rw [List.append_assoc]; rfl, ?_⟩
        rw [List.forall_mem_cons]
        exact ⟨List.mem_cons_self, fun linked member =>
          List.mem_cons_of_mem _ (among linked member)⟩

/-- Linking what is linked already changes nothing. -/
theorem foldl_link_of_linked {links found : List Instance}
    (linked : ∀ a ∈ found, ∃ b ∈ links, b.serial = a.serial) :
    found.foldl Instance.link links = links := by
  induction found with
  | nil => rfl
  | cons first rest ih =>
      rw [List.forall_mem_cons] at linked
      obtain ⟨old, among, same⟩ := linked.1
      have present : (links.any fun linked => linked.serial == first.serial) = true :=
        List.any_eq_true.mpr ⟨old, among, beq_iff_eq.mpr same⟩
      rw [List.foldl_cons, Instance.link, if_pos present, ih linked.2]

/-- What is linked to is linked. -/
theorem linked_of_mem (links : List Instance) {found : List Instance} {first : Instance}
    (member : first ∈ found) :
    ∃ linked ∈ found.foldl Instance.link links, linked.serial = first.serial := by
  have linked : ((found.foldl Instance.link links).any fun earlier =>
      first.serial == earlier.serial) = true := by
    rw [link_eq_keepNew]
    exact any_foldl_keepNew _ (fun registered => beq_self_eq_true registered.serial) member
  obtain ⟨link, among, same⟩ := List.any_eq_true.mp linked
  exact ⟨link, among, (beq_iff_eq.mp same).symm⟩

/-- If keys tell the same apart as registrations do, linking is what it is on keys. -/
theorem map_key_foldl_link {links found : List Instance}
    (agree : ∀ a ∈ found, ∀ b ∈ links ++ found,
      b.serial = a.serial ↔ b.attr.key = a.attr.key) :
    (found.foldl Instance.link links).map (·.attr.key) =
      (found.map (·.attr.key)).foldl insertName (links.map (·.attr.key)) := by
  induction found generalizing links with
  | nil => rfl
  | cons first rest ih =>
      rw [List.forall_mem_cons] at agree
      have split : Instance.link links first = links ∧ first.attr.key ∈ links.map (·.attr.key) ∨
          Instance.link links first = links ++ [first] ∧
            first.attr.key ∉ links.map (·.attr.key) := by
        rw [Instance.link]
        split
        · rename_i old
          obtain ⟨linked, among, same⟩ := List.any_eq_true.mp old
          have key := (agree.1 linked (List.mem_append_left _ among)).mp (beq_iff_eq.mp same)
          exact .inl ⟨rfl, List.mem_map.mpr ⟨linked, among, key⟩⟩
        · rename_i new
          refine .inr ⟨rfl, fun member => new ?_⟩
          obtain ⟨linked, among, key⟩ := List.mem_map.mp member
          have same := (agree.1 linked (List.mem_append_left _ among)).mpr key
          exact List.any_eq_true.mpr ⟨linked, among, beq_iff_eq.mpr same⟩
      have further : ∀ a ∈ rest, ∀ b ∈ Instance.link links first ++ rest,
          b.serial = a.serial ↔ b.attr.key = a.attr.key := by
        intro a member b among
        refine agree.2 a member b ?_
        rcases List.mem_append.mp among with front | back
        · rcases split with ⟨same, -⟩ | ⟨same, -⟩ <;> rw [same] at front
          · exact List.mem_append_left _ front
          · rcases List.mem_append.mp front with old | new
            · exact List.mem_append_left _ old
            · exact List.mem_append_right _ (List.mem_singleton.mp new ▸ List.mem_cons_self)
        · exact List.mem_append_right _ (List.mem_cons_of_mem _ back)
      rw [List.foldl_cons, ih further, List.map_cons, List.foldl_cons, insertName]
      rcases split with ⟨same, old⟩ | ⟨same, new⟩
      · rw [same, if_pos (List.contains_iff_mem.mpr old)]
      · rw [same, if_neg (by simpa using new), List.map_append, List.map_singleton]

def foundFor (registry : Schema) (names : List String) : List Instance :=
  names.filterMap registry.attribute?

section
variable {registry : Schema} {names : List String} (sound : registry.Sound)
  (known : ∀ name ∈ names, (registry.attribute? name).isSome = true)

include sound in
theorem found_of_mem {linked : Instance} (member : linked ∈ registry.foundFor names) :
    registry.attribute? linked.attr.name = some linked := by
  obtain ⟨name, -, registered⟩ := List.mem_filterMap.mp member
  exact sound.attribute?_name registered

include sound known in
theorem map_key_foundFor : (registry.foundFor names).map (·.attr.key) = names.map Text.fold := by
  induction names with
  | nil => rfl
  | cons first rest ih =>
      rw [List.forall_mem_cons] at known
      obtain ⟨found, registered⟩ := Option.isSome_iff_exists.mp known.1
      have rest := ih known.2
      rw [foundFor] at rest
      rw [foundFor, List.filterMap_cons_some registered, List.map_cons, List.map_cons, rest,
        sound.key_eq registered]

include sound known in
/-- Linked from nothing, there is one link for each name. -/
theorem map_key_link_foundFor :
    ((registry.foundFor names).foldl Instance.link []).map (·.attr.key) =
      (names.map Text.fold).eraseDups := by
  have agree : ∀ a ∈ registry.foundFor names, ∀ b ∈ [] ++ registry.foundFor names,
      b.serial = a.serial ↔ b.attr.key = a.attr.key := by
    intro a member b among
    exact sound.serial_eq_iff (found_of_mem sound among) (found_of_mem sound member)
  rw [map_key_foldl_link agree, map_key_foundFor sound known]
  exact foldl_insertName _

variable {links : List Instance}

include sound known in
/-- A resolution goes on keeping track of the names. -/
theorem Tracks.linked (tracks : registry.Tracks names links) :
    registry.Tracks names ((registry.foundFor names).foldl Instance.link links) where
  once := nodup_foldl_link tracks.once _
  known := by
    obtain ⟨added, same, among⟩ := foldl_link_extends links (registry.foundFor names)
    intro linked member
    rw [same] at member
    rcases List.mem_append.mp member with old | new
    · exact tracks.known linked old
    · rw [found_of_mem sound (among linked new)]
      rfl
  keys := by
    right
    rcases tracks.keys with rfl | keys
    · rw [map_key_link_foundFor sound known]
      exact eraseDups_of_nodup (nodup_eraseDups _)
    · obtain ⟨added, same, among⟩ := foldl_link_extends links (registry.foundFor names)
      -- What is added has keys that older links have already.
      have old : (added.map (·.attr.key)).removeAll (links.map (·.attr.key)) = [] := by
        refine List.filter_eq_nil_iff.mpr fun key member => ?_
        obtain ⟨linked, new, rfl⟩ := List.mem_map.mp member
        have named : linked.attr.key ∈ names.map Text.fold := by
          rw [← map_key_foundFor sound known]
          exact List.mem_map.mpr ⟨linked, among linked new, rfl⟩
        rw [← List.mem_eraseDups, ← keys, List.mem_eraseDups] at named
        simpa using named
      rw [same, List.map_append, List.eraseDups_append, old, keys]
      exact List.append_nil _

/-- Links to registered attributes, each there once, have different keys. -/
theorem nodup_keys_of_registered (once : (links.map (·.serial)).Nodup)
    (registered : ∀ linked ∈ links, registry.isRegistered linked = true) :
    (links.map (·.attr.key)).Nodup := by
  have apart : links.Pairwise fun a b => a.serial ≠ b.serial := List.pairwise_map.mp once
  refine List.pairwise_map.mpr (apart.imp_of_mem ?_)
  intro a b member among different key
  exact different (serial_eq_of_registered (registered a member) (registered b among) key)

include sound known in
/-- If all links are registered and there are some for each name, there is nothing to add. -/
theorem foldl_link_of_registered
    (keys : (links.map (·.attr.key)).eraseDups = (names.map Text.fold).eraseDups)
    (registered : ∀ linked ∈ links, registry.isRegistered linked = true) :
    (registry.foundFor names).foldl Instance.link links = links := by
  refine foldl_link_of_linked fun found member => ?_
  have named : found.attr.key ∈ names.map Text.fold := by
    rw [← map_key_foundFor sound known]
    exact List.mem_map.mpr ⟨found, member, rfl⟩
  rw [← List.mem_eraseDups, ← keys, List.mem_eraseDups] at named
  obtain ⟨linked, among, key⟩ := List.mem_map.mp named
  have own := sound.isRegistered_of_found (found_of_mem sound member)
  exact ⟨linked, among, serial_eq_of_registered (registered linked among) own key⟩

include sound known in
/-- Links are fresh after a resolution exactly if those before it were all registered. -/
theorem fresh_linked_iff {schema : Schema} (tracks : schema.Tracks names links)
    (kept : ∀ name found, schema.attribute? name = some found →
      registry.attribute? name = some found) :
    registry.Fresh names ((registry.foundFor names).foldl Instance.link links) ↔
      ∀ linked ∈ links, schema.isRegistered linked = true := by
  have before : (∀ linked ∈ links, schema.isRegistered linked = true) ↔
      ∀ linked ∈ links, registry.isRegistered linked = true :=
    forall₂_congr fun linked member => by
      rw [isRegistered_eq_of_kept (tracks.known linked member) kept]
  rw [before]
  constructor
  · intro fresh linked member
    obtain ⟨added, same, -⟩ := foldl_link_extends links (registry.foundFor names)
    exact fresh.registered linked (by rw [same]; exact List.mem_append_left _ member)
  · intro registered
    rcases tracks.keys with rfl | keys
    · refine ⟨fun linked member => ?_, map_key_link_foundFor sound known⟩
      obtain ⟨added, same, among⟩ := foldl_link_extends [] (registry.foundFor names)
      rw [same, List.nil_append] at member
      exact sound.isRegistered_of_found (found_of_mem sound (among linked member))
    · rw [foldl_link_of_registered sound known keys registered]
      have once := nodup_keys_of_registered tracks.once registered
      exact ⟨registered, (eraseDups_of_nodup once).symm.trans keys⟩

end

/-- Whether an operation declares no class that is linked to something: links are what resolutions
make. -/
def Operation.Unlinked : Operation → Prop
  | .declare (.objectClass declared) => declared.required = [] ∧ declared.optional = []
  | _ => True

instance : (operation : Operation) → Decidable operation.Unlinked
  | .declare (.objectClass _) => instDecidableAnd
  | .declare (.attr _) | .declare (.binding _) | .resolve => instDecidableTrue

/-- What the links of a class have in common at any time. -/
def TracksClass (schema : Schema) (owner : ObjectClass) : Prop :=
  schema.Tracks owner.requiredNames owner.required ∧
    schema.Tracks owner.optionalNames owner.optional

/-- A schema whose classes are linked as they are at any time. -/
structure Tracked (schema : Schema) : Prop where
  sound : schema.Sound
  classes : ∀ owner ∈ schema.objectClasses, schema.TracksClass owner

theorem TracksClass.mono {schema other : Schema} {owner : ObjectClass}
    (tracks : schema.TracksClass owner)
    (kept : ∀ name, (schema.attribute? name).isSome = true →
      (other.attribute? name).isSome = true) : other.TracksClass owner :=
  ⟨⟨tracks.1.once, fun linked member => kept _ (tracks.1.known linked member), tracks.1.keys⟩,
    ⟨tracks.2.once, fun linked member => kept _ (tracks.2.known linked member), tracks.2.keys⟩⟩

private theorem tracksClass_of_unlinked (schema : Schema) {owner : ObjectClass}
    (unlinked : owner.required = [] ∧ owner.optional = []) : schema.TracksClass owner := by
  rw [TracksClass, unlinked.1, unlinked.2]
  exact ⟨⟨List.nodup_nil, nofun, .inl rfl⟩, ⟨List.nodup_nil, nofun, .inl rfl⟩⟩

private theorem isSome_addAttribute (schema : Schema) (attr : Attribute) (name : String)
    (known : (schema.attribute? name).isSome = true) :
    ((schema.addAttribute attr).attribute? name).isSome = true := by
  rw [attribute?_addAttribute]
  split
  · rfl
  · exact known

private theorem isSome_resolve {schema : Schema} (name : String)
    (known : (schema.attribute? name).isSome = true) :
    (schema.resolve.1.attribute? name).isSome = true := by
  obtain ⟨found, registered⟩ := Option.isSome_iff_exists.mp known
  rw [attribute?_resolve_of_found registered]
  rfl

private theorem Tracked.declare {schema : Schema} (tracked : schema.Tracked)
    {declaration : Declaration}
    (unlinked : (Operation.declare declaration).Unlinked) :
    (schema.declare declaration).Tracked where
  sound := tracked.sound.declare declaration
  classes := by
    intro owner member
    cases declaration with
    | attr attr => exact (tracked.classes owner member).mono (schema.isSome_addAttribute attr)
    | objectClass declared =>
        rcases List.mem_append.mp member with old | new
        · exact (tracked.classes owner old).mono fun _ known => known
        · rw [List.mem_singleton.mp new]
          exact tracksClass_of_unlinked _ unlinked
    | binding binding => exact (tracked.classes owner member).mono fun _ known => known

private theorem Tracked.resolve {schema : Schema} (tracked : schema.Tracked) :
    schema.resolve.1.Tracked where
  sound := tracked.sound.resolve
  classes := by
    intro owner member
    rw [objectClasses_resolve, ← linked_resolve] at member
    obtain ⟨original, declared, rfl⟩ := List.mem_map.mp member
    obtain ⟨required, optional⟩ := (tracked.classes original declared).mono isSome_resolve
    have known (name : String) (named : name ∈ original.requiredNames ++ original.optionalNames) :=
      attribute?_resolve_of_named schema declared named
    exact ⟨required.linked tracked.sound.resolve fun name named =>
        known name (List.mem_append_left _ named),
      optional.linked tracked.sound.resolve fun name named =>
        known name (List.mem_append_right _ named)⟩

private theorem Tracked.apply {schema : Schema} (tracked : schema.Tracked) {operation : Operation}
    (unlinked : operation.Unlinked) : (schema.apply operation).Tracked := by
  cases operation with
  | declare declaration => exact tracked.declare unlinked
  | resolve => exact tracked.resolve

/-- Whatever is done to a schema, its classes are linked as they are at any time. -/
theorem tracked_session {operations : List Operation}
    (unlinked : ∀ operation ∈ operations, operation.Unlinked) : (session operations).Tracked := by
  have run (schema : Schema) (tracked : schema.Tracked) :
      (operations.foldl Schema.apply schema).Tracked := by
    induction operations generalizing schema with
    | nil => exact tracked
    | cons first rest ih =>
        rw [List.forall_mem_cons] at unlinked
        exact ih unlinked.2 _ (tracked.apply unlinked.1)
  exact run {} ⟨sound_empty, nofun⟩

/-- What a resolution makes of the links of a list of names: every name is linked to what is
registered under it, earlier links are kept, and all links are fresh exactly if the earlier ones
were to registered attributes. -/
structure Relinked (schema registry : Schema) (names : List String)
    (earlier links : List Instance) : Prop where
  current : ∀ name ∈ names, ∃ found, registry.attribute? name = some found ∧
    ∃ linked ∈ links, linked.serial = found.serial
  kept : earlier <+: links
  fresh_iff : registry.Fresh names links ↔
    ∀ linked ∈ earlier, schema.isRegistered linked = true

/-- What a resolution makes of the links of every class. -/
def Relinks (schema resolved : Schema) : Prop :=
  List.Forall₂
    (fun owner linked : ObjectClass =>
      Relinked schema resolved linked.requiredNames owner.required linked.required ∧
        Relinked schema resolved linked.optionalNames owner.optional linked.optional)
    schema.objectClasses resolved.objectClasses

/-- A class of a schema that is linked as at any time, and what a resolution makes of it. -/
theorem Tracked.relinked {schema : Schema} (tracked : schema.Tracked) {owner : ObjectClass}
    (member : owner ∈ schema.objectClasses) {names : List String} {links : List Instance}
    (named : names ⊆ owner.requiredNames ++ owner.optionalNames)
    (tracks : schema.Tracks names links) :
    Relinked schema schema.resolve.1 names links
      ((schema.resolve.1.foundFor names).foldl Instance.link links) := by
  have known (name : String) (among : name ∈ names) :
      (schema.resolve.1.attribute? name).isSome = true :=
    attribute?_resolve_of_named schema member (named among)
  refine ⟨fun name among => ?_, ?_, ?_⟩
  · obtain ⟨found, registered⟩ := Option.isSome_iff_exists.mp (known name among)
    have found_mem : found ∈ schema.resolve.1.foundFor names :=
      List.mem_filterMap.mpr ⟨name, among, registered⟩
    obtain ⟨linked, there, same⟩ := linked_of_mem links found_mem
    exact ⟨found, registered, linked, there, same⟩
  · obtain ⟨added, same, -⟩ := foldl_link_extends links (schema.resolve.1.foundFor names)
    exact ⟨added, same.symm⟩
  · exact fresh_linked_iff tracked.sound.resolve known tracks
      fun _ _ registered => attribute?_resolve_of_found registered

/-- After any operations, a resolution links each class to what is registered, and leaves a stale
link exactly where there was one before: where a class had been linked to an attribute that was
declared again. -/
theorem session_relinked {operations : List Operation}
    (unlinked : ∀ operation ∈ operations, operation.Unlinked) :
    Relinks (session operations) (session (operations ++ [Operation.resolve])) := by
  have tracked := tracked_session unlinked
  have last : session (operations ++ [Operation.resolve]) = (session operations).resolve.1 :=
    List.foldl_append
  rw [last, Relinks, objectClasses_resolve, ← linked_resolve, List.forall₂_map_right_iff,
    List.forall₂_same]
  intro owner member
  obtain ⟨required, optional⟩ := tracked.classes owner member
  exact ⟨tracked.relinked member (List.subset_append_left _ _) required,
    tracked.relinked member (List.subset_append_right _ _) optional⟩

/-- An attribute is declared after it was synthesized for a class. -/
def redeclared : List Operation :=
  [.declare (.objectClass { name := "person", requiredNames := ["cn", "CN"] }), .resolve,
    .declare (.attr { name := "cn" })]

theorem redeclared_relinked :
    (∀ operation ∈ redeclared, operation.Unlinked) ∧
      ((session redeclared).objectClasses.map fun owner =>
        owner.required.map (session redeclared).isRegistered) = [[false]] ∧
      ((session (redeclared ++ [Operation.resolve])).objectClasses.map fun owner =>
        owner.required.map (session (redeclared ++ [Operation.resolve])).isRegistered) = [[false, true]] ∧
      Relinks (session redeclared) (session (redeclared ++ [Operation.resolve])) := by
  have unlinked : ∀ operation ∈ redeclared, operation.Unlinked := by decide
  exact ⟨unlinked, by decide +kernel, by decide +kernel, session_relinked unlinked⟩

/-- Links are not always fresh after a resolution: the link to the synthesized attribute stays in
front of the one to the attribute that took its place. -/
theorem redeclared_not_fresh :
    (∀ operation ∈ redeclared, operation.Unlinked) ∧
      ((session (redeclared ++ [Operation.resolve])).objectClasses.map fun owner =>
        owner.required.map fun linked =>
          (linked.attr.key, (session (redeclared ++ [Operation.resolve])).isRegistered linked)) =
        [[("cn", false), ("cn", true)]] ∧
      ¬ ∀ owner ∈ (session (redeclared ++ [Operation.resolve])).objectClasses,
        Fresh (session (redeclared ++ [Operation.resolve])) owner.requiredNames owner.required := by
  have links : ((session (redeclared ++ [Operation.resolve])).objectClasses.map fun owner =>
      owner.required.map fun linked =>
        (linked.attr.key, (session (redeclared ++ [Operation.resolve])).isRegistered linked)) =
      [[("cn", false), ("cn", true)]] := by decide +kernel
  refine ⟨by decide, links, fun fresh => ?_⟩
  have registered : ((session (redeclared ++ [Operation.resolve])).objectClasses.all fun owner =>
      owner.required.all (session (redeclared ++ [Operation.resolve])).isRegistered) = true :=
    List.all_eq_true.mpr fun owner member => List.all_eq_true.mpr (fresh owner member).registered
  exact absurd registered (by decide +kernel)

end DirSchema.Schema
