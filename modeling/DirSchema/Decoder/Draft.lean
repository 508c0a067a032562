import DirSchema.Decoder.Entry
import DirSchema.Decoder.Issue
import DirSchema.Schema.Basic
import DirSchema.Source.Line
set_option autoImplicit false

namespace DirSchema.Decoder

open DirSchema.Source (Line)

structure AttributeDraft where
  name : Option String := none
  alternateNames : Option String := none
  valueSyntax : ValueSyntax := .unspecified
  multiValued : Option Bool := none
deriving DecidableEq, Repr

/-- The two lists of attribute names of a class. -/
inductive NameList where
  | required
  | optional
deriving DecidableEq, Repr

/-- The entries of a class block. `pending` is the list that goes on with the next line. -/
structure ClassDraft where
  name : Option String := none
  alternateNames : Option String := none
  subclassOf : Option String := none
  kind : Option String := none
  required : List String := []
  optional : List String := []
  pending : Option NameList := none
deriving DecidableEq, Repr

structure BindingDraft where
  name : Option String := none
  ldapName : Option String := none
  allowableParent : Option String := none
  namedBy : Option String := none
deriving DecidableEq, Repr

/-- What has been read of a block of each kind. -/
inductive Draft where
  | attr (draft : AttributeDraft)
  | objectClass (draft : ClassDraft)
  | binding (kind : BindingKind) (draft : BindingDraft)
deriving DecidableEq, Repr

namespace AttributeDraft

def read (draft : AttributeDraft) (line : Line) : AttributeDraft × List Issue :=
  let entry := Entry.ofLine line.text
  match String.ofList entry.key with
  | "name" => ({ draft with name := value? entry.value }, [])
  | "ldap-names" => ({ draft with alternateNames := value? entry.value }, [])
  | "syntax" =>
    let text := String.ofList (stripTerminators entry.value)
    match ValueSyntax.ofName? text with
    | some known => ({ draft with valueSyntax := known }, [])
    | none => ({ draft with valueSyntax := .unspecified }, [.unknownSyntax text line.coord])
  | "single-valued" =>
    match flag? entry.value with
    | some single => ({ draft with multiValued := some !single }, [])
    | none => (draft, [.unrecognized line.coord])
  | "multi-valued" =>
    match flag? entry.value with
    | some multi => ({ draft with multiValued := some multi }, [])
    | none => (draft, [.unrecognized line.coord])
  | _ => (draft, [.unrecognized line.coord])

/-- The declared attribute, which has many values unless it was said otherwise. -/
def close (draft : AttributeDraft) (origin : Coord) : Except Issue Attribute :=
  match draft.name with
  | none => .error (.incomplete .attr ["name"] origin)
  | some name =>
    .ok
      { name
        alternateNames := draft.alternateNames
        valueSyntax := draft.valueSyntax
        multiValued := draft.multiValued.getD true
        origin := some origin }

end AttributeDraft

namespace ClassDraft

def readNames (draft : ClassDraft) (list : NameList) (raw : List Char) : ClassDraft :=
  let line := NameLine.ofText raw
  let pending := if line.continues then some list else none
  match list with
  | .required => { draft with required := draft.required ++ line.names, pending }
  | .optional => { draft with optional := draft.optional ++ line.names, pending }

/-- The draft with parents. The first ever named is kept, every other one is reported. -/
def readParents (draft : ClassDraft) (place : Coord) : List String → ClassDraft × List Issue
  | [] => (draft, [])
  | parent :: rest =>
    match draft.subclassOf with
    | some kept =>
      let (draft, issues) := draft.readParents place rest
      (draft, .redundantParent kept parent place :: issues)
    | none => { draft with subclassOf := some parent }.readParents place rest

/-- The draft after a line of the block. A line that a list waits for is never an entry. -/
def read (draft : ClassDraft) (line : Line) : ClassDraft × List Issue :=
  match draft.pending with
  | some list => (draft.readNames list line.text, [])
  | none =>
    let entry := Entry.ofLine line.text
    match String.ofList entry.key with
    | "name" => ({ draft with name := value? entry.value }, [])
    | "ldap-names" => ({ draft with alternateNames := value? entry.value }, [])
    | "kind" => ({ draft with kind := value? entry.value }, [])
    | "subclass-of" => draft.readParents line.coord (namesOf (stripTerminators entry.value))
    | "must-contain" => (draft.readNames .required entry.value, [])
    | "may-contain" => (draft.readNames .optional entry.value, [])
    | _ => (draft, [.unrecognized line.coord])

/-- The declared class, with each name listed once. -/
def close (draft : ClassDraft) (origin : Coord) : Except Issue ObjectClass :=
  match draft.name with
  | none => .error (.incomplete .objectClass ["name"] origin)
  | some name =>
    .ok
      { name
        alternateNames := draft.alternateNames
        subclassOf := draft.subclassOf
        kind := draft.kind
        requiredNames := draft.required.foldl insertName []
        optionalNames := draft.optional.foldl insertName []
        origin := some origin }

end ClassDraft

namespace BindingDraft

/-- The parent in the text after a key, if it reads `allowable-parent <parent>`. -/
def parentAfter? (raw : List Char) : Option (List Char) :=
  match Text.splitOnce? Text.isBlank raw with
  | some (word, parent) => if String.ofList word = "allowable-parent" then some parent else none
  | none => none

/-- The draft after a line of the block. A line may also read `<class> allowable-parent
<parent>`. -/
def read (draft : BindingDraft) (line : Line) : BindingDraft × List Issue :=
  let entry := Entry.ofLine line.text
  match String.ofList entry.key with
  | "name" => ({ draft with name := value? entry.value }, [])
  | "ldap-name" => ({ draft with ldapName := value? entry.value }, [])
  | "allowable-parent" => ({ draft with allowableParent := value? entry.value }, [])
  | "named-by" => ({ draft with namedBy := value? entry.value }, [])
  | _ =>
    match parentAfter? entry.value with
    | some parent =>
      ({ draft with
          ldapName := value? entry.key
          allowableParent := value? (Text.trim parent) }, [])
    | none => (draft, [.unrecognized line.coord])

/-- The entries that a binding cannot do without and that the draft lacks. -/
def missing (draft : BindingDraft) : List String :=
  [("ldap-name", draft.ldapName), ("allowable-parent", draft.allowableParent),
    ("named-by", draft.namedBy)].filterMap fun (key, value) =>
      if value.isNone then some key else none

/-- The declared binding, which is named for its class if it has no name of its own. -/
def close (draft : BindingDraft) (kind : BindingKind) (origin : Coord) : Except Issue Binding :=
  match draft.ldapName, draft.allowableParent, draft.namedBy with
  | some ldapName, some allowableParent, some namedBy =>
    .ok
      { bindingName := draft.name.getD ldapName
        ldapName
        allowableParent
        namedBy
        origin := some origin }
  | _, _, _ => .error (.incomplete (.binding kind) draft.missing origin)

end BindingDraft

namespace Draft

def empty : BlockKind → Draft
  | .attr => .attr {}
  | .objectClass => .objectClass {}
  | .binding kind => .binding kind {}

def kind : Draft → BlockKind
  | .attr _ => .attr
  | .objectClass _ => .objectClass
  | .binding kind _ => .binding kind

/-- The draft after a line of the block, and what the line gives cause to report. -/
def read (line : Line) : Draft → Draft × List Issue
  | .attr draft => let (draft, issues) := draft.read line; (.attr draft, issues)
  | .objectClass draft => let (draft, issues) := draft.read line; (.objectClass draft, issues)
  | .binding kind draft => let (draft, issues) := draft.read line; (.binding kind draft, issues)

def close (origin : Coord) : Draft → Except Issue Declaration
  | .attr draft => (draft.close origin).map .attr
  | .objectClass draft => (draft.close origin).map .objectClass
  | .binding kind draft => (draft.close kind origin).map .binding

end Draft
end DirSchema.Decoder
