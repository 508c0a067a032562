import DirSchema.Diagnostic.Basic
import DirSchema.Output.Templates
import DirSchema.Template.Render
set_option autoImplicit false

namespace DirSchema.Output

/-- A renderer makes text of a template and a model, or says why it cannot. -/
abbrev Renderer : Type := String → Model → Except String String

def templateRenderer : Renderer := fun template model =>
  (Template.renderSource template model.datum).mapError Template.RenderError.message

inductive Outcome where
  | written (path : String)
  | renderFailed (kind : ArtifactKind) (className reason : String)
  | writeFailed (kind : ArtifactKind) (className reason : String)
deriving DecidableEq, Repr

structure Skipped where
  kind : ArtifactKind
  className : String
  reason : String
deriving DecidableEq, Repr

namespace Outcome

def written? : Outcome → Option String
  | .written path => some path
  | _ => none

def skipped? : Outcome → Option Skipped
  | .written _ => none
  | .renderFailed kind className reason => some { kind, className, reason }
  | .writeFailed kind className reason => some { kind, className, reason }

def failure (code : Diagnostic.Code) (action : String) (kind : ArtifactKind)
    (className reason : String) : Diagnostic :=
  { severity := .error
    message :=
      "failed to " ++ action ++ " " ++ kind.name ++ " '" ++ className ++ "', it was skipped"
    code := some code.name
    notes := [reason] }

def diagnostic? : Outcome → Option Diagnostic
  | .written _ => none
  | .renderFailed kind className reason =>
    some (failure .artifactRenderFailed "render" kind className reason)
  | .writeFailed kind className reason =>
    some (failure .artifactWriteFailed "write" kind className reason)

def log? : Outcome → Option String
  | .written path => some ("wrote " ++ path)
  | _ => none

end Outcome

/-- The artifacts of a run, in the order in which they are generated. -/
def artifacts (schema : Schema) (settings : Settings) : List (ObjectClass × ArtifactKind) :=
  schema.objectClasses.flatMap fun owner => settings.enabledKinds.map fun kind => (owner, kind)

/-- The tree with an artifact in it, and the directories above it. -/
def writeArtifact (tree : FileTree) (path contents : String) : FileTree × Option FileFailure :=
  match tree.createDirectories ((Path.parent? path).getD "") with
  | (tree, some failure) => (tree, some failure)
  | (tree, none) =>
    match tree.writeText path contents with
    | .error failure => (tree, some failure)
    | .ok tree => (tree, none)

def generateOne (schema : Schema) (settings : Settings) (templates : Templates)
    (renderer : Renderer) (tree : FileTree) (artifact : ObjectClass × ArtifactKind) :
    FileTree × Outcome :=
  let (owner, kind) := artifact
  let model := Model.ofClass schema owner settings.package kind
  match renderer (templates.get kind) model with
  | .error reason => (tree, .renderFailed kind model.className reason)
  | .ok contents =>
    let path := settings.artifactPath kind model.className
    match writeArtifact tree path contents with
    | (tree, none) => (tree, .written path)
    | (tree, some failure) => (tree, .writeFailed kind model.className failure.message)

def generateAll (schema : Schema) (settings : Settings) (templates : Templates)
    (renderer : Renderer) (tree : FileTree) :
    List (ObjectClass × ArtifactKind) → FileTree × List Outcome
  | [] => (tree, [])
  | artifact :: rest =>
    let (tree, outcome) := generateOne schema settings templates renderer tree artifact
    let (tree, others) := generateAll schema settings templates renderer tree rest
    (tree, outcome :: others)

def generate (schema : Schema) (settings : Settings) (templates : Templates) (renderer : Renderer)
    (tree : FileTree) : FileTree × List Outcome :=
  generateAll schema settings templates renderer tree (artifacts schema settings)

end DirSchema.Output
