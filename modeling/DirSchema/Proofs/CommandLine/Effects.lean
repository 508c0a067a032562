import DirSchema.CommandLine.Footprint
import DirSchema.Proofs.FileTree.Contents
import DirSchema.Proofs.Output.Refusal
set_option autoImplicit false

namespace DirSchema

open DirSchema.Path

namespace FileTree

/-- A tree with one more file, where nothing stood. -/
structure Gains (before after : FileTree) (place : Location) (contents : ByteArray) : Prop where
  base : after.base = before.base
  vacant : before.get? place = none
  file : after.get? place = some (.file contents)
  others : ∀ {other}, other ≠ place → after.get? other = before.get? other

variable {tree after : FileTree} {path text : String}

/-- A text that was written where no path led to anything is one more file. -/
theorem gains_of_writeText (absent : tree.pathExists path = false)
    (success : tree.writeText path text = .ok after) :
    Gains tree after (placeFrom tree.base path) text.toUTF8 := by
  obtain ⟨-, inner, rfl⟩ := writeText_eq_ok success
  refine ⟨rfl, ?_, get?_put_self (ne_nil_of_get? inner), get?_put_of_ne⟩
  rw [writeText, writeFile] at success
  rw [pathExists, find] at absent
  cases located : tree.locate path with
  | error error =>
      rw [located] at success
      cases success
  | ok target =>
      obtain ⟨-, -, here⟩ := reaches_of_locate located
      rw [located] at success absent
      rw [← here]
      cases plain : target.plain with
      | false => simp [bind, Except.bind, plain] at success
      | true =>
          cases found : target.node with
          | none => rfl
          | some node =>
              cases node <;>
                simp [bind, Except.bind, pure, Except.pure, found, plain] at absent

end FileTree

namespace CommandLine

open DirSchema.Source (Registry)

variable {console : Console} {arguments : Arguments} {tree : FileTree}

/-- Whether a run comes so far that it makes the output root, and cannot. -/
def LacksRoot (console : Console) (arguments : Arguments) (tree : FileTree) : Prop :=
  ∃ job error, (prepare console arguments tree).result = .ok job ∧
    (Output.compile job.files job.settings tree (prepare console arguments tree).registry).result =
      .error error ∧ error.IsRoot

/-- What a command may leave. -/
def Command.Leaves (command : Command) (console : Console) (tree : FileTree)
    (finished : Finished) : Prop :=
  match command with
  | .generate arguments _ =>
    finished.code = 0 ∨
      finished.code = 1 ∧ (¬ LacksRoot console arguments tree → finished.tree = tree)
  | .list _ _ => finished.tree = tree
  | .init path =>
    finished.code = 1 ∧ finished.tree = tree ∨
      finished.code = 0 ∧
        tree.pathExists ((Command.init path).firstFile (currentDirectory tree)) = false ∧
        tree.Gains finished.tree
          (placeFrom tree.base ((Command.init path).firstFile (currentDirectory tree)))
          Starter.text.toUTF8

private theorem leaves_writeArtifacts (console : Console) (arguments : Arguments) (verbose : Bool)
    (tree : FileTree) :
    (Command.generate arguments verbose).Leaves console tree
      (writeArtifacts console arguments verbose tree) := by
  rw [Command.Leaves, writeArtifacts]
  cases prepared : (prepare console arguments tree).result with
  | error failure => exact .inr ⟨rfl, fun _ => rfl⟩
  | ok job =>
      dsimp only
      cases compiled : (Output.compile job.files job.settings tree
        (prepare console arguments tree).registry).result with
      | ok report => exact .inl rfl
      | error error =>
          refine .inr ⟨rfl, ?_⟩
          intro rooted
          have concludes := Output.concludes_compileWith Output.templateRenderer job.files
            job.settings tree (prepare console arguments tree).registry
          apply concludes.tree_eq compiled
          intro root
          exact rooted ⟨job, error, prepared, compiled, root⟩

private theorem leaves_printClasses (console : Console) (arguments : Arguments) (models : Bool)
    (tree : FileTree) :
    (Command.list arguments models).Leaves console tree
      (printClasses console arguments models tree) := by
  rw [Command.Leaves, printClasses]
  cases (prepare console arguments tree).result with
  | error failure => rfl
  | ok job =>
      dsimp only
      cases (Decoder.decodeFiles tree (prepare console arguments tree).registry job.files).result <;>
        rfl

private theorem leaves_writeStarter (console : Console) (path : Option String) (tree : FileTree) :
    (Command.init path).Leaves console tree (writeStarter console path tree) := by
  rw [Command.Leaves, writeStarter, Command.firstFile]
  generalize Path.join (currentDirectory tree) (path.getD Config.defaultPath) = path
  dsimp only
  cases standing : tree.pathExists path with
  | true => exact .inl ⟨rfl, rfl⟩
  | false =>
      cases (Path.fileName? path).isNone with
      | true => exact .inl ⟨rfl, rfl⟩
      | false =>
          cases written : tree.writeText path Starter.text with
          | error failure => exact .inl ⟨rfl, rfl⟩
          | ok after => exact .inr ⟨rfl, rfl, FileTree.gains_of_writeText standing written⟩

private theorem Command.leaves_run (command : Command) (console : Console) (tree : FileTree) :
    command.Leaves console tree (command.run console tree) := by
  cases command with
  | generate arguments verbose => exact leaves_writeArtifacts console arguments verbose tree
  | list arguments models => exact leaves_printClasses console arguments models tree
  | init path => exact leaves_writeStarter console path tree

/-- What words on a command line may leave: no change at all if they are not understood, else what
their command may leave. -/
def WordsLeave (environment : Environment) (terminals : Terminals) (clock : Clock)
    (words : List String) (tree : FileTree) (finished : Finished) : Prop :=
  match Invocation.ofWords environment words with
  | .error _ => finished.tree = tree
  | .ok invocation =>
    invocation.command.Leaves (Console.ofInvocation invocation terminals clock) tree finished

theorem wordsLeave_run (environment : Environment) (terminals : Terminals) (clock : Clock)
    (words : List String) (tree : FileTree) :
    WordsLeave environment terminals clock words tree
      (run environment terminals clock words tree) := by
  rw [WordsLeave, run]
  cases Invocation.ofWords environment words with
  | error stop => cases stop <;> rfl
  | ok invocation => exact invocation.command.leaves_run _ tree

/-- A run that fails has no effect, unless what failed was to make the output root: neither in the
library, which reports whatever happens once the root is there, nor on the command line. -/
theorem failures_precede_effects :
    (∀ (renderer : Output.Renderer) (paths : List String) (settings : Output.Settings)
        (tree : FileTree) (registry : Registry),
      (∀ error, (Output.compileWith renderer paths settings tree registry).result = .error error →
        ¬ error.IsRoot →
          (Output.compileWith renderer paths settings tree registry).tree = tree) ∧
      Output.Concludes paths settings tree
        (Output.compileWith renderer paths settings tree registry)) ∧
    ∀ (environment : Environment) (terminals : Terminals) (clock : Clock) (words : List String)
        (tree : FileTree),
      WordsLeave environment terminals clock words tree
        (run environment terminals clock words tree) := by
  refine ⟨?_, wordsLeave_run⟩
  intro renderer paths settings tree registry
  have concludes := Output.concludes_compileWith renderer paths settings tree registry
  exact ⟨fun error failed other => concludes.tree_eq failed other, concludes⟩

/-- Entities alone, with a template for mappers. -/
def idleTemplate : Output.Settings :=
  { outputRoot := "out", package := "app", mappers := false, mapperTemplate := some "mapper.hbs" }

/-- A tree with a schema file and an old artifact. -/
def littered : FileTree where
  nodes := [(["a.dxc"], .file "".toUTF8), (["out"], .directory), (["out", "app"], .directory),
    (["out", "app", "types"], .directory), (["out", "app", "types", "Old.rs"], .file "".toUTF8)]

/-- A template that is missing keeps a run from starting, also if nothing is rendered with it. -/
theorem idleTemplate_precedes_effects :
    (Output.compile ["a.dxc"] idleTemplate littered {}).result = .error (.template
      { kind := .mapper
        failure := { action := .openFile, path := "mapper.hbs", error := .notFound } }) ∧
    (Output.compile ["a.dxc"] idleTemplate littered {}).tree = littered := by
  have failed : (Output.compile ["a.dxc"] idleTemplate littered {}).result = .error (.template
      { kind := .mapper
        failure := { action := .openFile, path := "mapper.hbs", error := .notFound } }) := by
    rfl
  exact ⟨failed, (failures_precede_effects.1 _ _ _ _ _).1 _ failed nofun⟩

end CommandLine
end DirSchema
