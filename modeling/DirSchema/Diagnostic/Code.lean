set_option autoImplicit false

namespace DirSchema.Diagnostic

inductive Stage where
  | decoder
  | parser
  | generator
  | config
deriving DecidableEq, Repr

def Stage.name : Stage → String
  | .decoder => "decoder"
  | .parser => "parser"
  | .generator => "generator"
  | .config => "config"

inductive Code where
  | incompleteDeclaration
  | redundantParent
  | unknownSyntax
  | unrecognizedLine
  | unterminatedBlock
  | synthesizedAttribute
  | artifactRenderFailed
  | artifactWriteFailed
  | cleanupFailed
  | missingSetting
  | invalidPackage
  | invalidPattern
  | missingSchemaDirectory
  | emptySchemaList
deriving DecidableEq, Repr

namespace Code

def name : Code → String
  | .incompleteDeclaration => "incomplete-declaration"
  | .redundantParent => "redundant-parent"
  | .unknownSyntax => "unknown-syntax"
  | .unrecognizedLine => "unrecognized-line"
  | .unterminatedBlock => "unterminated-block"
  | .synthesizedAttribute => "synthesized-attribute"
  | .artifactRenderFailed => "artifact-render-failed"
  | .artifactWriteFailed => "artifact-write-failed"
  | .cleanupFailed => "cleanup-failed"
  | .missingSetting => "missing-setting"
  | .invalidPackage => "invalid-package"
  | .invalidPattern => "invalid-pattern"
  | .missingSchemaDirectory => "missing-schema-directory"
  | .emptySchemaList => "empty-schema-list"

def stage : Code → Stage
  | .incompleteDeclaration | .redundantParent | .unknownSyntax | .unrecognizedLine
  | .unterminatedBlock => .decoder
  | .synthesizedAttribute => .parser
  | .artifactRenderFailed | .artifactWriteFailed | .cleanupFailed => .generator
  | .missingSetting | .invalidPackage | .invalidPattern | .missingSchemaDirectory
  | .emptySchemaList => .config

def all : List Code :=
  [.incompleteDeclaration, .redundantParent, .unknownSyntax, .unrecognizedLine,
    .unterminatedBlock, .synthesizedAttribute, .artifactRenderFailed, .artifactWriteFailed,
    .cleanupFailed, .missingSetting, .invalidPackage, .invalidPattern, .missingSchemaDirectory,
    .emptySchemaList]

def ofName? (text : String) : Option Code := all.find? fun code => code.name == text

end Code
end DirSchema.Diagnostic
