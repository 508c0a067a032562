import DirSchema.Diagnostic.Basic
import DirSchema.Glob.Reader
set_option autoImplicit false

namespace DirSchema.Config

inductive Problem where
  | missingSetting (key flag : String)
  | invalidPackage (package : String) (place : Option Coord)
  | missingDirectory (directory : String) (place : Option Coord)
  | invalidPattern (pattern : String) (fault : Glob.Fault) (place : Option Coord)
  /-- The excluding patterns do not make a set. -/
  | invalidSet (reason : String)
  | noSchemaFiles (directory : String)
deriving DecidableEq, Repr

namespace Problem

def error (code : Diagnostic.Code) (message : String) (place : Option Coord) (notes : List String) :
    Diagnostic :=
  { severity := .error
    message
    code := some code.name
    labels := place.toList.map fun coord => { coord }
    notes }

def nothingSelected (directory : String) : String :=
  "no schema files were selected from '" ++ directory ++ "'"

def diagnostic : Problem → Diagnostic
  | .missingSetting key flag =>
    error .missingSetting ("required setting `" ++ key ++ "` was not specified") none
      ["set it in the config file, or pass `" ++ flag ++ "` on the command line"]
  | .invalidPackage package place =>
    error .invalidPackage ("package '" ++ package ++ "' is invalid") place
      ["packages are dot separated names, eg. `com.example.directory`"]
  | .missingDirectory directory place =>
    error .missingSchemaDirectory ("schema directory '" ++ directory ++ "' does not exist") place []
  | .invalidPattern pattern fault place =>
    error .invalidPattern ("invalid glob pattern '" ++ pattern ++ "'") place
      ["error parsing glob '" ++ pattern ++ "': " ++ fault.message]
  | .invalidSet reason => error .invalidPattern "invalid glob pattern 'exclude'" none [reason]
  | .noSchemaFiles directory => error .emptySchemaList (nothingSelected directory) none []

end Problem
end DirSchema.Config
