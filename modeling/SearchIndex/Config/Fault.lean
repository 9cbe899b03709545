import SearchIndex.Yaml.Fault

/-!
# Faults of configurations

What can be wrong with a configuration, by cause.

## Main definitions

* `Fault`: what is wrong with a configuration
* `Fault.message`: what is reported about it

## Main results

* `Fault.message_missing`: a missing setting is named
-/

namespace SearchIndex.Config

/-- What is wrong with a configuration. -/
inductive Fault where
  /-- A text is no document. -/
  | unreadable (fault : Yaml.Fault)
  /-- A document is no map. -/
  | rootNotAnObject
  /-- A section or setting that is needed is not there. -/
  | missing (place : String)
  /-- A section is no map. -/
  | notAnObject (place : String)
  /-- A section has a key that is no text. -/
  | keysNotTexts (place : String)
  | notAText (place : String)
  | notAFlag (place : String)
  | notAnInteger (place : String)
  | notANumber (place : String)
  /-- An integer is beyond the largest float. -/
  | tooLarge
  /-- No level of the log has the name. -/
  | unknownLevel (name : String)
  /-- The log has no folder for its files. -/
  | noLogFolder
  /-- A setting is blank. -/
  | blank (place : String)
  /-- A setting is zero or below. -/
  | notPositive (place : String)
  /-- A setting is below zero. -/
  | negative (place : String)
  /-- An import path has no module or no attribute. -/
  | badPath (kind path : String)
deriving DecidableEq, Repr

/-- **What is reported about a fault.** -/
def Fault.message : Fault → String
  | .unreadable fault => fault.message
  | .rootNotAnObject => "Config root must be a mapping/object"
  | .missing place => "Missing required config: " ++ place
  | .notAnObject place => place ++ " must be an object"
  | .keysNotTexts place => place ++ " keys must be strings"
  | .notAText place => place ++ " must be a string"
  | .notAFlag place => place ++ " must be a boolean"
  | .notAnInteger place => place ++ " must be an integer"
  | .notANumber place => place ++ " must be a number"
  | .tooLarge => "int too large to convert to float"
  | .unknownLevel name => "log.level is not a logging level: " ++ Text.quote name
  | .noLogFolder => "log.dir must not be empty when log.to_file is true"
  | .blank place => place ++ " must not be empty"
  | .notPositive place => place ++ " must be positive"
  | .negative place => place ++ " must be >= 0"
  | .badPath kind path =>
    "entities." ++ kind ++ " must look like 'package.module:attribute', got " ++ Text.quote path

theorem Fault.message_missing (place : String) :
    (Fault.missing place).message = "Missing required config: " ++ place := rfl

end SearchIndex.Config
