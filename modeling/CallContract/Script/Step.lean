import CallContract.Fault
import CallContract.Term

/-!
# Steps of a script

A script is a list of steps that are taken one after the other in one session. Each step does one
thing that a user of contracts can do: build something, check a value, call a function, look at
an object, or change the settings or the journal. Steps name stored values by texts.
-/

namespace CallContract

/-- How the factory of a family is given. -/
inductive FactoryTerm where
  /-- A factory that builds a term from its record; it may have no name of its own. -/
  | define (name : String) (named : Bool) (result : ContractTerm)
  /-- Any value in place of a factory. -/
  | raw (t : Term)
  deriving Inhabited

/-- One issue of a report, as it is given. -/
structure ReportLine where
  place : Option Term
  message : Option Term
  deriving Inhabited

/-- A step of a script. -/
inductive Step where
  | schema (s : SchemaTerm) (promoted : Bool)
  | validate (schema : SchemaTerm) (value : Term) (strict : Option Bool)
  | check (schema : SchemaTerm) (value : Term) (strict : Option Bool)
  | attempt (schema : SchemaTerm) (value : Term) (strict : Option Bool)
  | sameAdapter (a b : SchemaTerm)
  | clearAdapters
  | build (c : ContractTerm)
  | value (t : Term)
  | call (function : String) (args : List Term) (kw : List (String × Term))
  | method (function : String) (subject : Option Term) (args : List Term)
      (kw : List (String × Term))
  | inspect (target : String)
  | resolvedMode (target : String)
  | print (target : String)
  | field (target name : String)
  | assign (target name : String) (value : Term)
  | equal (a b : String)
  | identical (a b : String)
  | sameHash (a b : String)
  | asMode (mode : Term)
  | shouldEnforce (mode boundary : Term)
  | modeProperties (m : Mode)
  | family (factory : FactoryTerm)
  | instantiate (family : String) (record : Option Term) (kw : List (String × Term))
  | inspectFamily (target : String)
  | environment (changes : List (String × Option String))
  | file (path : String) (content : List UInt8)
  | folder (path : String)
  | loadFile (path : String)
  | loadSettings (path : Option String) (environment : Option (List (String × String)))
  | activeSettings
  | resetSettings
  | newSettings (fields : List (String × Term))
  | replaceSettings (base : Option String) (overrides : List (String × Term))
  | configureJournal (level : Option Term) (layout : Option String) (stream : String)
  | readStream (stream : String)
  | journal
  | logger (name : String)
  | report (lines : List ReportLine) (boundary function : Option String)
      (contexts : List (Option String × Option String))
  | configReport (message : String) (path : Option String)
  | ancestry (name : String)
  deriving Inhabited

end CallContract
