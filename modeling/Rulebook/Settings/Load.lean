import Rulebook.FileTree.Resolve
import Rulebook.Problem
import Rulebook.Settings.Schema

/-!
# Loading settings

A settings file is read over base settings: the fields that it names take its values and all others
keep theirs. A file that is not there, or holds nothing, changes nothing. A file that cannot be read
or is not a well-formed YAML document that fits the schema is a problem. Two more failures are told
apart: bytes that are no text, and a text at which the reader gives up.

What makes a document of a text, and puts a violation of the schema into words, is a `Reader`. The
standard one is built from `Yaml.Document.parse`. It leaves out what is wrong with a malformed text,
and it has words for every violation, where a reader may fail to show a value. What does not depend
on the reader is proved for all of them.
-/

namespace Rulebook

open Yaml

namespace Settings

/-- Why settings cannot be loaded. -/
inductive LoadFailure where
  | problem (p : Problem)
  | undecodable (fault : Text.Utf8.Fault)
  | noValue (failure : Yaml.Failure)
  deriving DecidableEq, Repr

/-- A failure in words. -/
def LoadFailure.message : LoadFailure → String
  | problem p => p.describe
  | undecodable fault => fault.message
  | noValue failure => failure.message

/-! ### Readers -/

/-- What reads the text of a settings file. -/
structure Reader where
  /-- The document that a text stands for. -/
  read : String → Except Yaml.Failure Document
  /-- What is wrong with a malformed text. -/
  complaint : String → String
  /-- The words for the cause of a violation in a document. -/
  tell : Document → Violation → Except Yaml.Failure String

/-- The reader that is at hand. -/
def Reader.standard : Reader where
  read := Document.parse
  complaint _ := "..."
  tell _ v := .ok v.cause.message

/-! ### Taking values over -/

/-- The texts among the members of a value. -/
def textsOf (d : Document) (v : Value) : List String :=
  ((Schema.items? d v).getD []).filterMap Schema.text?

/-- Gives a field a value. A value that does not fit the field changes nothing. -/
def setField (d : Document) (s : Settings) (field : Field) (v : Value) : Settings :=
  match field with
  | .extension => { s with extension := (Schema.text? v).getD s.extension }
  | .skillsSegment => { s with skillsSegment := (Schema.text? v).getD s.skillsSegment }
  | .strict => { s with strict := (Schema.flag? v).getD s.strict }
  | .exemptFilenames => { s with exemptFilenames := textsOf d v }
  | .sharedRulesArea => { s with sharedRulesArea := textsOf d v }
  | .knownKeys => { s with knownKeys := textsOf d v }
  | .catchAllPatterns => { s with catchAllPatterns := textsOf d v }

/-- Takes the value of an entry over. -/
def setEntry (d : Document) (s : Settings) (entry : Scalar × Value) : Settings :=
  match Field.ofKey? entry.1 with
  | some field => setField d s field entry.2
  | none => s

/-- The settings that a document states over a base, or its least violation of the schema. A
document that holds nothing states nothing. -/
def ofDocument (base : Settings) (d : Document) : Except Violation Settings :=
  if d.root = .scalar .null then .ok base
  else
    match Schema.least? (Schema.violations d) with
    | some v => .error v
    | none => .ok (((Schema.entries? d d.root).getD []).foldl (setEntry d) base)

/-! ### Reading a file -/

/-- The settings that a text states over a base. -/
def ofText (base : Settings) (path : Path) (text : String) (reader : Reader := .standard) :
    Except LoadFailure Settings :=
  match reader.read text with
  | .error .malformed =>
    .error (.problem (.settings path ("invalid YAML: " ++ reader.complaint text)))
  | .error failure => .error (.noValue failure)
  | .ok d =>
    match ofDocument base d with
    | .ok s => .ok s
    | .error v =>
      match reader.tell d v with
      | .ok words => .error (.problem (.settings path (v.locate words)))
      | .error failure => .error (.noValue failure)

/-- Loads the settings file at a path over a base. -/
def load (t : FileTree) (path : Option Path) (base : Settings := {})
    (reader : Reader := .standard) : Except LoadFailure Settings :=
  match path with
  | none => .ok base
  | some p =>
    if t.exists? p then
      match t.readText p with
      | .error (.unreadable fault) => .error (.problem (.settings p (fault.message p)))
      | .error (.undecodable fault) => .error (.undecodable fault)
      | .ok text => ofText base p text reader
    else .ok base

end Settings

end Rulebook
