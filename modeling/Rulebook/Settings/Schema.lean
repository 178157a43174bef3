import Rulebook.Settings.Basic
import Rulebook.Text.Word
import Rulebook.Yaml.Document

/-!
# The schema of settings files

A settings file holds a mapping from field names to values. `Field` names the fields and says what
each of them may be. `Schema.violations` lists everything that a document does wrong, each violation
with its location, and `Schema.least?` picks the one to report: the one at the least location, where
a place comes before the places inside it, fields come in order of their names and members in order
of their positions.

Of a general schema language this has what the schema of `rulelint` uses: kinds, one pattern, least
lengths and unknown keys. Each violation is worded as the standard reader words it.
-/

namespace Rulebook.Settings

open Yaml

/-! ### Fields -/

/-- A field of a settings file. -/
inductive Field where
  | extension
  | exemptFilenames
  | skillsSegment
  | sharedRulesArea
  | strict
  | knownKeys
  | catchAllPatterns
  deriving DecidableEq, Repr, Inhabited

namespace Field

/-- All fields. -/
def all : List Field :=
  [extension, exemptFilenames, skillsSegment, sharedRulesArea, strict, knownKeys, catchAllPatterns]

/-- The name of a field in a file. -/
def name : Field → String
  | extension => "extension"
  | exemptFilenames => "exempt_filenames"
  | skillsSegment => "skills_segment"
  | sharedRulesArea => "shared_rules_area"
  | strict => "strict"
  | knownKeys => "known_keys"
  | catchAllPatterns => "catch_all_patterns"

/-- The field that a key of a file names. -/
def ofKey? : Scalar → Option Field
  | .text key => all.find? fun field => field.name = key
  | _ => none

end Field

/-! ### Locations -/

/-- A step from a value to a part of it. -/
inductive Step where
  | field (name : String)
  | member (position : Nat)
  deriving DecidableEq, Repr, Inhabited

/-- The steps from the document to a value in it. -/
abbrev Place := List Step

/-- The order of steps. -/
def Step.before : Step → Step → Bool
  | .field a, .field b => a < b
  | .member i, .member j => i < j
  | .field _, .member _ => true
  | .member _, .field _ => false

/-- The order of locations: by the first step that differs, and a place before those inside it. -/
def Place.before : Place → Place → Bool
  | [], [] => false
  | [], _ :: _ => true
  | _ :: _, [] => false
  | a :: p, b :: q => a.before b || (a = b && Place.before p q)

/-- A step in words. -/
def Step.text : Step → String
  | .field name => name
  | .member position => toString position

/-- A location in words. -/
def Place.text (p : Place) : String :=
  ".".intercalate (p.map Step.text)

/-! ### Violations -/

/-- A kind of value that the schema asks for. -/
inductive Kind where
  | object
  | array
  | string
  | boolean
  deriving DecidableEq, Repr, Inhabited

/-- The name of a kind. -/
def Kind.text : Kind → String
  | object => "object"
  | array => "array"
  | string => "string"
  | boolean => "boolean"

/-- What is wrong with a value, which is given as it is shown. -/
inductive Cause where
  | notOfKind (shown : String) (kind : Kind)
  | empty (shown : String)
  | badExtension (shown : String)
  /-- The keys that name no field, as they are shown. -/
  | unknownKeys (shown : List String)
  deriving DecidableEq, Repr, Inhabited

/-- A violation of the schema. -/
structure Violation where
  place : Place
  cause : Cause
  deriving DecidableEq, Repr, Inhabited

/-- A cause in words. -/
def Cause.message : Cause → String
  | notOfKind shown kind => shown ++ " is not of type '" ++ kind.text ++ "'"
  | empty shown => shown ++ " should be non-empty"
  | badExtension shown => shown ++ " does not match '^\\\\.\\\\w+$'"
  | unknownKeys shown =>
    "Additional properties are not allowed (" ++ ", ".intercalate shown ++
      (if shown.length = 1 then " was" else " were") ++ " unexpected)"

/-- The words for the cause of a violation, with the place behind them unless it is the document
itself. -/
def Violation.locate (v : Violation) (words : String) : String :=
  if v.place.isEmpty then words else words ++ " at " ++ v.place.text

/-- A violation in words. -/
def Violation.message (v : Violation) : String :=
  v.locate v.cause.message

namespace Schema

/-! ### What each value may be -/

/-- The text that a value is. -/
def text? : Value → Option String
  | .scalar (.text s) => some s
  | _ => none

/-- The truth value that a value is. -/
def flag? : Value → Option Bool
  | .scalar (.flag b) => some b
  | _ => none

/-- The members of a value that is a list. -/
def items? (d : Document) (v : Value) : Option (List Value) :=
  match d.collection? v with
  | some (.list items) => some items
  | _ => none

/-- The entries of a value that is a mapping. -/
def entries? (d : Document) (v : Value) : Option (List (Scalar × Value)) :=
  match d.collection? v with
  | some (.mapping entries) => some entries
  | _ => none

/-- Whether a text is a dot and word characters, with nothing after them but perhaps one line
feed. -/
def isExtension (s : String) : Bool :=
  match s.toList with
  | '.' :: rest => Text.isWordText (Text.dropFinalNewline rest)
  | _ => false

/-- What is wrong with an extension. -/
def checkExtension (d : Document) (v : Value) : Option Cause :=
  match text? v with
  | none => some (.notOfKind (d.render v) .string)
  | some s => if isExtension s then none else some (.badExtension (d.render v))

/-- What is wrong with a text that must not be empty. -/
def checkText (d : Document) (v : Value) : Option Cause :=
  match text? v with
  | none => some (.notOfKind (d.render v) .string)
  | some s => if s = "" then some (.empty (d.render v)) else none

/-- What is wrong with a truth value. -/
def checkFlag (d : Document) (v : Value) : Option Cause :=
  match flag? v with
  | none => some (.notOfKind (d.render v) .boolean)
  | some _ => none

/-- What is wrong with a list of texts that must not be empty, itself or at its members. -/
def checkTexts (d : Document) (nonempty : Bool) (v : Value) : List Violation :=
  match items? d v with
  | none => [⟨[], .notOfKind (d.render v) .array⟩]
  | some items =>
    (if nonempty && items.isEmpty then [⟨[], .empty (d.render v)⟩] else []) ++
    items.zipIdx.filterMap fun (item, i) =>
      (checkText d item).map fun cause => ⟨[.member i], cause⟩

/-- What is wrong with a value itself, as a violation. -/
def here (cause : Option Cause) : List Violation :=
  cause.toList.map fun cause => ⟨[], cause⟩

/-- What is wrong with the value of a field. -/
def checkField (d : Document) (field : Field) (v : Value) : List Violation :=
  match field with
  | .extension => here (checkExtension d v)
  | .skillsSegment => here (checkText d v)
  | .strict => here (checkFlag d v)
  | .sharedRulesArea => checkTexts d true v
  | .exemptFilenames => checkTexts d false v
  | .knownKeys => checkTexts d false v
  | .catchAllPatterns => checkTexts d false v

/-- What is wrong with an entry. -/
def checkEntry (d : Document) (entry : Scalar × Value) : List Violation :=
  match Field.ofKey? entry.1 with
  | none => []
  | some field =>
    (checkField d field entry.2).map fun v => { v with place := .field field.name :: v.place }

/-! ### The whole document -/

/-- Puts a key among others, in order of their bare texts. -/
def insertKey (key : Scalar) : List Scalar → List Scalar
  | [] => [key]
  | k :: rest =>
    if key.plainText < k.plainText then key :: k :: rest else k :: insertKey key rest

/-- The keys that name no field, in order of their bare texts. -/
def unknownKeys (entries : List (Scalar × Value)) : List Scalar :=
  ((entries.map Prod.fst).filter fun key => (Field.ofKey? key).isNone).foldl
    (fun sorted key => insertKey key sorted) []

/-- What is wrong with the keys. -/
def checkKeys (entries : List (Scalar × Value)) : List Violation :=
  match unknownKeys entries with
  | [] => []
  | keys => [⟨[], .unknownKeys (keys.map Scalar.render)⟩]

/-- Everything that is wrong with a document. -/
def violations (d : Document) : List Violation :=
  match entries? d d.root with
  | none => [⟨[], .notOfKind (d.render d.root) .object⟩]
  | some entries => checkKeys entries ++ entries.flatMap (checkEntry d)

/-- The violation at the least place. -/
def least? : List Violation → Option Violation
  | [] => none
  | v :: vs =>
    match least? vs with
    | none => some v
    | some w => if Place.before w.place v.place then some w else some v

end Schema

end Rulebook.Settings
