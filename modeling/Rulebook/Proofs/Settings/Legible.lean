import Rulebook.Proofs.Yaml.DistinctKeys
import Rulebook.Settings.Load

/-!
# Files that can be read as settings

Most of what can be wrong with a settings file is a problem, which names the file. Two failures are
not: bytes that are no text, and a text at which the reader of settings gives up, be it in reading
or in telling what is wrong. A file is **legible** for a reader when it has neither of these faults.

**Main facts.** `load_error`: what the failures to load settings are, for any reader.
`legible_iff_load_error`: a file is legible just when every failure to load it is a problem.
`liesInScalar_of_givesUp`: the standard reader gives up only at a scalar that has no value.
-/

namespace Rulebook.Settings

open Text Yaml

/-- A reader **gives up** at a text when it fails to read it and does not find it malformed, or
fails to tell what is wrong with the document. -/
inductive Reader.GivesUp (reader : Reader) (text : String) (failure : Failure) : Prop
  | reading (h : reader.read text = .error failure) (hne : failure ≠ .malformed)
  | telling {d : Document} {v : Violation} (h : reader.read text = .ok d)
    (hv : ofDocument {} d = .error v) (htell : reader.tell d v = .error failure)

/-- A file is **legible** as settings when its bytes, if there are any to be read, are a text, and
the reader does not give up at it. -/
def Legible (t : FileTree) (path : Path) (reader : Reader) : Prop :=
  ∀ bytes, t.readBytes path = .ok bytes → ∃ text, Utf8.decode bytes = .ok text ∧
    ∀ failure, ¬ reader.GivesUp (String.ofList (unifyNewlines text)) failure

/-- The standard reader gives up at no text but one in which a scalar has no value. -/
theorem liesInScalar_of_givesUp {text : String} {failure : Failure}
    (h : Reader.standard.GivesUp text failure) :
    ∃ g, Document.graph? text = some g ∧ Document.LiesInScalar g failure := by
  cases h with
  | reading h hne => exact (Document.parse_error h).resolve_left hne
  | telling _ _ htell => cases htell

/-! ### Reading a text -/

/-- The violation of a document does not depend on the base. -/
private theorem ofDocument_eq_error_iff (base : Settings) {d : Document} {v : Violation} :
    ofDocument base d = .error v ↔
      d.root ≠ .scalar .null ∧ Schema.least? (Schema.violations d) = some v := by
  rw [ofDocument]
  split
  · next hnull => exact iff_of_false (by simp) fun h => h.1 hnull
  · next hnull =>
    cases Schema.least? (Schema.violations d) with
    | none => simp
    | some w => simp [hnull]

section Text

variable (base : Settings) (path : Path) {reader : Reader} {text : String}

private theorem ofText_of_givesUp {failure : Failure} (h : reader.GivesUp text failure) :
    ofText base path text reader = .error (.noValue failure) := by
  cases h with
  | reading h hne =>
    rw [ofText, h]
    cases failure with
    | malformed => exact absurd rfl hne
    | _ => rfl
  | telling h hv htell =>
    have hbase := (ofDocument_eq_error_iff base).mpr ((ofDocument_eq_error_iff {}).mp hv)
    rw [ofText, h]
    dsimp only
    rw [hbase]
    dsimp only
    rw [htell]

/-- A text that is no settings is a problem that names the file, or the reader gives up at it. -/
private theorem ofText_error {failure : LoadFailure}
    (h : ofText base path text reader = .error failure) :
    (∃ detail, failure = .problem (.settings path detail)) ∨
      ∃ cause, failure = .noValue cause ∧ reader.GivesUp text cause := by
  cases hread : reader.read text with
  | error cause =>
    by_cases hne : cause = .malformed
    · rw [ofText, hread, hne] at h
      exact .inl ⟨_, (Except.error.inj h).symm⟩
    · have hcause : reader.GivesUp text cause := .reading hread hne
      rw [ofText_of_givesUp base path hcause] at h
      exact .inr ⟨cause, (Except.error.inj h).symm, hcause⟩
  | ok d =>
    cases hd : ofDocument base d with
    | ok s =>
      rw [ofText, hread] at h
      dsimp only at h
      rw [hd] at h
      cases h
    | error v =>
      have hv := (ofDocument_eq_error_iff {}).mpr ((ofDocument_eq_error_iff base).mp hd)
      cases htell : reader.tell d v with
      | error cause =>
        have hcause : reader.GivesUp text cause := .telling hread hv htell
        rw [ofText_of_givesUp base path hcause] at h
        exact .inr ⟨cause, (Except.error.inj h).symm, hcause⟩
      | ok words =>
        rw [ofText, hread] at h
        dsimp only at h
        rw [hd] at h
        dsimp only at h
        rw [htell] at h
        exact .inl ⟨_, (Except.error.inj h).symm⟩

end Text

/-! ### Reading a file -/

variable {t : FileTree} {path : Path} (base : Settings) {reader : Reader} {bytes : List UInt8}

theorem exists?_of_readBytes (h : t.readBytes path = .ok bytes) : t.exists? path = true := by
  rw [FileTree.readBytes] at h
  rw [FileTree.exists?]
  cases hr : t.resolve path with
  | error fault =>
    rw [hr] at h
    cases h
  | ok found => rfl

/-- A file whose bytes are no text. -/
private theorem load_undecodable (h : t.readBytes path = .ok bytes) {fault : Utf8.Fault}
    (hd : Utf8.decode bytes = .error fault) :
    load t (some path) base reader = .error (.undecodable fault) := by
  rw [load, if_pos (exists?_of_readBytes h), FileTree.readText, h]
  dsimp only
  rw [hd]

/-- A file whose bytes are a text. -/
theorem load_decodable (h : t.readBytes path = .ok bytes) {text : List Char}
    (hd : Utf8.decode bytes = .ok text) :
    load t (some path) base reader =
      ofText base path (String.ofList (unifyNewlines text)) reader := by
  rw [load, if_pos (exists?_of_readBytes h), FileTree.readText, h]
  dsimp only
  rw [hd]

/-- **How loading settings fails.** -/
theorem load_error {failure : LoadFailure} (h : load t (some path) base reader = .error failure) :
    (∃ detail, failure = .problem (.settings path detail)) ∨
      ∃ bytes, t.readBytes path = .ok bytes ∧
        ((∃ fault, failure = .undecodable fault ∧ Utf8.decode bytes = .error fault) ∨
          ∃ text cause, failure = .noValue cause ∧ Utf8.decode bytes = .ok text ∧
            reader.GivesUp (String.ofList (unifyNewlines text)) cause) := by
  cases hbytes : t.readBytes path with
  | error fault =>
    -- a file that is there but has no bytes to be read is a problem
    rw [load] at h
    split at h
    · rw [FileTree.readText, hbytes] at h
      exact .inl ⟨_, (Except.error.inj h).symm⟩
    · cases h
  | ok bytes =>
    cases hdecode : Utf8.decode bytes with
    | error fault =>
      rw [load_undecodable base hbytes hdecode] at h
      exact .inr ⟨bytes, rfl, .inl ⟨fault, (Except.error.inj h).symm, hdecode⟩⟩
    | ok text =>
      rw [load_decodable base hbytes hdecode] at h
      refine (ofText_error base path h).imp_right ?_
      rintro ⟨cause, hcause, hgivesUp⟩
      exact ⟨bytes, rfl, .inr ⟨text, cause, hcause, hdecode, hgivesUp⟩⟩

/-- A problem with the settings names their file. -/
theorem load_problem {p : Problem} (h : load t (some path) base reader = .error (.problem p)) :
    ∃ detail, p = .settings path detail := by
  rcases load_error base h with ⟨detail, hp⟩ | ⟨bytes, -, hcause⟩
  · exact ⟨detail, LoadFailure.problem.inj hp⟩
  · rcases hcause with ⟨fault, hfault, -⟩ | ⟨text, cause, hcause, -⟩
    · cases hfault
    · cases hcause

/-- **A file is legible** just when every failure to load it is a problem. -/
theorem legible_iff_load_error :
    Legible t path reader ↔ ∀ failure, load t (some path) base reader = .error failure →
      ∃ p, failure = .problem p := by
  constructor
  · intro h failure hload
    refine ((load_error base hload).resolve_right ?_).imp' _ fun _ => id
    rintro ⟨bytes, hbytes, ⟨fault, -, hfault⟩ | ⟨text, cause, -, htext, hgivesUp⟩⟩
    · obtain ⟨text, htext, -⟩ := h bytes hbytes
      rw [hfault] at htext
      cases htext
    · obtain ⟨other, hother, hcopes⟩ := h bytes hbytes
      obtain rfl : text = other := Except.ok.inj (htext.symm.trans hother)
      exact hcopes cause hgivesUp
  · intro h bytes hbytes
    cases hdecode : Utf8.decode bytes with
    | error fault =>
      obtain ⟨p, hp⟩ := h _ (load_undecodable base hbytes hdecode)
      cases hp
    | ok text =>
      refine ⟨text, rfl, fun cause hgivesUp => ?_⟩
      obtain ⟨p, hp⟩ := h _ <|
        (load_decodable base hbytes hdecode).trans (ofText_of_givesUp base path hgivesUp)
      cases hp

/-! ### Files with a document -/

/-- A file **is read as** a document when its bytes are a text and the text is read as that
document. -/
def IsReadAs (t : FileTree) (path : Path) (d : Document) : Prop :=
  ∃ bytes text, t.readBytes path = .ok bytes ∧ Utf8.decode bytes = .ok text ∧
    Document.parse (String.ofList (unifyNewlines text)) = .ok d

variable {d : Document}

theorem IsReadAs.hasDistinctKeys (h : IsReadAs t path d) : d.HasDistinctKeys := by
  obtain ⟨_, _, -, -, hparse⟩ := h
  exact Document.parse_hasDistinctKeys hparse

/-- What is loaded from a file is what its document comes to. -/
private theorem IsReadAs.load_eq (h : IsReadAs t path d) :
    load t (some path) base =
      match ofDocument base d with
      | .ok s => .ok s
      | .error v => .error (.problem (.settings path v.message)) := by
  obtain ⟨bytes, text, hbytes, hdecode, hparse⟩ := h
  have hread : Reader.standard.read (String.ofList (unifyNewlines text)) = .ok d := hparse
  rw [load_decodable base hbytes hdecode, ofText, hread]
  dsimp only
  cases ofDocument base d with
  | ok s => rfl
  | error v => rfl

/-- The settings that the document states are loaded. -/
theorem IsReadAs.load_of_ok (h : IsReadAs t path d) {s : Settings}
    (hs : ofDocument base d = .ok s) : load t (some path) base = .ok s := by
  rw [h.load_eq, hs]

/-- The violation that is found in the document is the problem with the file. -/
theorem IsReadAs.load_of_error (h : IsReadAs t path d) {v : Violation}
    (hv : ofDocument base d = .error v) :
    load t (some path) base = .error (.problem (.settings path v.message)) := by
  rw [h.load_eq, hv]

/-- Settings that are loaded from a file are the base, or are stated by the document that the file
is read as. -/
theorem load_ok {s : Settings} (h : load t (some path) base = .ok s) :
    s = base ∨ ∃ d, IsReadAs t path d ∧ ofDocument base d = .ok s := by
  cases hbytes : t.readBytes path with
  | error fault =>
    rw [load] at h
    split at h
    · rw [FileTree.readText, hbytes] at h
      cases h
    · exact .inl (Except.ok.inj h).symm
  | ok bytes =>
    cases hdecode : Utf8.decode bytes with
    | error fault =>
      rw [load_undecodable base hbytes hdecode] at h
      cases h
    | ok text =>
      cases hparse : Document.parse (String.ofList (unifyNewlines text)) with
      | error failure =>
        have hread : Reader.standard.read (String.ofList (unifyNewlines text)) = .error failure :=
          hparse
        rw [load_decodable base hbytes hdecode, ofText, hread] at h
        cases failure <;> cases h
      | ok d =>
        have hread : IsReadAs t path d := ⟨bytes, text, hbytes, hdecode, hparse⟩
        refine .inr ⟨d, hread, ?_⟩
        rw [hread.load_eq] at h
        cases hd : ofDocument base d with
        | error v =>
          rw [hd] at h
          cases h
        | ok s' =>
          rw [hd] at h
          exact congrArg _ (Except.ok.inj h)

end Rulebook.Settings
