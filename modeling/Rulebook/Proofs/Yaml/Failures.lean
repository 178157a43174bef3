import Rulebook.Yaml.Document

/-!
# How reading a document fails

A text that is no well-formed YAML is malformed, and so is one whose tags do not fit their nodes.
Every other failure has its cause in one scalar: the text of the node has no value under its tag.
This can only be so under four tags, those of truth values, of the two kinds of numbers and of
timestamps.

**Main fact.** `Document.parse_error`: a failure to read a text is either that it is malformed, or
the failure to read a scalar of its graph.

The proof goes through the functions that build a document. `FailsOnly` says of each what its
failures are, and is kept by every way in which they are put together.
-/

namespace Rulebook.Yaml

/-! ### The failures of a computation -/

section FailsOnly

variable {α β : Type} {P : Failure → Prop}

/-- A computation **fails only** with failures that satisfy `P`. -/
def FailsOnly (P : Failure → Prop) (x : Except Failure α) : Prop :=
  ∀ failure, x = .error failure → P failure

private theorem failsOnly_ok (a : α) : FailsOnly P (.ok a) := by
  intro failure h
  cases h

private theorem failsOnly_error {failure : Failure} (h : P failure) :
    FailsOnly P (.error failure : Except Failure α) := by
  intro other hother
  exact Except.error.inj hother ▸ h

private theorem FailsOnly.bind {x : Except Failure α} (hx : FailsOnly P x)
    {next : α → Except Failure β}
    (hnext : ∀ a, FailsOnly P (next a)) : FailsOnly P (x >>= next) := by
  cases x with
  | error failure => exact failsOnly_error (hx failure rfl)
  | ok a => exact hnext a

private theorem FailsOnly.map {x : Except Failure α} (hx : FailsOnly P x) (f : α → β) :
    FailsOnly P (x.map f) := by
  cases x with
  | error failure => exact failsOnly_error (hx failure rfl)
  | ok a => exact failsOnly_ok (f a)

private theorem failsOnly_mapM {f : α → Except Failure β} (h : ∀ a, FailsOnly P (f a))
    (as : List α) :
    FailsOnly P (as.mapM f) := by
  induction as with
  | nil => exact failsOnly_ok []
  | cons a as ih =>
    rw [List.mapM_cons]
    exact (h a).bind fun b => ih.bind fun bs => failsOnly_ok (b :: bs)

end FailsOnly

/-! ### Scalars -/

namespace Scalar

private theorem failsOnly_readBytes (text : List Char) :
    FailsOnly (· = .malformed) (readBytes text) := by
  rw [readBytes]
  split
  · split
    · exact failsOnly_ok _
    · exact failsOnly_error rfl
  · exact failsOnly_error rfl

/-- The tags under which a well-formed text may have no value. -/
def partialTags : List Tag :=
  [.flag, .integer, .float, .timestamp]

/-- Under any other tag, a text has a value or is malformed. -/
private theorem mem_partialTags {tag : Tag} {text : String} {failure : Failure}
    (h : ofText tag text = .error failure) (hne : failure ≠ .malformed) : tag ∈ partialTags := by
  cases tag with
  | flag => decide
  | integer => decide
  | float => decide
  | timestamp => decide
  | bytes => exact absurd (failsOnly_readBytes _ _ h) hne
  | null => cases h
  | text => cases h
  | _ => exact absurd (Except.error.inj h).symm hne

end Scalar

namespace Document

/-! ### Nodes -/

variable (g : Graph)

/-- A failure **lies in a scalar** of a graph when it is the failure to read the text of a node
under its tag. -/
def LiesInScalar (failure : Failure) : Prop :=
  ∃ id text, scalarText? g (g.nodes.length + 1) id = some text ∧
    tagOf g id ∈ Scalar.partialTags ∧ Scalar.ofText (tagOf g id) text = .error failure

/-- A failure is **known** when it is that something is malformed, or lies in a scalar. -/
def IsKnown (failure : Failure) : Prop :=
  failure = .malformed ∨ LiesInScalar g failure

private theorem isKnown_malformed : IsKnown g .malformed :=
  .inl rfl

private theorem failsOnly_valueOf (id : Nat) : FailsOnly (IsKnown g) (valueOf g id) := by
  rw [valueOf]
  split
  · exact failsOnly_ok _
  · split
    · next text htext =>
      refine FailsOnly.map (fun failure h => ?_) _
      by_cases hne : failure = .malformed
      · exact .inl hne
      · exact .inr ⟨id, text, htext, Scalar.mem_partialTags h hne, h⟩
    · exact failsOnly_error (isKnown_malformed g)

private theorem failsOnly_keyOf (id : Nat) : FailsOnly (IsKnown g) (keyOf g id) := by
  unfold keyOf
  split
  · exact failsOnly_ok _
  · refine (failsOnly_valueOf g id).bind fun value => ?_
    split
    · exact failsOnly_ok _
    · exact failsOnly_error (isKnown_malformed g)

private theorem failsOnly_writtenEntries (id : Nat) :
    FailsOnly (IsKnown g) (writtenEntries g id) := by
  unfold writtenEntries
  split
  · exact failsOnly_error (isKnown_malformed g)
  · refine failsOnly_mapM (fun entry => ?_) _
    exact (failsOnly_keyOf g entry.1).bind fun key =>
      (failsOnly_valueOf g entry.2).bind fun value => failsOnly_ok _

private theorem failsOnly_pairsOf (items : List Nat) : FailsOnly (IsKnown g) (pairsOf g items) := by
  refine failsOnly_mapM (fun id => ?_) items
  split
  · next key value _ =>
    exact (failsOnly_valueOf g key).bind fun _ => (failsOnly_valueOf g value).bind fun _ =>
      failsOnly_ok _
  · exact failsOnly_error (isKnown_malformed g)

/-! ### Collections and documents -/

private theorem failsOnly_collectionOf (id : Nat) : FailsOnly (IsKnown g) (collectionOf g id) := by
  unfold collectionOf
  split
  · exact (failsOnly_mapM (failsOnly_valueOf g) _).bind fun _ => failsOnly_ok _
  · exact (failsOnly_writtenEntries g id).bind fun _ => failsOnly_ok _
  · exact (failsOnly_writtenEntries g id).bind fun _ => failsOnly_ok _
  · exact (failsOnly_pairsOf g _).bind fun _ => failsOnly_ok _
  · exact (failsOnly_pairsOf g _).bind fun _ => failsOnly_ok _
  · exact failsOnly_error (isKnown_malformed g)

private theorem failsOnly_build (bound : Nat) (queue : List Nat) (done : List (Nat × Collection)) :
    FailsOnly (IsKnown g) (build g bound queue done) := by
  induction bound generalizing queue done with
  | zero =>
    cases queue with
    | nil => exact failsOnly_ok done
    | cons id queue => exact failsOnly_error (isKnown_malformed g)
  | succ bound ih =>
    cases queue with
    | nil => exact failsOnly_ok done
    | cons id queue =>
      rw [build]
      split
      · exact ih _ _
      · exact (failsOnly_collectionOf g id).bind fun _ => ih _ _

private theorem failsOnly_ofGraph : FailsOnly (IsKnown g) (ofGraph g) :=
  (failsOnly_valueOf g g.root).bind fun _ => (failsOnly_build g _ _ _).bind fun _ => failsOnly_ok _

/-- The graph that a text describes, if there is one. -/
def graph? (text : String) : Option Graph :=
  ((Token.scan text.toList).bind Event.ofTokens?).bind Graph.ofEvents?

/-- **How reading a document fails**: the text is malformed, or a scalar in it has no value. -/
theorem parse_error {text : String} {failure : Failure} (h : parse text = .error failure) :
    failure = .malformed ∨ ∃ g, graph? text = some g ∧ LiesInScalar g failure := by
  rw [parse] at h
  split at h
  · exact .inl (Except.error.inj h).symm
  · cases h
  · next events hevents =>
    split at h
    · exact .inl (Except.error.inj h).symm
    · next g hg =>
      have hgraph : graph? text = some g := by rw [graph?, hevents, Option.bind_some, hg]
      exact (failsOnly_ofGraph g failure h).imp_right fun hlies => ⟨g, hgraph, hlies⟩

/-- A day that no calendar has. -/
example : parse "strict: 2024-02-30" = .error (.timestamp .day) := by rfl

end Document

end Rulebook.Yaml
