import Rulebook.Proofs.Run.Outcome
import Rulebook.Proofs.Settings.Accepted
import Rulebook.Proofs.Walk.Thorough

/-!
# Extensions with a line feed

The pattern of extensions lets a line feed pass at the end of a text, so a settings file can give an
extension that no ordinary name ends in. It has to be written on purpose, in quotes or as a block of
lines, but nothing is said about it: a run with such an extension finds nothing and is content.

**Main fact.** `loaded_extension_is_dotted_word_iff`: this is the only way in which an extension
that is loaded over the defaults can be anything but a dotted word.
-/

namespace Rulebook

namespace Walk

variable {t : FileTree} {root : Path} {extension : String}

/-- What is found has the last character of the extension as the last one of its name. -/
private theorem exists_getLast?_of_mem_found {c : Char} (h : extension.toList.getLast? = some c)
    {p : Path} (hp : p ∈ (trace t root extension).found) :
    ∃ (folder : Path) (name : String),
      p = folder.child name ∧ name.toList.getLast? = some c := by
  obtain ⟨folder, entries, name, -, -, hend, rfl⟩ := mem_found_trace_iff.mp hp
  obtain ⟨front, hfront⟩ := List.isSuffixOf_iff_suffix.mp hend
  refine ⟨folder, name, rfl, ?_⟩
  rw [← hfront, List.getLast?_append, h, Option.some_or]

end Walk

namespace Settings

open Yaml Document

variable {t : FileTree} {path : Path} {s : Settings} {d : Document}

/-- A document **gives a line feed** when it gives an extension that ends in one. -/
def GivesLineFeed (d : Document) : Prop :=
  ∃ entries x, d.collection? d.root = some (.mapping entries) ∧
    (.text Field.extension.name, .scalar (.text x)) ∈ entries ∧ x.toList.getLast? = some '\n'

/-- What is admitted is a dotted word if it does not end in a line feed, and else there is one
before it. -/
private theorem isDottedWord_iff_of_admits {x : String} (h : Field.extension.Admits (.text x)) :
    (IsDottedWord x.toList ↔ x.toList.getLast? ≠ some '\n') ∧
      (x.toList.getLast? = some '\n' → ∃ e, IsDottedWord e ∧ x.toList = e ++ ['\n']) := by
  obtain ⟨word, hword⟩ := h
  obtain ⟨hword, hx | hx⟩ := first?_extensionPattern_iff.mp hword
  · have hdotted : IsDottedWord x.toList := ⟨word, hword, hx⟩
    exact ⟨iff_of_true hdotted hdotted.getLast?_ne, fun hlast => absurd hlast hdotted.getLast?_ne⟩
  · have hlast : x.toList.getLast? = some '\n' := by
      rw [hx, ← List.cons_append, List.getLast?_concat]
    have hdotted : ¬ IsDottedWord x.toList := fun h => h.getLast?_ne hlast
    exact ⟨iff_of_false hdotted (not_not.mpr hlast), fun _ => ⟨_, ⟨word, hword, rfl⟩, hx⟩⟩

/-- An extension that ends in a line feed is one that the file gives. -/
private theorem extension_getLast?_iff (h : load t (some path) = .ok s) :
    s.extension.toList.getLast? = some '\n' ↔ ∃ d, IsReadAs t path d ∧ GivesLineFeed d := by
  have hdefault : ({} : Settings).extension.toList.getLast? ≠ some '\n' := by decide +kernel
  constructor
  · intro hlast
    rcases load_ok {} h with rfl | ⟨d, hread, -⟩
    · exact absurd hlast hdefault
    · rcases hread.merged_of_load h with ⟨-, rfl⟩ | ⟨entries, hroot, hfits, hmerged⟩
      · exact absurd hlast hdefault
      · by_cases hnamed : ∃ v, (.text Field.extension.name, v) ∈ entries
        · obtain ⟨v, hv⟩ := hnamed
          obtain ⟨field, x, hname, hgiven, -⟩ := hfits _ v hv
          obtain rfl := Field.name_injective (Scalar.text.inj hname)
          have hx : .text s.extension = x := hmerged.given .extension v x hv hgiven
          rw [← hx] at hgiven
          obtain rfl : v = .scalar (.text s.extension) := hgiven
          exact ⟨d, hread, entries, s.extension, hroot, hv, hlast⟩
        · have hkept := Datum.text.inj (hmerged.kept .extension (not_exists.mp hnamed))
          rw [hkept] at hlast
          exact absurd hlast hdefault
  · rintro ⟨d, hread, entries, x, hroot, hx, hlast⟩
    rcases hread.merged_of_load h with ⟨hnull, -⟩ | ⟨entries', hroot', -, hmerged⟩
    · rw [hnull] at hroot
      cases hroot
    · obtain rfl := mapping_unique hroot hroot'
      rw [Datum.text.inj (hmerged.given .extension _ (.text x) hx rfl)]
      exact hlast

/-- **An extension that is loaded** over the defaults is a dotted word, unless the file gives one
that ends in a line feed. Then it is a dotted word with a line feed behind it, and no walk finds
anything but what has a line feed at the end of its name. -/
theorem loaded_extension_is_dotted_word_iff (h : load t (some path) = .ok s) :
    (IsDottedWord s.extension.toList ↔ ∀ d, IsReadAs t path d → ¬ GivesLineFeed d) ∧
      (¬ IsDottedWord s.extension.toList →
        (∃ e, IsDottedWord e ∧ s.extension.toList = e ++ ['\n']) ∧
          ∀ t' root p, p ∈ (Walk.trace t' root s.extension).found →
            ∃ (folder : Path) (name : String),
              p = folder.child name ∧ name.toList.getLast? = some '\n') := by
  obtain ⟨hdotted, hsplit⟩ := isDottedWord_iff_of_admits (load_admits h (admits_default .extension))
  have hlast := extension_getLast?_iff h
  constructor
  · rw [hdotted, Ne, hlast, not_exists]
    exact forall_congr' fun d => not_and
  · intro hnot
    have hend := Decidable.not_not.mp fun hend => hnot (hdotted.mpr hend)
    exact ⟨hsplit hend, fun t' root p => Walk.exists_getLast?_of_mem_found hend⟩

section Quoted

/-- A tree with a rule file, and a settings file that gives an extension between quotes with an
escaped line feed behind it. -/
def quotedTree : FileTree :=
  (({} : FileTree).putFile ⟨.current, ["configs", "a.md"]⟩ []).putFile ⟨.current, ["lint.yaml"]⟩
    [0x65, 0x78, 0x74, 0x65, 0x6E, 0x73, 0x69, 0x6F, 0x6E, 0x3A, 0x20, 0x22, 0x2E, 0x6D, 0x64, 0x5C,
      0x6E, 0x22]

/-- The document that its settings file is read as. -/
def quotedDocument : Document :=
  ⟨[(0, .mapping [(.text "extension", .scalar (.text ".md\n"))])], .collection 0⟩

private theorem quotedTree_isReadAs :
    IsReadAs quotedTree ⟨.current, ["lint.yaml"]⟩ quotedDocument := by
  refine ⟨[0x65, 0x78, 0x74, 0x65, 0x6E, 0x73, 0x69, 0x6F, 0x6E, 0x3A, 0x20, 0x22, 0x2E, 0x6D, 0x64,
    0x5C, 0x6E, 0x22], ['e', 'x', 't', 'e', 'n', 's', 'i', 'o', 'n', ':', ' ', '"', '.', 'm', 'd',
    '\\', 'n', '"'], by rfl, by rfl, ?_⟩
  have hparse : Document.parse "extension: \".md\\n\"" = .ok quotedDocument := by rfl
  exact hparse

private theorem load_quotedTree :
    load quotedTree (some ⟨.current, ["lint.yaml"]⟩) = .ok { extension := ".md\n" } :=
  quotedTree_isReadAs.load_of_ok {} (by rfl)

/-- What is loaded from that file: a dotted word, with a line feed behind it. -/
theorem loaded_extension_of_quoted_line_feed :
    load quotedTree (some ⟨.current, ["lint.yaml"]⟩) = .ok { extension := ".md\n" } ∧
      ∃ e, IsDottedWord e ∧ (".md\n" : String).toList = e ++ ['\n'] := by
  refine ⟨load_quotedTree, ?_⟩
  obtain ⟨hdotted, hsplit⟩ := loaded_extension_is_dotted_word_iff load_quotedTree
  refine (hsplit fun h => ?_).1
  exact hdotted.mp h quotedDocument quotedTree_isReadAs
    ⟨_, ".md\n", rfl, List.mem_singleton_self _, by decide +kernel⟩

/-- **That extension is loaded** although it is no dotted word, and a run finds nothing where a run
with the defaults finds a file. -/
theorem line_feed_behind_extension_is_loaded :
    ∃ s, load quotedTree (some ⟨.current, ["lint.yaml"]⟩) = .ok s ∧
      ¬ IsDottedWord s.extension.toList ∧
      (s.run quotedTree ⟨.current, ["configs"]⟩).results = .ok {} ∧
      (({} : Settings).run quotedTree ⟨.current, ["configs"]⟩).results.map Results.visited =
        .ok [⟨.current, ["configs", "a.md"]⟩] := by
  refine ⟨_, load_quotedTree, ?_, by decide +kernel, by decide +kernel⟩
  exact fun h => h.getLast?_ne (by decide +kernel)

end Quoted

end Settings

end Rulebook
