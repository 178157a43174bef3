import Rulebook.FileTree.Edit

/-!
# The bundled rules

A small set of rules comes with the program, at a place of its own. It is what is checked when no
root is named, and it shows what good rules look like.
-/

namespace Rulebook.Bundled

/-- The folder of the bundled rules. -/
def root : Path :=
  ⟨.top, ["usr", "share", "rulelint", "configs"]⟩

/-- The bundled files: where they are below the folder, and their lines. -/
def files : List (List String × List String) :=
  [([".rulelint.yaml"],
      ["# Settings for `rulelint`; every key is optional.",
        "strict: false",
        "exempt_filenames:",
        "  - CLAUDE.md",
        "shared_rules_area:",
        "  - _shared",
        "  - rules"]),
    (["_shared", "rules", "security.md"],
      ["# Security",
        "",
        "- Never commit secrets, tokens or private keys.",
        "- Validate all input at trust boundaries.",
        "- Prefer parameterized queries over string concatenation."]),
    (["_shared", "skills", "code-review", "SKILL.md"],
      ["---",
        "name: code-review",
        "description: Review a diff for correctness, security and readability",
        "argument-hint: \"[path or ref]\"",
        "---",
        "",
        "# Code review",
        "",
        "Read the diff, then report issues grouped by severity."]),
    (["typescript", "rules", "core.md"],
      ["---",
        "description: \"Core TypeScript conventions\"",
        "paths:",
        "  - \"**/*.ts\"",
        "  - \"**/*.tsx\"",
        "---",
        "",
        "# TypeScript",
        "",
        "- Enable `strict` in tsconfig.",
        "- Export types alongside implementations."]),
    (["typescript", "rules", "testing.md"],
      ["---",
        "description: \"Testing conventions for TypeScript projects\"",
        "paths:",
        "  - \"**/*.test.ts\"",
        "  - \"**/__tests__/**\"",
        "---",
        "",
        "# Testing",
        "",
        "- One behaviour per test.",
        "- Prefer real modules over mocks."])]

/-- Puts one bundled file at its place. -/
def installFile (t : FileTree) (file : List String × List String) : FileTree :=
  t.putFile (root.append file.1)
    (Text.Utf8.encode (file.2.flatMap fun line => line.toList ++ ['\n']))

/-- Puts the bundled rules at their place in a tree. -/
def install (t : FileTree) : FileTree :=
  files.foldl installFile t

/-- The tree of a program that has just started: the bundled rules, and an empty current folder. -/
def bareTree : FileTree :=
  install (.inFolder "work")

end Rulebook.Bundled
