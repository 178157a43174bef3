import Rulebook.Text.Blank

/-!
# Emoji codes

In shown text a known name between two colons stands for an emoji. The name may be followed by
`-emoji` or `-text`, which asks for one of the two ways to draw it. A name holds no blank and no
colon; an unknown name stays as it is, together with its colons.

An `EmojiTable` says which names are known, and what is said about shown text holds of every table.
The names of a full table are left out: the program uses `crossMark`, which knows a single one.
-/

namespace Rulebook.Text

/-- How an emoji is to be drawn. -/
inductive EmojiStyle where
  | unspecified
  | text
  | emoji
  deriving DecidableEq, Repr

/-- The variation selector that asks for a style. -/
def EmojiStyle.selector : EmojiStyle → List Char
  | unspecified => []
  | text => ['\uFE0E']
  | emoji => ['\uFE0F']

/-- Splits what stands between two colons into the name and the style. -/
def splitEmoji (code : List Char) : List Char × EmojiStyle :=
  if "-emoji".toList.isSuffixOf code then (code.take (code.length - 6), .emoji)
  else if "-text".toList.isSuffixOf code then (code.take (code.length - 5), .text)
  else (code, .unspecified)

/-- The emoji that are known by name. No emoji holds a colon. -/
class EmojiTable where
  /-- The emoji with a name. -/
  emoji? : List Char → Option (List Char)
  colon_notMem : ∀ {name emoji : List Char}, emoji? name = some emoji → ':' ∉ emoji

/-- The table of a single emoji, the cross mark, whose name may be written in either case. -/
@[reducible]
def crossMark : EmojiTable where
  emoji? name := if name = ['x'] || name = ['X'] then some ['❌'] else none
  colon_notMem h := by
    split at h
    · obtain rfl := Option.some.inj h
      decide
    · exact absurd h.symm (Option.some_ne_none _)

section

variable [EmojiTable]

/-- What a code between two colons is shown as. -/
def showEmoji (code : List Char) : List Char :=
  match EmojiTable.emoji? (splitEmoji code).1 with
  | some emoji => emoji ++ (splitEmoji code).2.selector
  | none => ':' :: code ++ [':']

/-- Replaces the codes in a text, where `pending` is what has been read since a colon. -/
def replaceEmojiFrom (pending : Option (List Char)) : List Char → List Char
  | [] =>
    match pending with
    | none => []
    | some code => ':' :: code
  | c :: s =>
    match pending with
    | none => if c = ':' then replaceEmojiFrom (some []) s else c :: replaceEmojiFrom none s
    | some code =>
      if c = ':' then showEmoji code ++ replaceEmojiFrom none s
      else if isBlank c then ':' :: code ++ c :: replaceEmojiFrom none s
      else replaceEmojiFrom (some (code ++ [c])) s

/-- Replaces the known codes in a text. -/
def replaceEmoji (s : List Char) : List Char :=
  replaceEmojiFrom none s

end

example : @replaceEmoji crossMark [':', 'x', ':', 'y', ':'] = ['❌', 'y', ':'] := by decide +kernel

end Rulebook.Text
