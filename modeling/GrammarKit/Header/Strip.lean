import GrammarKit.Header.Reader
import GrammarKit.Regex.Reader

/-!
# Removing headers

A text without the comment at its start and without the white space around that comment, and the
search pattern that takes exactly this.
-/

namespace GrammarKit.Header

open Text Regex

/-- A text without its leading comment and the white space before and behind it. -/
def strip (t : Text) : Text :=
  match leadingComment? t with
  | some (_, after) => trimStart after
  | none => trimStart t

/-- The pattern for white space, perhaps a comment, and white space at the start of a text. -/
def stripPattern : Regex where
  source := "^\\s*(/\\*.*?\\*/)?\\s*".toList
  pattern := .inOrder [
    .anchor .textStart,
    .many (.one (.ofClass .blank)),
    .optional (.group 1 (.inOrder [
      .one (.single '/'), .one (.single '*'),
      .repeated false 0 none (.one .anything),
      .one (.single '*'), .one (.single '/')])),
    .many (.one (.ofClass .blank))]
  groups := 1

theorem read_stripPattern_source :
    (Regex.read stripPattern.source { dotAll := true }).toOption = some stripPattern := by
  decide +kernel

end GrammarKit.Header
