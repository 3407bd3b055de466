import GrammarKit.Regex.Reader

/-!
# Pieces of globs

What stands between the slashes of a glob: characters that mean themselves, stars for any run of
characters, question marks for any single one, and brackets for one of several. None of the first
three takes a slash.
-/

namespace GrammarKit.Glob

open Regex

inductive Piece where
  | char (c : Char)
  | anyRun
  | anyOne
  /-- One of the characters in brackets, whose text is given without them. -/
  | bracket (inside : Text)
  deriving DecidableEq, Repr

inductive PieceFault where
  /-- A backslash with nothing behind it. -/
  | loneBackslash
  /-- A bracket that is not closed. -/
  | openBracket
  deriving DecidableEq, Repr

mutual

/-- The pieces of what stands between two slashes. A backslash makes the next character mean
itself. -/
def pieces : Text → Except PieceFault (List Piece)
  | [] => .ok []
  | ['\\'] => .error .loneBackslash
  | '\\' :: c :: rest => (pieces rest).map (.char c :: ·)
  | '*' :: rest => (pieces rest).map (.anyRun :: ·)
  | '?' :: rest => (pieces rest).map (.anyOne :: ·)
  | '[' :: '!' :: ']' :: rest => bracketed "^]".toList rest
  | '[' :: '!' :: rest => bracketed ['^'] rest
  | '[' :: '^' :: ']' :: rest => bracketed "^]".toList rest
  | '[' :: '^' :: rest => bracketed ['^'] rest
  | '[' :: ']' :: rest => bracketed [']'] rest
  | '[' :: rest => bracketed [] rest
  | c :: rest => (pieces rest).map (.char c :: ·)

/-- The pieces from inside of a bracket on, of which a part has been read. -/
def bracketed (inside : Text) : Text → Except PieceFault (List Piece)
  | [] => .error .openBracket
  | ']' :: rest => (pieces rest).map (.bracket inside :: ·)
  | c :: rest => bracketed (inside ++ [c]) rest

end

def plainBackslashes (t : Text) : Text := t.flatMap fun c => if c = '\\' then ['\\', '\\'] else [c]

/-- Every character but the slash. -/
def notSlash : Pattern := .one { items := [.char '/'.toNat], negated := true }

/-- The search pattern of a piece. The inside of a bracket is that of a pattern in which no
backslash is special. -/
def Piece.pattern : Piece → Except Regex.Error Pattern
  | .char c => .ok (.one (.single c))
  | .anyRun => .ok (.many notSlash)
  | .anyOne => .ok notSlash
  | .bracket inside =>
    (Regex.read (['['] ++ plainBackslashes inside ++ [']'])).map (·.pattern)

end GrammarKit.Glob
