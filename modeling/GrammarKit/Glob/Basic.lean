import GrammarKit.Glob.Piece
import GrammarKit.Regex.Search
import GrammarKit.Text.Quoted

/-!
# Globs

Patterns for paths, written as in the lists of ignored files of version control. A glob takes a file
and all that is below a directory. Without a slash, or with one at the end only, it is looked for at
every depth; two stars between slashes stand for any number of directories. Of several globs the
last one that takes a path decides, for the path or, behind an exclamation mark, against it.
-/

namespace GrammarKit

open Regex

structure Glob where
  wanted : Bool
  pattern : Pattern
  deriving DecidableEq, Repr

/-- Why a text is no glob. -/
inductive GlobError where
  /-- Nothing is left of it, or there is a backslash with nothing behind it. -/
  | invalid (written : Text)
  /-- A bracket is no set of characters. -/
  | badBracket (cause : Regex.Error)
  deriving DecidableEq, Repr

def GlobError.message : GlobError → Text
  | .invalid written => "Invalid git pattern: ".toList ++ Text.quoted written
  | .badBracket _ => "Invalid search pattern".toList

namespace Glob

inductive Segment where
  | anyDepth
  | name (ps : List Piece)
  deriving DecidableEq, Repr

def twoStars : Text := ['*', '*']

/-- Segments relative to the directory in which paths start. A slash at the start says that they are
so; a segment that stands alone is looked for at every depth. -/
def placed : List Text → List Text
  | [] :: rest => rest
  | [s] => if s = twoStars then [s] else [twoStars, s]
  | [s, []] => if s = twoStars then [s, []] else [twoStars, s, []]
  | segments => segments

/-- A slash at the end asks for what is below a directory. -/
def opened (segments : List Text) : List Text :=
  if segments.getLast? = some [] then segments.dropLast ++ [twoStars] else segments

/-- Two stars are not repeated. -/
def collapsed : List Text → List Text
  | s :: t :: rest => if s = twoStars ∧ t = twoStars then collapsed (t :: rest) else s :: collapsed (t :: rest)
  | segments => segments

def segment (s : Text) : Except PieceFault Segment :=
  if s = twoStars then .ok .anyDepth else (pieces s).map .name

/-- The pattern of a name; a single star takes at least one character. -/
def namePattern : List Piece → Except Regex.Error Pattern
  | [.anyRun] => .ok (.many1 notSlash)
  | ps => (ps.mapM Piece.pattern).map .inOrder

def slash : Pattern := .one (.single '/')

def someCharacters : Pattern := .many1 (.one .inLine)

/-- The pattern of the segments behind the first one; `gap` says whether a slash has to come before
the next name. -/
def laterPatterns (gap : Bool) : List Segment → Except Regex.Error (List Pattern)
  | [] => .ok [.alt slash (.anchor .lastLineEnd)]
  | [.anyDepth] => .ok [slash]
  | .anyDepth :: rest => do
    return .optional (.seq slash someCharacters) :: (← laterPatterns true rest)
  | .name ps :: rest => do
    let name ← namePattern ps
    return (if gap then [slash] else []) ++ name :: (← laterPatterns true rest)

/-- The pattern of all segments. What is only asked to lie somewhere, or in some directory, is not
looked for segment by segment. -/
def patternOf (inDirectory : Bool) : List Segment → Except Regex.Error Pattern
  | [.anyDepth] => .ok (if inDirectory then slash else .one .inLine)
  | [.anyDepth, .name [.anyRun]] => .ok (.one .inLine)
  | [.anyDepth, .name [.anyRun], .anyDepth] => .ok slash
  | .anyDepth :: rest => do
    return .inOrder (.anchor .textStart :: .optional (.seq someCharacters slash) ::
      (← laterPatterns false rest))
  | segments => do return .inOrder (.anchor .textStart :: (← laterPatterns false segments))

/-- The glob of a text without white space at its end and without a mark in front. A bracket that
is not closed makes it mean nothing. -/
def ofBody (written : Text) (wanted : Bool) (body : Text) : Except GlobError (Option Glob) :=
  let parts := Text.splitOn '/' body
  let segments := collapsed (opened (placed parts))
  if segments.isEmpty then .error (.invalid written)
  else match segments.mapM segment with
    | .error .loneBackslash => .error (.invalid written)
    | .error .openBracket => .ok none
    | .ok segments =>
      match patternOf (parts.getLast? = some []) segments with
      | .ok pattern => .ok (some ⟨wanted, pattern⟩)
      | .error cause => .error (.badBracket cause)

/-- A line without white space at its end, unless that is a space behind a backslash. -/
def trimmed (line : Text) : Text :=
  if ['\\', ' '].isSuffixOf line then line else Text.trimEnd line

/-- The glob of a line; empty lines, remarks and a slash alone have none. -/
def read (line : Text) : Except GlobError (Option Glob) :=
  match trimmed line with
  | [] => .ok none
  | '#' :: _ => .ok none
  | ['/'] => .ok none
  | '!' :: body => ofBody line false body
  | body => ofBody line true body

def readAll (lines : List Text) : Except GlobError (List Glob) :=
  (lines.mapM read).map (·.filterMap id)

def takes (g : Glob) (path : Text) : Bool :=
  (g.pattern.firstWithin path.length false (Cursor.start path)).isSome

/-- Whether a path is wanted: the last glob that takes it decides. -/
def choose (globs : List Glob) (path : Text) : Bool :=
  globs.foldl (fun wanted g => if g.takes path then g.wanted else wanted) false

end Glob
end GrammarKit
