import GrammarKit.Text.Basic

/-!
# Paths

Paths with slashes between their parts. A path is absolute if it starts with a slash; exactly two
slashes at the start are kept apart from one. Empty parts and single dots mean nothing and are
dropped, double dots are kept until the path is resolved.
-/

namespace GrammarKit

structure Path where
  /-- The number of slashes at the start, at most two. -/
  slashes : Nat
  parts : List Text
  deriving DecidableEq, Repr

namespace Path

def isPart (t : Text) : Bool := !t.isEmpty && t != ['.']

def leadingSlashes : Text → Nat
  | '/' :: '/' :: '/' :: _ => 1
  | '/' :: '/' :: _ => 2
  | '/' :: _ => 1
  | _ => 0

def ofText (t : Text) : Path := ⟨leadingSlashes t, (Text.splitOn '/' t).filter isPart⟩

/-- A path as text; the path without parts is a dot. -/
def text (p : Path) : Text :=
  match p.slashes, p.parts with
  | 0, [] => ['.']
  | n, parts => List.replicate n '/' ++ Text.join ['/'] parts

/-- The last part; empty if there is none. -/
def name (p : Path) : Text := p.parts.getLastD []

def isAbsolute (p : Path) : Bool := 0 < p.slashes

/-- A path seen from another one; an absolute path stays as it is. -/
def join (p q : Path) : Path := if q.isAbsolute then q else ⟨p.slashes, p.parts ++ q.parts⟩

def child (p : Path) (part : Text) : Path := ⟨p.slashes, p.parts ++ [part]⟩

/-- The path without its last part. -/
def parent (p : Path) : Path := ⟨p.slashes, p.parts.dropLast⟩

/-- The path made of the first parts of a path. -/
def upTo (p : Path) (n : Nat) : Path := ⟨p.slashes, p.parts.take n⟩

/-- Parts read from the left, each double dot taking back the part before it. -/
def collapse : List Text → List Text → List Text
  | done, [] => done.reverse
  | done, part :: rest => if part = ['.', '.'] then collapse done.tail rest else collapse (part :: done) rest

/-- Whether a part of a path has a null character in it. -/
def hasNull (p : Path) : Bool := p.parts.any fun part => part.contains '\x00'

/-- An absolute path without double dots. -/
def resolve (p : Path) : Path := ⟨1, collapse [] p.parts⟩

/-- The last part of a path given as text. -/
def baseName (t : Text) : Text := (ofText t).name

end Path
end GrammarKit
