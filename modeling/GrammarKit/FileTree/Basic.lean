import GrammarKit.Encoding.Basic
import GrammarKit.FileTree.Path
import GrammarKit.OrderedMap
import GrammarKit.Text.Quoted

/-!
# File trees

Directories and files, each at a place below the root. The place in front of it is always a
directory, so a tree has no loose ends. A path is followed from the root or, if it is relative, from
the directory in which work is done; every place on the way has to be a directory.
-/

namespace GrammarKit

/-- Where a file or a directory stands: the names that lead to it from the root. -/
abbrev Place := List Text

/-- What can stand at a place: a file that can be read and written, or a directory that can be entered.
Links and devices are left out, and so are permissions. -/
inductive Node where
  | file (content : Bytes)
  | directory
  deriving DecidableEq, Repr

def isName (t : Text) : Bool := !t.isEmpty && !t.contains '/' && t != ['.'] && t != ['.', '.']

/-- What stands at a place; at the root there is always a directory. -/
def nodeAt (nodes : OrderedMap Place Node) (place : Place) : Option Node :=
  if place = [] then some .directory else nodes.get? place

structure FileTree where
  /-- What stands where, in the order in which it came. -/
  nodes : OrderedMap Place Node
  here : Place
  named : ∀ place ∈ nodes.keys, place ≠ [] ∧ place.all isName
  rooted : ∀ place ∈ nodes.keys, nodeAt nodes place.dropLast = some .directory

inductive FileFault where
  /-- There is nothing at the end of the path, or on the way. -/
  | missing
  /-- Something stands there already. -/
  | occupied
  | notDirectory
  | isDirectory
  /-- The path, or a name in it, is too long. -/
  | tooLong
  | nullCharacter
  deriving DecidableEq, Repr

def FileFault.message : FileFault → Text
  | .missing => "[Errno 2] No such file or directory".toList
  | .occupied => "[Errno 17] File exists".toList
  | .notDirectory => "[Errno 20] Not a directory".toList
  | .isDirectory => "[Errno 21] Is a directory".toList
  | .tooLong => "[Errno 36] File name too long".toList
  | .nullCharacter => "embedded null byte".toList

/-- Whether a fault in following a path only means that nothing is there. -/
def FileFault.isAbsence : FileFault → Bool
  | .tooLong => false
  | _ => true

structure FileError where
  fault : FileFault
  path : Path
  deriving DecidableEq, Repr

/-- An error as it is reported; a path with a null character is not shown. -/
def FileError.message (e : FileError) : Text :=
  if e.fault = .nullCharacter then e.fault.message
  else e.fault.message ++ ": ".toList ++ Text.quoted e.path.text

/-- The path `p` without double dots, unless it has a null character in it. -/
def Path.resolve? (p : Path) : Except FileError Path :=
  if p.hasNull then .error ⟨.nullCharacter, p⟩ else .ok p.resolve

namespace FileTree

def empty : FileTree where
  nodes := .empty
  here := []
  named := by simp [OrderedMap.keys, OrderedMap.empty]
  rooted := by simp [OrderedMap.keys, OrderedMap.empty]

def node? (t : FileTree) (place : Place) : Option Node := nodeAt t.nodes place

theorem node?_root (t : FileTree) : t.node? [] = some .directory := rfl

/-! ### Putting and erasing -/

/-- A place at which a node can be put: something new below a directory, or a file that is
replaced. -/
def Free (t : FileTree) (place : Place) : Prop :=
  place ≠ [] ∧ place.all isName ∧ t.node? place.dropLast = some .directory ∧
    t.node? place ≠ some .directory

instance (t : FileTree) (place : Place) : Decidable (t.Free place) :=
  inferInstanceAs (Decidable (_ ∧ _ ∧ _ ∧ _))

theorem dropLast_ne_self {place : Place} (h : place ≠ []) : place.dropLast ≠ place := by
  intro he
  have := congrArg List.length he
  rw [List.length_dropLast] at this
  have := List.length_pos_iff.2 h
  omega

theorem nodeAt_insert_of_ne {nodes : OrderedMap Place Node} {place other : Place} {node : Node}
    (h : other ≠ place) : nodeAt (nodes.insert place node) other = nodeAt nodes other := by
  simp [nodeAt, OrderedMap.get?_insert, h]

/-- Puts a node at a free place; elsewhere nothing can be put. -/
def put (t : FileTree) (place : Place) (node : Node) : FileTree :=
  if h : t.Free place then
    { nodes := t.nodes.insert place node
      here := t.here
      named := by
        intro other hmem
        rw [OrderedMap.mem_keys_iff, OrderedMap.get?_insert] at hmem
        by_cases he : other = place
        · exact he ▸ ⟨h.1, h.2.1⟩
        · rw [if_neg he, ← OrderedMap.mem_keys_iff] at hmem
          exact t.named other hmem
      rooted := by
        intro other hmem
        rw [OrderedMap.mem_keys_iff, OrderedMap.get?_insert] at hmem
        by_cases he : other = place
        · rw [he, nodeAt_insert_of_ne (dropLast_ne_self h.1)]
          exact h.2.2.1
        · rw [if_neg he, ← OrderedMap.mem_keys_iff] at hmem
          have hdir := t.rooted other hmem
          rw [nodeAt_insert_of_ne, hdir]
          exact fun hp => h.2.2.2 (hp ▸ hdir) }
  else t

theorem node?_put {t : FileTree} {place : Place} (h : t.Free place) (node : Node) (other : Place) :
    (t.put place node).node? other = if other = place then some node else t.node? other := by
  rw [put, dif_pos h]
  by_cases he : other = place
  · rw [if_pos he, he]
    simp [node?, nodeAt, OrderedMap.get?_insert, h.1]
  · rw [if_neg he]
    exact nodeAt_insert_of_ne he

/-- Takes away whatever stands at a place or below it. -/
def erase (t : FileTree) (place : Place) : FileTree where
  nodes := t.nodes.filterKeys fun other => !place.isPrefixOf other
  here := t.here
  named := by
    intro other hmem
    rw [OrderedMap.mem_keys_iff, OrderedMap.get?_filterKeys] at hmem
    split at hmem
    · exact t.named other ((OrderedMap.mem_keys_iff _ _).2 hmem)
    · simp at hmem
  rooted := by
    intro other hmem
    rw [OrderedMap.mem_keys_iff, OrderedMap.get?_filterKeys] at hmem
    split at hmem
    · next hkeep =>
      have hdir := t.rooted other ((OrderedMap.mem_keys_iff _ _).2 hmem)
      unfold nodeAt at hdir ⊢
      split
      · rfl
      · next hne =>
        rw [if_neg hne] at hdir
        rw [OrderedMap.get?_filterKeys, if_pos, hdir]
        simp only [Bool.not_eq_true', Bool.eq_false_iff, ne_eq, List.isPrefixOf_iff_prefix] at hkeep ⊢
        exact fun hp => hkeep (hp.trans (List.dropLast_prefix other))
    · simp at hmem

/-! ### Following paths -/

def isDirectoryAt (t : FileTree) (place : Place) : Bool := t.node? place = some .directory

def longestName : Nat := 255

def longestPath : Nat := 4095

/-- The number of bytes of a text in a name or a path. -/
def nameSize (t : Text) : Nat := (t.map Char.utf8Size).foldr (· + ·) 0

/-- The place to which names lead from another place, which like all on the way has to be a
directory; double dots lead back. -/
def walk (t : FileTree) (place : Place) : List Text → Except FileFault Place
  | [] => .ok place
  | name :: names =>
    match t.node? place with
    | none => .error .missing
    | some (.file _) => .error .notDirectory
    | some .directory =>
      if longestName < nameSize name then .error .tooLong
      else walk t (if name = ['.', '.'] then place.dropLast else place ++ [name]) names

def locate (t : FileTree) (p : Path) : Except FileFault Place :=
  if p.hasNull then .error .nullCharacter
  else if longestPath < nameSize p.text then .error .tooLong
  else t.walk (if p.isAbsolute then [] else t.here) p.parts

def find (t : FileTree) (p : Path) : Except FileFault Node :=
  match t.locate p with
  | .error fault => .error fault
  | .ok place =>
    match t.node? place with
    | some node => .ok node
    | none => .error .missing

/-- Whether a path leads to a file; a path that is too long leads nowhere. -/
def isFile? (t : FileTree) (p : Path) : Except FileError Bool :=
  match t.find p with
  | .ok (.file _) => .ok true
  | .ok .directory => .ok false
  | .error fault => if fault.isAbsence then .ok false else .error ⟨fault, p⟩

def isDirectory (t : FileTree) (p : Path) : Bool :=
  match t.find p with
  | .ok .directory => true
  | _ => false

/-! ### Reading and writing -/

def readFile (t : FileTree) (p : Path) : Except FileError Bytes :=
  match t.find p with
  | .ok (.file content) => .ok content
  | .ok .directory => .error ⟨.isDirectory, p⟩
  | .error fault => .error ⟨fault, p⟩

/-- Gives a file a content; a file that is not there is made. -/
def writeFile (t : FileTree) (p : Path) (content : Bytes) : Except FileError FileTree :=
  match t.locate p with
  | .error fault => .error ⟨fault, p⟩
  | .ok place =>
    if t.isDirectoryAt place then .error ⟨.isDirectory, p⟩ else .ok (t.put place (.file content))

/-- Makes a directory if nothing stands there. -/
def makeDirectory (t : FileTree) (p : Path) : Except FileFault FileTree :=
  match t.locate p with
  | .error fault => .error fault
  | .ok place =>
    match t.node? place with
    | some _ => .error .occupied
    | none => .ok (t.put place .directory)

/-- Makes a directory unless there is one. -/
def ensureDirectory (t : FileTree) (p : Path) : FileTree × Except FileError Unit :=
  match t.makeDirectory p with
  | .ok later => (later, .ok ())
  | .error fault => (t, if t.isDirectory p then .ok () else .error ⟨fault, p⟩)

/-- Makes the directory at the end of the first parts of a path and, where one is missing on the
way, those before it. -/
def makeFirst (t : FileTree) (p : Path) : Nat → FileTree × Except FileError Unit
  | 0 => t.ensureDirectory (p.upTo 0)
  | n + 1 =>
    match t.makeDirectory (p.upTo (n + 1)) with
    | .error .missing =>
      match makeFirst t p n with
      | (later, .ok ()) => later.ensureDirectory (p.upTo (n + 1))
      | failed => failed
    | _ => t.ensureDirectory (p.upTo (n + 1))

/-- Makes a directory and those before it, unless they are there. -/
def makeDirectories (t : FileTree) (p : Path) : FileTree × Except FileError Unit :=
  t.makeFirst p p.parts.length

/-- Takes away a file, or a directory with all that is in it. -/
def remove (t : FileTree) (p : Path) : Except FileError FileTree :=
  match t.locate p with
  | .error fault => .error ⟨fault, p⟩
  | .ok place => if (t.node? place).isSome then .ok (t.erase place) else .error ⟨.missing, p⟩

/-! ### Listing -/

/-- All that stands below a place, as seen from there. -/
def below (t : FileTree) (place : Place) : List (Place × Node) :=
  t.nodes.entries.filterMap fun (other, node) =>
    match place.isPrefixOf? other with
    | some (name :: names) => some (name :: names, node)
    | _ => none

/-- The files at any depth below a place, as seen from there. -/
def filesBelow (t : FileTree) (place : Place) : List Place :=
  (t.below place).filterMap fun
    | (other, .file _) => some other
    | _ => none

/-- The names of all that stands directly in a directory, the latest first. -/
def namesIn (t : FileTree) (place : Place) : List Text :=
  ((t.below place).filterMap fun
    | ([name], _) => some name
    | _ => none).reverse

/-- What stands in a tree that stood otherwise in an earlier one, or did not stand there. -/
def changesSince (t earlier : FileTree) : List (Place × Node) :=
  t.nodes.entries.filter fun (place, node) => earlier.node? place != some node

end FileTree
end GrammarKit
