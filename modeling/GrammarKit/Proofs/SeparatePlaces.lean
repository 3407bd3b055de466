import GrammarKit.Proofs.Collecting
import GrammarKit.Proofs.FilesBelow
import GrammarKit.Proofs.NullFreePaths

/-!
# Files that are put elsewhere

When files are put into a directory and new directories are made on the way to it, the same files stand
below every place that lies apart from this directory. So the same is read there, and a path without
double dots leads to a file if it did before. Two things may change: a long name in a path that leads
nowhere is noticed once the directories before it are there, and a directory that was made on a way
which leads back again may have a path that is too long.
-/

namespace GrammarKit

open Text

/-! ### Where paths lead -/

namespace Path

theorem dots_not_mem_collapse {done parts : List Text} (h : ['.', '.'] ∉ done) :
    ['.', '.'] ∉ collapse done parts := by
  induction parts generalizing done with
  | nil =>
    rw [collapse, List.mem_reverse]
    exact h
  | cons part parts ih =>
    unfold collapse
    split
    · exact ih fun hmem => h (List.mem_of_mem_tail hmem)
    · next hpart => exact ih (List.not_mem_cons_of_ne_of_not_mem (Ne.symm hpart) h)

theorem collapse_sublist (done parts : List Text) :
    (collapse done parts).Sublist (done.reverse ++ parts) := by
  induction parts generalizing done with
  | nil => exact List.sublist_append_left _ _
  | cons part parts ih =>
    unfold collapse
    split
    · refine (ih done.tail).trans (List.Sublist.append ?_ (List.sublist_cons_self part parts))
      exact (List.tail_sublist done).reverse
    · have hrest := ih (part :: done)
      rwa [List.reverse_cons, List.append_assoc, List.singleton_append] at hrest

theorem collapse_of_no_dots {done parts : List Text} (h : ['.', '.'] ∉ parts) :
    collapse done parts = done.reverse ++ parts := by
  induction parts generalizing done with
  | nil => rw [collapse, List.append_nil]
  | cons part parts ih =>
    rw [List.mem_cons, not_or] at h
    rw [collapse, if_neg (Ne.symm h.1), ih h.2, List.reverse_cons, List.append_assoc,
      List.singleton_append]

/-- An absolute path without double dots. -/
structure Resolved (p : Path) : Prop where
  slashes : p.slashes = 1
  noDots : ['.', '.'] ∉ p.parts

theorem Resolved.absolute {p : Path} (h : p.Resolved) : p.isAbsolute = true := by
  rw [isAbsolute, h.slashes]
  rfl

theorem resolved_of_pathBelow {root p : Path} {written : Text}
    (h : Settings.pathBelow root written = .ok p) : p.Resolved := by
  unfold Settings.pathBelow resolve? at h
  split at h
  · cases h
  · rw [← Except.ok.inj h]
    exact ⟨rfl, dots_not_mem_collapse List.not_mem_nil⟩

end Path

/-- Neither of two places is the other or lies below it. -/
def Apart (place other : Place) : Prop := ¬ place <+: other ∧ ¬ other <+: place

instance (place other : Place) : Decidable (Apart place other) :=
  inferInstanceAs (Decidable (_ ∧ _))

theorem Apart.append_ne {place other : Place} (h : Apart place other) (names more : List Text) :
    place ++ names ≠ other ++ more := by
  intro hsame
  have hother : other <+: place ++ names := hsame ▸ List.prefix_append other more
  rcases List.prefix_or_prefix_of_prefix (List.prefix_append place names) hother with hp | hp
  · exact h.1 hp
  · exact h.2 hp

namespace FileTree

/-- Where a path leads if everything on the way is a directory. -/
def target (t : FileTree) (p : Path) : Place :=
  Path.collapse (if p.isAbsolute then [] else t.here).reverse p.parts

theorem eq_collapse_of_walk {t : FileTree} {place last : Place} {names : List Text}
    (h : t.walk place names = .ok last) : last = Path.collapse place.reverse names := by
  induction names generalizing place with
  | nil =>
    rw [Path.collapse, List.reverse_reverse]
    exact (Except.ok.inj h).symm
  | cons name names ih =>
    obtain ⟨-, -, hrest⟩ := walk_cons_eq_ok_iff.1 h
    rw [ih hrest, Path.collapse]
    split
    · rw [← List.tail_reverse]
    · rw [List.reverse_concat]

theorem eq_target_of_follow {t : FileTree} {p : Path} {place : Place}
    (h : t.follow p = .ok place) : place = t.target p := eq_collapse_of_walk h

theorem target_of_resolved {t : FileTree} {p : Path} (h : p.Resolved) : t.target p = p.parts := by
  rw [target, if_pos h.absolute, Path.collapse_of_no_dots h.noDots]
  rfl

theorem locate_of_resolved {t : FileTree} {p : Path} {place : Place} (h : p.Resolved)
    (hplace : t.locate p = .ok place) : place = p.parts :=
  (eq_target_of_follow (follow_of_locate hplace)).trans (target_of_resolved h)

theorem follow_append (t : FileTree) (p : Path) (names : List Text) :
    t.follow ⟨p.slashes, p.parts ++ names⟩ =
      match t.follow p with
      | .ok middle => t.walk middle names
      | .error fault => .error fault := walk_append t _ p.parts names

theorem locate_eq_follow (t : FileTree) (p : Path) :
    t.locate p =
      if p.hasNull then .error .nullCharacter
      else if longestPath < nameSize p.text then .error .tooLong
      else t.follow p := rfl

/-- What has changed are files put directly into the directory to which a path leads, and new
directories on the way along the path. -/
structure PutInto (out : Path) (t u : FileTree) : Prop where
  kept : Extends t u
  elsewhere : ∀ place, (∀ name, place ≠ t.target out ++ [name]) → u.node? place = t.node? place ∨
    (t.node? place = none ∧ u.node? place = some .directory ∧
      ∃ k, u.locate (out.upTo k) = .ok place)

/-! ### Reading what stands apart -/

theorem PutInto.file_iff {t u : FileTree} {place : Place} {out : Path} (hput : PutInto out t u)
    (hapart : Apart place (t.target out)) {names : List Text} {content : Bytes} :
    u.node? (place ++ names) = some (.file content) ↔
      t.node? (place ++ names) = some (.file content) := by
  rcases hput.elsewhere (place ++ names) fun name => hapart.append_ne names [name] with
    hsame | ⟨hnone, hdirectory, -⟩
  · rw [hsame]
  · rw [hnone, hdirectory]
    exact ⟨nofun, nofun⟩

/-- A path too long to be asked for leads to a directory that was made below another one, on the way
along a path that is relative and leads back by double dots. -/
structure MadeTooLong (t u : FileTree) (dir out p : Path) : Prop where
  relative : out.isAbsolute = false
  back : ['.', '.'] ∈ out.parts
  below : ∃ names, names ≠ [] ∧ p = dir.join ⟨0, names⟩
  new : t.node? p.parts = none
  made : u.node? p.parts = some .directory
  long : u.locate p = .error .tooLong

section

variable {t u : FileTree} {out dir p : Path}

/-- Without double dots a way passes only what its end lies below. -/
theorem target_upTo_prefix (hdots : ['.', '.'] ∉ out.parts) (k : Nat) :
    t.target (out.upTo k) <+: t.target out := by
  have htake : ['.', '.'] ∉ (out.upTo k).parts := fun hmem => hdots (List.mem_of_mem_take hmem)
  rw [target, target, Path.collapse_of_no_dots htake, Path.collapse_of_no_dots hdots]
  exact List.prefix_append_right_inj _ |>.2 (List.take_prefix k out.parts)

theorem exists_long_of_walk {t : FileTree} {place : Place} {names : List Text}
    (h : t.walk place names = .error .tooLong) : ∃ name ∈ names, longestName < nameSize name := by
  induction names generalizing place with
  | nil => cases h
  | cons name names ih =>
    unfold walk at h
    split at h
    · cases h
    · cases h
    · split at h
      · next hlong => exact ⟨name, List.mem_cons_self, hlong⟩
      · obtain ⟨other, hother, hlong⟩ := ih h
        exact ⟨other, List.mem_cons_of_mem _ hother, hlong⟩

theorem not_long_of_walk {place last : Place} {names : List Text}
    (h : t.walk place names = .ok last) : ∀ name ∈ names, ¬ longestName < nameSize name := by
  induction names generalizing place with
  | nil => exact nofun
  | cons name names ih =>
    obtain ⟨-, hlong, hrest⟩ := walk_cons_eq_ok_iff.1 h
    exact List.forall_mem_cons.2 ⟨hlong, ih hrest⟩

theorem text_of_absolute {q : Path} (h : q.isAbsolute = true) :
    q.text = List.replicate q.slashes '/' ++ join ['/'] q.parts := by
  unfold Path.text
  split
  · next hslashes _ =>
    rw [Path.isAbsolute, hslashes] at h
    cases h
  · rfl

/-- The path of a place is not too long if an absolute path leads there. -/
theorem locate_ne_tooLong_of_absolute {q : Path} {place : Place} (hp : p.slashes = 1)
    (hparts : p.parts = place) (habsolute : q.isAbsolute = true)
    (hq : u.locate q = .ok place) : u.locate p ≠ .error .tooLong := by
  have hfollow := follow_of_locate hq
  have hsublist : p.parts.Sublist q.parts := by
    have htarget := eq_target_of_follow hfollow
    rw [target, if_pos habsolute] at htarget
    rw [hparts, htarget]
    exact Path.collapse_sublist [] q.parts
  have htext : p.text.Sublist q.text := by
    have hone : 1 ≤ q.slashes := of_decide_eq_true habsolute
    have hpath : p.isAbsolute = true := by
      rw [Path.isAbsolute, hp]
      rfl
    rw [text_of_absolute habsolute, text_of_absolute hpath, hp]
    exact ((List.replicate_sublist_replicate '/').2 hone).append (join_sublist ['/'] hsublist)
  intro hlong
  rw [locate_eq_follow] at hlong hq
  split at hlong
  · cases hlong
  · split at hlong
    · next hsize =>
      have hmore := Nat.lt_of_lt_of_le hsize (nameSize_le_of_sublist htext)
      rw [if_pos hmore] at hq
      split at hq <;> cases hq
    · obtain ⟨name, hname, hsize⟩ := exists_long_of_walk hlong
      exact not_long_of_walk hfollow name (hsublist.subset hname) hsize

theorem walk_below {place : Place} {names : List Text} {node : Node}
    (h : t.node? (place ++ names) = some node) :
    t.walk place names = .ok (place ++ names) ∨ t.walk place names = .error .tooLong := by
  induction names generalizing place with
  | nil => exact .inl (congrArg Except.ok (List.append_nil place).symm)
  | cons name names ih =>
    have hname : isName name = true :=
      List.all_eq_true.1 (all_isName_of_append h) name List.mem_cons_self
    rw [walk, directory_of_below (List.cons_ne_nil name names) h]
    dsimp only
    split
    · exact .inr rfl
    · have hsame := List.append_cons place name names
      rw [hsame] at h ⊢
      rw [if_neg (isName_ne_dots hname)]
      exact ih h

/-- The path of what stands below a directory leads there, unless it is too long. -/
theorem locate_below {place : Place} {names : List Text} {node : Node}
    (hdir : t.locate dir = .ok place) (h : t.node? (place ++ names) = some node)
    (hnull : (dir.join ⟨0, names⟩).hasNull = false) :
    t.locate (dir.join ⟨0, names⟩) = .ok (place ++ names) ∨
      t.locate (dir.join ⟨0, names⟩) = .error .tooLong := by
  have hfollow : t.follow (dir.join ⟨0, names⟩) = t.walk place names := by
    refine (follow_append t dir names).trans ?_
    rw [follow_of_locate hdir]
  rw [locate_eq_follow, hnull, if_neg Bool.false_ne_true, hfollow]
  split
  · exact .inr rfl
  · exact walk_below h

theorem hasNull_of_tooLong (h : u.locate p = .error .tooLong) : p.hasNull = false := by
  rw [← Bool.not_eq_true]
  intro hnull
  rw [locate, if_pos hnull] at h
  cases h

end

/-- What has become too long to be asked for is a directory that was made. -/
theorem PutInto.madeTooLong {t u : FileTree} {out dir p : Path} (hput : PutInto out t u)
    (hresolved : dir.Resolved) (hapart : Apart dir.parts (t.target out))
    (hdir : t.locate dir = .ok dir.parts) (ht : ¬ t.TooLongBelow dir dir.parts p)
    (hu : u.TooLongBelow dir dir.parts p) : MadeTooLong t u dir out p := by
  obtain ⟨names, node, hne, hnode, rfl, hlong⟩ := hu
  rcases hput.elsewhere (dir.parts ++ names) fun name => hapart.append_ne names [name] with
    hsame | ⟨hnone, hmade, k, hk⟩
  · rw [hsame] at hnode
    rcases locate_below hdir hnode (hasNull_of_tooLong hlong) with hplace | hthere
    · rw [locate_of_extends hput.kept hplace] at hlong
      cases hlong
    · exact absurd ⟨names, node, hne, hnode, rfl, hthere⟩ ht
  · refine ⟨?_, ?_, ⟨names, hne, rfl⟩, hnone, hmade, hlong⟩
    · rw [← Bool.not_eq_true]
      intro habsolute
      exact locate_ne_tooLong_of_absolute (p := dir.join ⟨0, names⟩) (q := out.upTo k)
        hresolved.slashes rfl habsolute hk hlong
    · -- otherwise the way would lead to a directory below `dir`
      by_contra hdots
      have hprefix := target_upTo_prefix (t := u) hdots k
      rw [← eq_target_of_follow (follow_of_locate hk)] at hprefix
      have hsame : u.target out = t.target out := by rw [target, target, hput.kept.here]
      rw [hsame] at hprefix
      exact hapart.1 ((List.prefix_append _ _).trans hprefix)

/-- What is read apart from where files are put is read again, unless a directory has been made there
whose path is too long. -/
theorem PutInto.readBlobs {t u : FileTree} {out dir : Path} {globs : List Text}
    {encoding : Text} {bs : List Blob} (hput : PutInto out t u) (hresolved : dir.Resolved)
    (hapart : Apart dir.parts (t.target out)) (h : t.readBlobs dir globs encoding = .ok bs) :
    u.readBlobs dir globs encoding = .ok bs ∨ ∃ p, MadeTooLong t u dir out p ∧
      u.readBlobs dir globs encoding = .error (.path ⟨.tooLong, p⟩) := by
  obtain ⟨place, read, hdir, hdirectory, hread, hwalk, hall⟩ := readBlobs_eq_ok_iff.1 h
  obtain rfl := locate_of_resolved hresolved hdir
  have hlater := locate_of_extends hput.kept hdir
  have hthere : u.isDirectoryAt dir.parts = true :=
    decide_eq_true (hput.kept.directory dir.parts (of_decide_eq_true hdirectory))
  cases hagain : u.walkFault? dir dir.parts with
  | some cause =>
    right
    obtain ⟨p, hlong, rfl⟩ := tooLongBelow_of_walkFault? hagain
    refine ⟨p, hput.madeTooLong hresolved hapart hdir (walkFault?_eq_none_iff.1 hwalk p) hlong, ?_⟩
    simp only [FileTree.readBlobs, hlater, hthere, if_true, hread, hagain]
  | none =>
    left
    have hnames : u.fileNames dir.parts = t.fileNames dir.parts :=
      fileNames_congr fun names => exists_congr fun content => hput.file_iff hapart
    refine readBlobs_eq_ok_iff.2 ⟨dir.parts, read, hlater, hthere, hread, hagain, ?_⟩
    rw [hnames]
    refine ((List.forall₂_and_left _ _).2 ⟨fun name hname => hname, hall⟩).imp ?_
    rintro name b ⟨hname, hb⟩
    obtain ⟨hbname, htext⟩ := readBlob_eq_ok_iff.1 hb
    obtain ⟨-, content, -, hcontent, -⟩ := readText_eq_ok_iff.1 htext
    obtain ⟨last, hlast, hnode⟩ := find_eq_ok_iff.1 hcontent
    -- the path is one that was listed, so it leads to a place below the directory
    obtain ⟨names, hne, ⟨_, hlisted⟩, rfl⟩ := mem_fileNames_iff.1 (List.mem_of_mem_filter hname)
    obtain rfl := place_of_listed hdir hne (all_isName_of_append hlisted) hlast
    have hsame : u.node? (dir.parts ++ names) = t.node? (dir.parts ++ names) := by
      rw [hnode, hput.file_iff hapart, hnode]
    rw [readBlob_eq_ok_iff, readText_congr (find_of_extends hput.kept hlast hsame)]
    exact ⟨hbname, htext⟩

/-! ### Looking for a file -/

theorem walk_of_node {t u : FileTree} {place last : Place} {names : List Text} {node : Node}
    (hdots : ['.', '.'] ∉ names) (hu : u.walk place names = .ok last)
    (hnode : t.node? last = some node) : t.walk place names = .ok last := by
  induction names generalizing place with
  | nil => exact hu
  | cons name names ih =>
    have hlast := walk_of_no_dots hdots hu
    rw [List.mem_cons, not_or] at hdots
    obtain ⟨-, hlong, hrest⟩ := walk_cons_eq_ok_iff.1 hu
    have hdirectory : t.node? place = some .directory :=
      directory_of_below (List.cons_ne_nil name names) (hlast ▸ hnode)
    exact walk_cons_eq_ok_iff.2 ⟨hdirectory, hlong, ih hdots.2 hrest⟩

/-- A place that has a node in the first tree is reached there if it is reached in the second. -/
theorem locate_of_node {t u : FileTree} {p : Path} {place : Place} {node : Node} (hp : p.Resolved)
    (hu : u.locate p = .ok place) (hnode : t.node? place = some node) :
    t.locate p = .ok place := by
  have hwalk := follow_of_locate hu
  rw [follow, if_pos hp.absolute] at hwalk
  unfold locate at hu ⊢
  split at hu
  · cases hu
  · next hnull =>
    split at hu
    · cases hu
    · next hlong =>
      rw [if_neg hnull, if_neg hlong, if_pos hp.absolute]
      exact walk_of_node hp.noDots hwalk hnode

/-- A path that is too long in one tree and not in another has a long name in it. -/
theorem exists_long_of_locate {t u : FileTree} {p : Path} (ht : t.locate p ≠ .error .tooLong)
    (hu : u.locate p = .error .tooLong) : ∃ name ∈ p.parts, longestName < nameSize name := by
  unfold locate at ht hu
  split at hu
  · cases hu
  · next hnull =>
    split at hu
    · next hlong =>
      rw [if_neg hnull, if_pos hlong] at ht
      exact absurd rfl ht
    · exact exists_long_of_walk hu

section

variable {t u : FileTree} {src : Path} {name : Text} (hslash : '/' ∉ name)
include hslash

/-- A single name is looked for in a directory that is there as it was before. -/
theorem locate_join_of_directory (hkept : Extends t u) (hsrc : t.isDirectory src = true) :
    u.locate (src.join (Path.ofText name)) = t.locate (src.join (Path.ofText name)) := by
  obtain ⟨place, hplace, hdirectory⟩ := isDirectory_eq_true_iff.1 hsrc
  have hnode : t.node? place = some .directory := of_decide_eq_true hdirectory
  have hrest : u.walk place ([name].filter Path.isPart) =
      t.walk place ([name].filter Path.isPart) := by
    by_cases hpart : Path.isPart name = true
    · rw [List.filter_cons_of_pos hpart, List.filter_nil]
      simp only [walk, hnode, hkept.directory place hnode]
    · rw [List.filter_cons_of_neg hpart, List.filter_nil]
      rfl
  have hfollow : u.follow ⟨src.slashes, src.parts ++ [name].filter Path.isPart⟩ =
      t.follow ⟨src.slashes, src.parts ++ [name].filter Path.isPart⟩ := by
    rw [follow_append, follow_append, follow_of_locate (locate_of_extends hkept hplace),
      follow_of_locate hplace]
    exact hrest
  rw [join_ofText_of_no_slash src hslash, locate_eq_follow, locate_eq_follow, hfollow]

/-- Double dots lead to no file. -/
theorem resolved_of_isFile (hsrc : src.Resolved)
    (h : t.isFile? (src.join (Path.ofText name)) = .ok true) :
    (src.join (Path.ofText name)).Resolved ∧
      (src.join (Path.ofText name)).parts = src.parts ++ [name].filter Path.isPart := by
  obtain ⟨last, content, hlast, hcontent⟩ := isFile_eq_true_iff.1 h
  rw [join_ofText_of_no_slash src hslash] at hlast ⊢
  refine ⟨⟨hsrc.slashes, ?_⟩, rfl⟩
  intro hdots
  rcases List.mem_append.1 hdots with hdots | hdots
  · exact hsrc.noDots hdots
  · obtain ⟨hname, hpart⟩ := List.mem_filter.1 hdots
    obtain rfl := List.mem_singleton.1 hname
    have hwalk := follow_of_locate hlast
    rw [List.filter_cons_of_pos hpart, List.filter_nil, follow_append] at hwalk
    split at hwalk
    · rw [directory_of_walk_dots hwalk] at hcontent
      cases hcontent
    · cases hwalk

theorem PutInto.isFile_iff {out : Path} (hput : PutInto out t u)
    (hapart : Apart src.parts (t.target out))
    (hsrc : src.Resolved) :
    u.isFile? (src.join (Path.ofText name)) = .ok true ↔
      t.isFile? (src.join (Path.ofText name)) = .ok true := by
  constructor
  · intro hu
    obtain ⟨hresolved, hparts⟩ := resolved_of_isFile hslash hsrc hu
    obtain ⟨place, content, hplace, hnode⟩ := isFile_eq_true_iff.1 hu
    have hend := (locate_of_resolved hresolved hplace).trans hparts
    have hstood : t.node? place = some (.file content) := by
      rw [hend] at hnode ⊢
      exact (hput.file_iff hapart).1 hnode
    exact isFile_eq_true_iff.2 ⟨place, content, locate_of_node hresolved hplace hstood, hstood⟩
  · intro ht
    obtain ⟨hresolved, hparts⟩ := resolved_of_isFile hslash hsrc ht
    obtain ⟨place, content, hplace, hnode⟩ := isFile_eq_true_iff.1 ht
    have hend := (locate_of_resolved hresolved hplace).trans hparts
    rw [hend] at hnode hplace
    exact isFile_eq_true_iff.2 ⟨_, content, locate_of_extends hput.kept hplace,
      (hput.file_iff hapart).2 hnode⟩

/-- Whether a single name is that of a file is answered as before, unless its directory was not there
and a name is found to be too long. -/
theorem PutInto.isFile_later {out : Path} {found : Bool} (hput : PutInto out t u)
    (hapart : Apart src.parts (t.target out)) (hsrc : src.Resolved)
    (ht : t.isFile? (src.join (Path.ofText name)) = .ok found) :
    u.isFile? (src.join (Path.ofText name)) = .ok found ∨
      t.isDirectory src = false ∧
        (∃ part ∈ (src.join (Path.ofText name)).parts, longestName < nameSize part) ∧
        u.isFile? (src.join (Path.ofText name)) =
          .error ⟨.tooLong, src.join (Path.ofText name)⟩ := by
  cases hu : u.isFile? (src.join (Path.ofText name)) with
  | ok answer =>
    left
    have hsame : answer = true ↔ found = true := by
      simpa only [ht, hu, Except.ok.injEq] using hput.isFile_iff hslash hapart hsrc
    rw [Bool.eq_iff_iff.2 hsame]
  | error cause =>
    right
    obtain ⟨hlong, rfl⟩ := isFile_eq_error_iff.1 hu
    have hshort : t.locate (src.join (Path.ofText name)) ≠ .error .tooLong := by
      intro hlocate
      rw [isFile_eq_error_iff.2 ⟨hlocate, rfl⟩] at ht
      cases ht
    refine ⟨?_, exists_long_of_locate hshort hlong, rfl⟩
    rw [← Bool.not_eq_true]
    intro hdirectory
    rw [locate_join_of_directory hslash hput.kept hdirectory] at hlong
    exact hshort hlong

end

end FileTree
end GrammarKit
