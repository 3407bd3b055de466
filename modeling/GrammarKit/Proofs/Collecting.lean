import GrammarKit.Proofs.CollectedNames
import Mathlib.Data.List.Forall2

/-!
# What is collected

Collecting succeeds step by step: the files that a glob chooses below a directory are read one after
the other, first those of the languages and then, where there is one, the entry point, which comes
first in the result.
-/

namespace GrammarKit

open Text

namespace Logged

variable {ε α β : Type}

theorem bind_eq_ok_iff {x : Logged ε α} {f : α → Logged ε β} {b : β} :
    (x >>= f).result = .ok b ↔ ∃ a, x.result = .ok a ∧ (f a).result = .ok b := by
  constructor
  · exact exists_of_bind_ok
  · rintro ⟨a, hx, hb⟩
    rw [result_bind_ok hx, hb]

theorem result_of (r : Except ε α) : (of r).result = r := rfl

end Logged

namespace FileTree

/-! ### Files that a glob chooses -/

theorem readBlob_eq_ok_iff {t : FileTree} {dir : Path} {encoding name : Text} {b : Blob} :
    t.readBlob dir encoding name = .ok b ↔
      b.name = name ∧ t.readText (dir.join (Path.ofText name)) encoding = .ok b.content := by
  unfold readBlob
  cases t.readText (dir.join (Path.ofText name)) encoding with
  | error e => simp [Except.map]
  | ok text =>
    obtain ⟨bname, content⟩ := b
    simp only [Except.map, Except.ok.injEq, Blob.mk.injEq]
    exact ⟨fun h => ⟨h.1.symm, h.2⟩, fun h => ⟨h.1.symm, h.2⟩⟩

theorem readBlobs_eq_ok_iff {t : FileTree} {dir : Path} {globs : List Text} {encoding : Text}
    {bs : List Blob} :
    t.readBlobs dir globs encoding = .ok bs ↔
      ∃ place read, t.locate dir = .ok place ∧ t.isDirectoryAt place = true ∧
        Glob.readAll globs = .ok read ∧ t.walkFault? dir place = none ∧
        List.Forall₂ (fun name b => t.readBlob dir encoding name = .ok b)
          ((t.fileNames place).filter (Glob.choose read)) bs := by
  unfold readBlobs
  cases hplace : t.locate dir with
  | error fault => simp
  | ok place =>
    by_cases hdir : t.isDirectoryAt place = true
    · cases hread : Glob.readAll globs with
      | error cause => simp [hdir]
      | ok read =>
        cases hwalk : t.walkFault? dir place with
        | some cause => simp [hdir, hwalk]
        | none => simp [hdir, hwalk, mapError_eq_ok_iff, mapM_eq_ok_iff]
    · simp [hdir]

theorem names_of_readBlobs {t : FileTree} {dir : Path} {encoding : Text} {names : List Text}
    {bs : List Blob}
    (h : List.Forall₂ (fun name b => t.readBlob dir encoding name = .ok b) names bs) :
    bs.map (·.name) = names := by
  induction h with
  | nil => rfl
  | cons hb _ ih => rw [List.map_cons, ih, (readBlob_eq_ok_iff.1 hb).1]

theorem text_of_readBlobs {t : FileTree} {dir : Path} {globs : List Text} {encoding : Text}
    {bs : List Blob} (h : t.readBlobs dir globs encoding = .ok bs) {b : Blob} (hb : b ∈ bs) :
    t.readText (dir.join (Path.ofText b.name)) encoding = .ok b.content := by
  obtain ⟨place, name, -, hblob⟩ := exists_readBlob_of_readBlobs h hb
  obtain ⟨rfl, htext⟩ := readBlob_eq_ok_iff.1 hblob
  exact htext

theorem readBlobsLogged_eq_ok_iff {t : FileTree} {dir : Path} {globs : List Text}
    {encoding : Text} {bs : List Blob} :
    (t.readBlobsLogged dir globs encoding).result = .ok bs ↔
      t.readBlobs dir globs encoding = .ok bs := by
  constructor
  · exact readBlobs_of_logged
  · intro h
    refine Logged.bind_eq_ok_iff.2 ⟨bs, h, ?_⟩
    exact Logged.bind_eq_ok_iff.2 ⟨(), rfl, rfl⟩

/-! ### The whole collection -/

/-- The path at which the settings say that the entry point is. -/
def entryPath (src : Path) (s : Settings) : Path := src.join (Path.ofText s.entryPoint)

/-- The files that are collected in the directories of the sources and of the languages. -/
structure Collects (t : FileTree) (s : Settings) (src dir : Path) (entry languages : List Blob) :
    Prop where
  languages : t.readBlobs dir ["/*".toList ++ s.descriptorSuffix] s.encoding = .ok languages
  entry : (t.isFile? (entryPath src s) = .ok true ∧
      t.readBlobs src ['/' :: s.entryPoint] s.encoding = .ok entry) ∨
    (t.isFile? (entryPath src s) = .ok false ∧ entry = [])

theorem Collects.readBlobs_entry {t : FileTree} {s : Settings} {src dir : Path}
    {entry languages : List Blob} (h : t.Collects s src dir entry languages)
    (hfile : t.isFile? (entryPath src s) = .ok true) :
    t.readBlobs src ['/' :: s.entryPoint] s.encoding = .ok entry := by
  rcases h.entry with ⟨-, hread⟩ | ⟨hno, -⟩
  · exact hread
  · rw [hfile] at hno
    cases hno

theorem collect_eq_ok_iff {t : FileTree} {root : Path} {s : Settings} {blobs : List Blob} :
    (t.collect root s).result = .ok blobs ↔
      ∃ dir src entry languages, s.languagesPath root = .ok dir ∧ s.srcPath root = .ok src ∧
        t.Collects s src dir entry languages ∧ blobs = entry ++ languages := by
  simp only [collect, Logged.bind_eq_ok_iff, Logged.result_of, mapError_eq_ok_iff,
    readBlobsLogged_eq_ok_iff]
  constructor
  · rintro ⟨dir, hdir, languages, hlanguages, src, hsrc, isFile, hfile, h⟩
    cases isFile with
    | true =>
      rw [if_pos rfl, Logged.bind_eq_ok_iff] at h
      obtain ⟨entry, hentry, h⟩ := h
      rw [readBlobsLogged_eq_ok_iff] at hentry
      exact ⟨dir, src, entry, languages, hdir, hsrc, ⟨hlanguages, .inl ⟨hfile, hentry⟩⟩,
        (Except.ok.inj h).symm⟩
    | false =>
      rw [if_neg Bool.false_ne_true] at h
      exact ⟨dir, src, [], languages, hdir, hsrc, ⟨hlanguages, .inr ⟨hfile, rfl⟩⟩,
        (Except.ok.inj h).symm⟩
  · rintro ⟨dir, src, entry, languages, hdir, hsrc, ⟨hlanguages, hentry⟩, rfl⟩
    refine ⟨dir, hdir, languages, hlanguages, src, hsrc, ?_⟩
    rcases hentry with ⟨hfile, hentry⟩ | ⟨hfile, rfl⟩
    · refine ⟨true, hfile, ?_⟩
      rw [if_pos rfl, Logged.bind_eq_ok_iff]
      exact ⟨entry, readBlobsLogged_eq_ok_iff.2 hentry, rfl⟩
    · exact ⟨false, hfile, rfl⟩

end FileTree
end GrammarKit
