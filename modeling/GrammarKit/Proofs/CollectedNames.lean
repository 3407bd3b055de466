import GrammarKit.Proofs.Pieces
import GrammarKit.Proofs.Results
import GrammarKit.Selection.Collect
import Mathlib.Data.List.Basic

/-!
# Names of collected files

Whatever is collected was found in the tree below some directory, so the last part of its path is a
name under which a file can stand in any other directory.
-/

namespace GrammarKit

open Text

theorem Logged.exists_of_bind_ok {ε α β : Type} {x : Logged ε α} {f : α → Logged ε β} {b : β}
    (h : (x >>= f).result = .ok b) : ∃ a, x.result = .ok a ∧ (f a).result = .ok b := by
  cases hx : x.result with
  | error e =>
    rw [result_bind_error hx] at h
    cases h
  | ok a =>
    rw [result_bind_ok hx] at h
    exact ⟨a, rfl, h⟩

namespace FileTree

/-! ### Paths of files -/

theorem names_of_mem_below {t : FileTree} {place other : Place} {node : Node}
    (h : (other, node) ∈ t.below place) : other ≠ [] ∧ other.all isName = true := by
  obtain ⟨⟨whole, n⟩, hmem, he⟩ := List.mem_filterMap.1 h
  dsimp only at he
  split at he
  · next name names hstripped =>
    have hwhole : place ++ (name :: names) = whole :=
      List.isPrefixOf?_eq_some_iff_append_eq.1 hstripped
    have hkey : whole ∈ t.nodes.keys := List.mem_map.2 ⟨(whole, n), hmem, rfl⟩
    have hall := (t.named whole hkey).2
    rw [← hwhole, List.all_append, Bool.and_eq_true] at hall
    rw [← (Prod.mk.inj (Option.some.inj he)).1]
    exact ⟨by simp, hall.2⟩
  · cases he

theorem exists_place_of_fileName {t : FileTree} {place : Place} {name : Text}
    (h : name ∈ t.fileNames place) :
    ∃ names : Place, names ≠ [] ∧ names.all isName = true ∧ name = join ['/'] names := by
  have hperm := sortBy_perm before ((t.filesBelow place).map (join ['/']))
  obtain ⟨names, hnames, rfl⟩ := List.mem_map.1 (hperm.mem_iff.1 h)
  obtain ⟨⟨other, node⟩, hbelow, he⟩ := List.mem_filterMap.1 hnames
  cases node with
  | directory => cases he
  | file content =>
    obtain ⟨hne, hall⟩ := names_of_mem_below hbelow
    rw [← Option.some.inj he]
    exact ⟨other, hne, hall, rfl⟩

end FileTree

theorem isName_slash {name : Text} (h : isName name = true) : '/' ∉ name := by
  intro hslash
  simp [isName, hslash] at h

theorem isPart_of_isName {name : Text} (h : isName name = true) : Path.isPart name = true := by
  simp only [isName, Bool.and_eq_true] at h
  rw [Path.isPart, h.1.1.1, h.1.2]
  rfl

theorem parts_ofText_join {names : Place} (hne : names ≠ []) (hall : names.all isName = true) :
    (Path.ofText (join ['/'] names)).parts = names := by
  have hname : ∀ name ∈ names, isName name = true := List.all_eq_true.1 hall
  obtain ⟨first, later, rfl⟩ := List.exists_cons_of_ne_nil hne
  have hsplit : splitOn '/' (join ['/'] (first :: later)) = first :: later.map (([] : Text) ++ ·) :=
    splitOn_join (by simp) first fun name hmem => isName_slash (hname name hmem)
  have hself : later.map (([] : Text) ++ ·) = later := List.map_id later
  rw [Path.ofText, hsplit, hself, List.filter_eq_self]
  exact fun name hmem => isPart_of_isName (hname name hmem)

theorem isName_baseName_join {names : Place} (hne : names ≠ []) (hall : names.all isName = true) :
    isName (Path.baseName (join ['/'] names)) = true := by
  rw [Path.baseName, Path.name, parts_ofText_join hne hall, List.getLastD_eq_getLast?,
    List.getLast?_eq_some_getLast hne, Option.getD_some]
  exact List.all_eq_true.1 hall _ (List.getLast_mem hne)

/-! ### Collected files -/

namespace FileTree

theorem name_of_readBlob {t : FileTree} {dir : Path} {encoding name : Text} {b : Blob}
    (h : t.readBlob dir encoding name = .ok b) : b.name = name := by
  unfold readBlob at h
  cases htext : t.readText (dir.join (Path.ofText name)) encoding with
  | error e =>
    rw [htext] at h
    cases h
  | ok text =>
    rw [htext] at h
    rw [← Except.ok.inj h]

theorem exists_readBlob_of_readBlobs {t : FileTree} {dir : Path} {globs : List Text}
    {encoding : Text} {bs : List Blob} (h : t.readBlobs dir globs encoding = .ok bs) {b : Blob}
    (hb : b ∈ bs) :
    ∃ place, ∃ name ∈ t.fileNames place, t.readBlob dir encoding name = .ok b := by
  unfold readBlobs at h
  split at h
  · cases h
  · next place hplace =>
    split at h
    · split at h
      · cases h
      · split at h
        · cases h
        · next read hread _ hwalk =>
          cases hall : ((t.fileNames place).filter (Glob.choose read)).mapM
            (t.readBlob dir encoding) with
          | error e =>
            rw [hall] at h
            cases h
          | ok blobs =>
            rw [hall] at h
            rw [← Except.ok.inj h] at hb
            obtain ⟨name, hname, hblob⟩ := exists_of_mem_mapM hall hb
            exact ⟨place, name, (List.mem_filter.1 hname).1, hblob⟩
    · cases h

theorem readBlobs_of_logged {t : FileTree} {dir : Path} {globs : List Text} {encoding : Text}
    {bs : List Blob} (h : (t.readBlobsLogged dir globs encoding).result = .ok bs) :
    t.readBlobs dir globs encoding = .ok bs := by
  obtain ⟨blobs, hread, hrest⟩ := Logged.exists_of_bind_ok h
  obtain ⟨-, -, hpure⟩ := Logged.exists_of_bind_ok hrest
  rw [← Except.ok.inj hpure]
  exact hread

/-- Every collected file was read under a name that the tree has below some place. -/
theorem exists_readBlob_of_collect {t : FileTree} {root : Path} {s : Settings} {bs : List Blob}
    (h : (t.collect root s).result = .ok bs) {b : Blob} (hb : b ∈ bs) :
    ∃ dir place, ∃ name ∈ t.fileNames place, t.readBlob dir s.encoding name = .ok b := by
  obtain ⟨languagesDir, -, h⟩ := Logged.exists_of_bind_ok h
  obtain ⟨languages, hlanguages, h⟩ := Logged.exists_of_bind_ok h
  obtain ⟨srcDir, -, h⟩ := Logged.exists_of_bind_ok h
  obtain ⟨isFile, -, h⟩ := Logged.exists_of_bind_ok h
  have hrest : b ∈ languages → ∃ dir place, ∃ name ∈ t.fileNames place,
      t.readBlob dir s.encoding name = .ok b :=
    fun hmem => ⟨languagesDir, exists_readBlob_of_readBlobs (readBlobs_of_logged hlanguages) hmem⟩
  split at h
  · obtain ⟨entry, hentry, h⟩ := Logged.exists_of_bind_ok h
    rw [← Except.ok.inj h] at hb
    rcases List.mem_append.1 hb with hb | hb
    · exact ⟨srcDir, exists_readBlob_of_readBlobs (readBlobs_of_logged hentry) hb⟩
    · exact hrest hb
  · rw [← Except.ok.inj h] at hb
    exact hrest hb

theorem isName_of_collect {t : FileTree} {root : Path} {s : Settings} {bs : List Blob}
    (h : (t.collect root s).result = .ok bs) :
    ∀ b ∈ bs, isName (Path.baseName b.name) = true := by
  intro b hb
  obtain ⟨dir, place, name, hname, hblob⟩ := exists_readBlob_of_collect h hb
  obtain ⟨names, hne, hall, rfl⟩ := exists_place_of_fileName hname
  rw [name_of_readBlob hblob]
  exact isName_baseName_join hne hall

end FileTree
end GrammarKit
