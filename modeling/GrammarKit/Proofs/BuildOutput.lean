import GrammarKit.Build
import GrammarKit.Proofs.CollectedNames
import GrammarKit.Proofs.TreeChanges
import Mathlib.Data.List.Nodup

/-!
# What a build leaves behind

The files of a build go into one directory under names of which no two are equal. So no file is
written over by a later one, and apart from these files and from directories on the way to them the
tree is as it was.
-/

namespace GrammarKit.Build

open Text

/-- The path to which a file is written. -/
def outputPath (out : Path) (b : Blob) : Path := out.child (outputName b)

/-- In the tree, the file of `b` has the transformed text, and the report has its sizes. -/
def Written (u : FileTree) (out : Path) (encoding : Text) (o : BuildOptions) (b : Blob)
    (file : BuiltFile) : Prop :=
  ∃ text bytes bytesRead, transform o.strip o.shorten o.table b.content = .ok text ∧
    encodeAs encoding text = .ok bytes ∧ encodeAs encoding b.content = .ok bytesRead ∧
    u.find (outputPath out b) = .ok (.file bytes) ∧
    file = ⟨b.name, (outputPath out b).text, bytesRead.length, bytes.length⟩

/-! ### One file -/

theorem describe_ok {target : Path} {encoding text : Text} {b : Blob} {file : BuiltFile}
    {bytes : Bytes} (hbytes : encodeAs encoding text = .ok bytes)
    (h : describe target encoding b text = .ok file) :
    ∃ bytesRead, encodeAs encoding b.content = .ok bytesRead ∧
      file = ⟨b.name, target.text, bytesRead.length, bytes.length⟩ := by
  unfold describe at h
  cases hread : encodeAs encoding b.content with
  | error e =>
    rw [hread] at h
    cases h
  | ok bytesRead =>
    rw [hread, hbytes] at h
    exact ⟨bytesRead, rfl, (Except.ok.inj h).symm⟩

theorem writeBlob_ok {t u : FileTree} {out : Path} {encoding : Text} {o : BuildOptions} {b : Blob}
    {file : BuiltFile} (hname : isName (outputName b) = true)
    (h : writeBlob t out encoding o b = (u, .ok file)) :
    Written u out encoding o b file ∧ ∃ bytes, FileTree.Wrote t (outputPath out b) bytes u := by
  unfold writeBlob at h
  split at h
  · cases h
  · next text htext =>
    dsimp only at h
    split at h
    · cases h
    · next later hwrite =>
      obtain ⟨rfl, hfile⟩ := Prod.mk.inj h
      obtain ⟨bytes, hbytes, hput⟩ := FileTree.writeFile_of_writeText hwrite
      have hwrote := FileTree.wrote_of_writeFile hname hput
      cases hdescribe : describe (out.child (outputName b)) encoding b text with
      | error e =>
        rw [hdescribe] at hfile
        cases hfile
      | ok described =>
        rw [hdescribe] at hfile
        obtain ⟨bytesRead, hread, hdescribed⟩ := describe_ok hbytes hdescribe
        rw [← Except.ok.inj hfile]
        exact ⟨⟨text, bytes, bytesRead, htext, hbytes, hread, hwrote.found, hdescribed⟩, bytes,
          hwrote⟩

/-! ### One file after the other -/

theorem Written.of_find {t u : FileTree} {out : Path} {encoding : Text} {o : BuildOptions}
    {b : Blob} {file : BuiltFile} (h : Written t out encoding o b file)
    (hfind : u.find (outputPath out b) = t.find (outputPath out b)) :
    Written u out encoding o b file := by
  obtain ⟨text, bytes, bytesRead, htext, hbytes, hread, hfound, hfile⟩ := h
  exact ⟨text, bytes, bytesRead, htext, hbytes, hread, hfind.trans hfound, hfile⟩

/-- Two output paths that lead to one place have one name. -/
theorem outputName_of_locate {t : FileTree} {out : Path} {b c : Blob} {place : Place}
    (hb : isName (outputName b) = true) (hc : isName (outputName c) = true)
    (hplace : t.locate (outputPath out b) = .ok place)
    (hother : t.locate (outputPath out c) = .ok place) : outputName b = outputName c := by
  obtain ⟨dir, -, -, hend⟩ := FileTree.follow_child hb (FileTree.follow_of_locate hplace)
  obtain ⟨dir', -, -, hend'⟩ := FileTree.follow_child hc (FileTree.follow_of_locate hother)
  have hlast := (List.append_inj' (hend.symm.trans hend') rfl).2
  exact List.singleton_inj.1 hlast

theorem writeAll_ok {t u : FileTree} {out : Path} {encoding : Text} {o : BuildOptions}
    {bs : List Blob} {files : List BuiltFile} (hnames : ∀ b ∈ bs, isName (outputName b) = true)
    (hnodup : (bs.map outputName).Nodup) (h : writeAll t out encoding o bs = (u, .ok files)) :
    FileTree.Extends t u ∧ List.Forall₂ (Written u out encoding o) bs files ∧
      ∀ place, (∀ b ∈ bs, u.locate (outputPath out b) ≠ .ok place) →
        u.node? place = t.node? place := by
  induction bs generalizing t files with
  | nil =>
    obtain ⟨rfl, hfiles⟩ := Prod.mk.inj h
    rw [← Except.ok.inj hfiles]
    exact ⟨.refl t, .nil, fun _ _ => rfl⟩
  | cons b bs ih =>
    unfold writeAll at h
    split at h
    · cases h
    · next middle file hfirst =>
      split at h
      · cases h
      · next last later hlater =>
        obtain ⟨rfl, hfiles⟩ := Prod.mk.inj h
        obtain ⟨hfresh, hdistinct⟩ := List.nodup_cons.1 hnodup
        have hname := hnames b List.mem_cons_self
        have hrest : ∀ c ∈ bs, isName (outputName c) = true :=
          fun c hc => hnames c (List.mem_cons_of_mem _ hc)
        obtain ⟨hwritten, bytes, hwrote⟩ := writeBlob_ok hname hfirst
        obtain ⟨hkept, hall, hothers⟩ := ih hrest hdistinct hlater
        -- a later file would have to have the name of this one to change it
        obtain ⟨target, hlocate⟩ := hwrote.exists_place
        have hend := FileTree.locate_of_extends hkept hlocate
        have hsame : last.node? target = middle.node? target := by
          apply hothers
          intro c hc hother
          have hclash := outputName_of_locate hname (hrest c hc) hend hother
          exact hfresh (List.mem_map.2 ⟨c, hc, hclash.symm⟩)
        have hstays := FileTree.find_of_extends hkept hlocate hsame
        rw [← Except.ok.inj hfiles]
        refine ⟨hwrote.kept.trans hkept, .cons (hwritten.of_find hstays) hall, ?_⟩
        intro place hplace
        have hmiddle : last.node? place = middle.node? place :=
          hothers place fun c hc => hplace c (List.mem_cons_of_mem _ hc)
        rw [hmiddle]
        apply hwrote.others
        intro hother
        exact hplace b List.mem_cons_self (FileTree.locate_of_extends hkept hother)

/-! ### The whole build -/

theorem nodup_of_no_clashes {bs : List Blob} (h : clashes bs = []) :
    (bs.map outputName).Nodup := by
  rw [List.nodup_iff_count_le_one]
  intro name
  by_contra hcount
  have hmany : 1 < (bs.map outputName).count name := Nat.lt_of_not_le hcount
  have hmem : name ∈ bs.map outputName := List.count_pos_iff.1 (by omega)
  have hclash : name ∈ clashes bs :=
    mem_distinct.2 (List.mem_filter.2 ⟨hmem, decide_eq_true hmany⟩)
  rw [h] at hclash
  cases hclash

theorem child_injective (out : Path) : Function.Injective out.child := by
  intro name other h
  have hparts : out.parts ++ [name] = out.parts ++ [other] := congrArg Path.parts h
  exact List.singleton_inj.1 (List.append_cancel_left hparts)

theorem nodup_outputPath (out : Path) {bs : List Blob} (h : (bs.map outputName).Nodup) :
    (bs.map (outputPath out)).Nodup := by
  have hmap : bs.map (outputPath out) = (bs.map outputName).map out.child := by
    rw [List.map_map]
    rfl
  rw [hmap]
  exact h.map (child_injective out)

theorem exists_makeDirectories_of_write {t u : FileTree} {out : Path} {encoding : Text}
    {o : BuildOptions} {bs : List Blob} {files : List BuiltFile}
    (h : write t out encoding o bs = (u, .ok files)) :
    ∃ w, t.makeDirectories out = (w, .ok ()) ∧ writeAll w out encoding o bs = (u, .ok files) := by
  unfold write at h
  split at h
  · cases h
  · next later hmake => exact ⟨later, hmake, h⟩

theorem extends_of_write {t u : FileTree} {out : Path} {encoding : Text} {o : BuildOptions}
    {bs : List Blob} {files : List BuiltFile} (hnames : ∀ b ∈ bs, isName (outputName b) = true)
    (hnodup : (bs.map outputName).Nodup) (h : write t out encoding o bs = (u, .ok files)) :
    FileTree.Extends t u := by
  obtain ⟨w, hmake, hwrite⟩ := exists_makeDirectories_of_write h
  have hmade := FileTree.madeAlong_makeDirectories t out
  rw [hmake] at hmade
  exact hmade.extends.trans (writeAll_ok hnames hnodup hwrite).1

theorem write_ok {t u : FileTree} {out : Path} {encoding : Text} {o : BuildOptions}
    {bs : List Blob} {files : List BuiltFile} (hnames : ∀ b ∈ bs, isName (outputName b) = true)
    (hnodup : (bs.map outputName).Nodup) (h : write t out encoding o bs = (u, .ok files)) :
    List.Forall₂ (Written u out encoding o) bs files ∧
      ∀ place, (∀ b ∈ bs, u.locate (outputPath out b) ≠ .ok place) →
        u.node? place = t.node? place ∨ (t.node? place = none ∧
          u.node? place = some .directory ∧ ∃ k, u.locate (out.upTo k) = .ok place) := by
  obtain ⟨w, hmake, hwrite⟩ := exists_makeDirectories_of_write h
  have hmade := FileTree.madeAlong_makeDirectories t out
  rw [hmake] at hmade
  obtain ⟨hkept, hall, hothers⟩ := writeAll_ok hnames hnodup hwrite
  refine ⟨hall, ?_⟩
  intro place hplace
  rw [hothers place hplace]
  rcases hmade.place place with hsame | ⟨hnone, hdir, k, hk⟩
  · exact Or.inl hsame
  · exact Or.inr ⟨hnone, hdir, k, FileTree.locate_of_extends hkept hk⟩

theorem runOn_ok {t u : FileTree} {s : Settings} {qualifiers : List Text} {out : Path}
    {o : BuildOptions} {blobs : List Blob} {done : Logged BuildError BuildReport}
    {report : BuildReport} (hrun : runOn t s qualifiers out o blobs = (u, done))
    (hreport : done.result = .ok report) {chosen : List Blob}
    (hchosen : chosen = (Qualifiers.ofList qualifiers).select s.naming blobs) :
    clashes chosen = [] ∧ write t out s.encoding o chosen = (u, .ok report.files) ∧
      report.accepted = chosen.map (·.name) := by
  subst hchosen
  unfold runOn at hrun
  dsimp only at hrun
  split at hrun
  · next hclashes =>
    split at hrun
    · rw [← (Prod.mk.inj hrun).2] at hreport
      cases hreport
    · next later files hwrite =>
      obtain ⟨rfl, rfl⟩ := Prod.mk.inj hrun
      rw [← Except.ok.inj hreport]
      exact ⟨hclashes, hwrite, rfl⟩
  · rw [← (Prod.mk.inj hrun).2] at hreport
    cases hreport

/-- After a build that gives a report, each of the chosen files stands, transformed, at an output
path of its own, and nothing else has changed but for directories made on the way to the output
directory. -/
theorem run_output {t u : FileTree} {root out : Path} {s : Settings} {qualifiers : List Text}
    {o : BuildOptions} {done : Logged BuildError BuildReport} {report : BuildReport}
    (hrun : run t root s qualifiers out o = (u, done)) (hreport : done.result = .ok report) :
    ∃ blobs chosen, (t.collect root s).result = .ok blobs ∧
      chosen = (Qualifiers.ofList qualifiers).select s.naming blobs ∧
      report.accepted = chosen.map (·.name) ∧
      (chosen.map (outputPath out)).Nodup ∧
      List.Forall₂ (Written u out s.encoding o) chosen report.files ∧
      ∀ place, (∀ b ∈ chosen, u.locate (outputPath out b) ≠ .ok place) →
        u.node? place = t.node? place ∨ (t.node? place = none ∧
          u.node? place = some .directory ∧ ∃ k, u.locate (out.upTo k) = .ok place) := by
  unfold run at hrun
  dsimp only at hrun
  split at hrun
  · rw [← (Prod.mk.inj hrun).2] at hreport
    cases hreport
  · next blobs hblobs =>
    obtain ⟨rfl, rfl⟩ := Prod.mk.inj hrun
    obtain ⟨hclashes, hwrite, haccepted⟩ := runOn_ok rfl hreport rfl
    have hnames : ∀ b ∈ (Qualifiers.ofList qualifiers).select s.naming blobs,
        isName (outputName b) = true :=
      fun b hb => FileTree.isName_of_collect hblobs b (List.mem_filter.1 hb).1
    have hnodup := nodup_of_no_clashes hclashes
    obtain ⟨hall, hothers⟩ := write_ok hnames hnodup hwrite
    exact ⟨blobs, _, hblobs, rfl, haccepted, nodup_outputPath out hnodup, hall, hothers⟩

/-- A tree with an engine, two grammars and an earlier output. -/
def sampleTree : FileTree :=
  let file (t : String) : Node := .file (t.toList.map fun c => c.toNat.toUInt8)
  [(["src"], .directory), (["src", "languages"], .directory),
    (["src", "engine.js"], file "/* x */ var hljs;"),
    (["src", "languages", "rao.js"], file "/*\nCategory: simulation\n*/\nclassName: begin"),
    (["src", "languages", "xml.js"], file "begin"),
    (["built"], .directory), (["built", "xml.js"], file "earlier")].foldl
    (fun t e => t.put (e.1.map String.toList) e.2) .empty

/-- A build that keeps one of the two grammars. -/
def sampleRun : FileTree × Logged BuildError BuildReport :=
  run sampleTree (Path.ofText "/".toList)
    { entryPoint := "engine.js".toList, encoding := "latin-1".toList }
    [":simulation".toList] (Path.ofText "/built/js".toList) { strip := true, shorten := true }

theorem exists_report_sampleRun : ∃ report, sampleRun.2.result = .ok report := by
  have hreturns : sampleRun.2.result.toOption.isSome = true := by decide +kernel
  cases hreport : sampleRun.2.result with
  | error e =>
    rw [hreport] at hreturns
    cases hreturns
  | ok report => exact ⟨report, rfl⟩

theorem run_output_sampleRun : ∃ report, sampleRun.2.result = .ok report ∧
    report.accepted = ["engine.js".toList, "rao.js".toList] ∧
    ∃ chosen, List.Forall₂ (Written sampleRun.1 (Path.ofText "/built/js".toList) "latin-1".toList
      { strip := true, shorten := true }) chosen report.files := by
  have haccepted : sampleRun.2.result.toOption.map (·.accepted) =
      some ["engine.js".toList, "rao.js".toList] := by decide +kernel
  cases hrun : sampleRun with
  | mk u done =>
    rw [hrun] at haccepted
    cases hreport : done.result with
    | error e =>
      rw [hreport] at haccepted
      cases haccepted
    | ok report =>
      rw [hreport] at haccepted
      obtain ⟨blobs, chosen, -, -, -, -, hwritten, -⟩ := run_output hrun hreport
      exact ⟨report, rfl, Option.some.inj haccepted, chosen, hwritten⟩

end GrammarKit.Build
