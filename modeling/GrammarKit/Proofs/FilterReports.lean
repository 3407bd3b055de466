import GrammarKit.CommandLine.Run
import GrammarKit.Proofs.BuildRefusal
import GrammarKit.Proofs.Collecting
import Mathlib.Algebra.GroupWithZero.Nat

/-!
# What is asked for and what is not

The report of a filter is made file by file. It shares the collected files out among two lists, and a
build with the same qualifiers keeps to these lists.
-/

namespace GrammarKit

/-! ### Sharing out -/

/-- The elements of a list, in order, each of them in one of two lists. -/
inductive SharedOut {α : Type} : List α → List α → List α → Prop
  | nil : SharedOut [] [] []
  | first {x : α} {xs ys zs : List α} : SharedOut xs ys zs → SharedOut (x :: xs) ys (x :: zs)
  | second {y : α} {xs ys zs : List α} : SharedOut xs ys zs → SharedOut xs (y :: ys) (y :: zs)

theorem sharedOut_filter {α : Type} (p : α → Bool) (xs : List α) :
    SharedOut (xs.filter p) (xs.filter fun x => !p x) xs := by
  induction xs with
  | nil => exact .nil
  | cons x xs ih =>
    cases hx : p x with
    | true =>
      rw [List.filter_cons_of_pos hx, List.filter_cons_of_neg (by simp [hx])]
      exact .first ih
    | false =>
      rw [List.filter_cons_of_neg (by simp [hx]), List.filter_cons_of_pos (by simp [hx])]
      exact .second ih

theorem SharedOut.perm {α : Type} {xs ys zs : List α} (h : SharedOut xs ys zs) :
    (xs ++ ys).Perm zs := by
  induction h with
  | nil => exact .nil
  | first _ ih => exact ih.cons _
  | second _ ih => exact List.perm_middle.trans (ih.cons _)

namespace CommandLine

/-! ### The report of a filter -/

/-- What the report is when a file is added to it for each of some files. -/
theorem FilterReport.foldl_add (keeps : Blob → Bool) (bs : List Blob) (r : FilterReport) :
    bs.foldl (fun r b => r.add (keeps b) b.name) r =
      ⟨r.qualifiers, r.accepted ++ (bs.filter keeps).map (·.name),
        r.rejected ++ (bs.filter fun b => !keeps b).map (·.name)⟩ := by
  induction bs generalizing r with
  | nil => simp
  | cons b bs ih =>
    rw [List.foldl_cons, ih]
    cases hb : keeps b with
    | true => simp [FilterReport.add, hb]
    | false => simp [FilterReport.add, hb]

theorem FilterReport.ofBlobs_eq (naming : Naming) (qualifiers : List Text) (bs : List Blob) :
    FilterReport.ofBlobs naming qualifiers bs =
      ⟨qualifiers, ((Qualifiers.ofList qualifiers).select naming bs).map (·.name),
        (bs.filter fun b => !(Qualifiers.ofList qualifiers).chooses naming b).map (·.name)⟩ := by
  unfold FilterReport.ofBlobs
  rw [FilterReport.foldl_add]
  rfl

theorem filterFiles_eq_ok_iff {t : FileTree} {root : Path} {s : Settings} {qualifiers : List Text}
    {filtered : FilterReport} :
    (filterFiles t root s qualifiers).result = .ok filtered ↔
      ∃ blobs, (t.collect root s).result = .ok blobs ∧
        filtered = FilterReport.ofBlobs s.naming qualifiers blobs := by
  unfold filterFiles
  rw [Logged.bind_eq_ok_iff]
  constructor
  · rintro ⟨blobs, hblobs, h⟩
    exact ⟨blobs, hblobs, (Except.ok.inj h).symm⟩
  · rintro ⟨blobs, hblobs, rfl⟩
    exact ⟨blobs, hblobs, rfl⟩

/-! ### The report of a build -/

theorem names_of_runOn {t : FileTree} {s : Settings} {qualifiers : List Text} {out : Path}
    {o : BuildOptions} {blobs : List Blob} {report : BuildReport}
    (h : (Build.runOn t s qualifiers out o blobs).2.result = .ok report) :
    report.qualifiers = qualifiers ∧
      report.rejected = (FilterReport.ofBlobs s.naming qualifiers blobs).rejected := by
  rw [FilterReport.ofBlobs_eq]
  unfold Build.runOn at h
  dsimp only at h
  split at h
  · split at h
    · cases h
    · rw [← Except.ok.inj h]
      exact ⟨rfl, rfl⟩
  · cases h

theorem sources_of_written {u : FileTree} {out : Path} {encoding : Text} {o : BuildOptions}
    {bs : List Blob} {files : List BuiltFile}
    (h : List.Forall₂ (Build.Written u out encoding o) bs files) :
    files.map (·.source) = bs.map (·.name) := by
  induction h with
  | nil => rfl
  | cons hfirst _ ih =>
    obtain ⟨_, _, _, -, -, -, -, rfl⟩ := hfirst
    rw [List.map_cons, List.map_cons, ih]

/-- A filter shares the collected files out among what is asked for and the rest. A build that
returns a report keeps to these lists and has written one file for each name that it accepts; and if
it returns one, the files could be collected. -/
theorem filter_build_agree (t : FileTree) (root : Path) (s : Settings) (qualifiers : List Text) :
    (∀ blobs, (t.collect root s).result = .ok blobs →
      ∃ kept others, SharedOut kept others blobs ∧ (kept ++ others).Perm blobs ∧
        kept = (Qualifiers.ofList qualifiers).select s.naming blobs ∧
        (filterFiles t root s qualifiers).result =
          .ok ⟨qualifiers, kept.map (·.name), others.map (·.name)⟩ ∧
        ∀ out o report, (Build.run t root s qualifiers out o).2.result = .ok report →
          report.qualifiers = qualifiers ∧ report.accepted = kept.map (·.name) ∧
          report.rejected = others.map (·.name) ∧
          List.Forall₂ (Build.Written (Build.run t root s qualifiers out o).1 out s.encoding o) kept
            report.files ∧
          report.files.map (·.source) = report.accepted ∧
          report.bytesIn = (report.files.map (·.bytesIn)).sum ∧
          report.bytesOut = (report.files.map (·.bytesOut)).sum) ∧
    ∀ out o report, (Build.run t root s qualifiers out o).2.result = .ok report →
      ∃ blobs, (t.collect root s).result = .ok blobs := by
  constructor
  · intro blobs hblobs
    have hshared := sharedOut_filter ((Qualifiers.ofList qualifiers).chooses s.naming) blobs
    have hreport := FilterReport.ofBlobs_eq s.naming qualifiers blobs
    refine ⟨_, _, hshared, hshared.perm, rfl,
      filterFiles_eq_ok_iff.2 ⟨blobs, hblobs, hreport.symm⟩, ?_⟩
    intro out o report hbuild
    obtain ⟨haccepted, hwritten⟩ := Build.written_of_run hblobs hbuild
    rw [(Build.run_of_collect_ok t root s qualifiers out o hblobs).2] at hbuild
    obtain ⟨hqualifiers, hrejected⟩ := names_of_runOn hbuild
    rw [hreport] at hrejected
    have hsources := sources_of_written hwritten
    exact ⟨hqualifiers, haccepted, hrejected, hwritten, hsources.trans haccepted.symm, rfl, rfl⟩
  · intro out o report hbuild
    obtain ⟨blobs, hblobs, -⟩ := Build.exists_collect_of_run hbuild
    exact ⟨blobs, hblobs⟩

theorem filter_build_agree_sampleRun : ∃ (blobs kept others : List Blob) (report : BuildReport),
    SharedOut kept others blobs ∧ kept.map (·.name) = ["engine.js".toList, "rao.js".toList] ∧
    others.map (·.name) = ["xml.js".toList] ∧ Build.sampleRun.2.result = .ok report ∧
    report.rejected = others.map (·.name) ∧ report.files.map (·.source) = report.accepted := by
  have hboth := filter_build_agree Build.sampleTree (Path.ofText "/".toList)
    { entryPoint := "engine.js".toList, encoding := "latin-1".toList } [":simulation".toList]
  have hfilter : (filterFiles Build.sampleTree (Path.ofText "/".toList)
      { entryPoint := "engine.js".toList, encoding := "latin-1".toList }
      [":simulation".toList]).result = .ok ⟨[":simulation".toList],
        ["engine.js".toList, "rao.js".toList], ["xml.js".toList]⟩ := by decide +kernel
  obtain ⟨report, hreport⟩ := Build.exists_report_sampleRun
  obtain ⟨blobs, hblobs⟩ := hboth.2 _ _ report hreport
  obtain ⟨kept, others, hshared, -, -, hsame, hall⟩ := hboth.1 blobs hblobs
  rw [hfilter] at hsame
  obtain ⟨-, hkept, hothers⟩ := FilterReport.mk.inj (Except.ok.inj hsame)
  obtain ⟨-, -, hrejected, -, hsources, -⟩ := hall _ _ report hreport
  exact ⟨blobs, kept, others, report, hshared, hkept.symm, hothers.symm, hreport, hrejected,
    hsources⟩

end CommandLine
end GrammarKit
