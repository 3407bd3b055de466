import GrammarKit.Proofs.BuildOutput
import Mathlib.Data.List.Nodup

/-!
# Builds that are refused

A build is refused when its files cannot be collected, or when two of the files it keeps would be
written under one name. Both are found before anything is written, so the tree is then as it was.
Files that are not kept may share their names.
-/

namespace GrammarKit

/-- Whether a fault is found while files are collected or their names compared. -/
def BuildError.isRefusal : BuildError → Bool
  | .collect _ => true
  | .clash _ => true
  | .directory _ => false
  | .substitution _ => false
  | .write _ => false

namespace Build

open Text

/-- Two of the files, at different places in the list, have one base name. -/
def SharesName (bs : List Blob) : Prop :=
  ∃ first second, [first, second].Sublist bs ∧
    Path.baseName first.name = Path.baseName second.name

/-! ### Names that clash -/

theorem clashes_eq_nil_iff {bs : List Blob} : clashes bs = [] ↔ (bs.map outputName).Nodup := by
  constructor
  · exact nodup_of_no_clashes
  · intro hnodup
    rw [List.eq_nil_iff_forall_not_mem]
    intro name hname
    obtain ⟨-, hmany⟩ := List.mem_filter.1 (mem_distinct.1 hname)
    have hone : (bs.map outputName).count name ≤ 1 := List.nodup_iff_count_le_one.1 hnodup name
    have hmore : 1 < (bs.map outputName).count name := of_decide_eq_true hmany
    omega

theorem sharesName_iff {bs : List Blob} : SharesName bs ↔ clashes bs ≠ [] := by
  have hpairs : (bs.map outputName).Nodup ↔
      ∀ first second, [first, second].Sublist bs → outputName first ≠ outputName second := by
    rw [List.Nodup, List.pairwise_map, List.pairwise_iff_forall_sublist]
  rw [Ne, clashes_eq_nil_iff, hpairs]
  constructor
  · rintro ⟨first, second, hsub, hname⟩ hdistinct
    exact hdistinct first second hsub hname
  · intro hsame
    by_contra hnone
    apply hsame
    intro first second hsub hname
    exact hnone ⟨first, second, hsub, hname⟩

/-! ### Faults in writing -/

theorem writeBlob_error {t u : FileTree} {out : Path} {encoding : Text} {o : BuildOptions}
    {b : Blob} {e : BuildError} (h : writeBlob t out encoding o b = (u, .error e)) :
    e.isRefusal = false := by
  unfold writeBlob at h
  split at h
  · rw [← Except.error.inj (Prod.mk.inj h).2]
    rfl
  · next text _ =>
    dsimp only at h
    split at h
    · rw [← Except.error.inj (Prod.mk.inj h).2]
      rfl
    · have hfile := (Prod.mk.inj h).2
      cases hdescribe : describe (out.child (outputName b)) encoding b text with
      | error cause =>
        rw [hdescribe] at hfile
        rw [← Except.error.inj hfile]
        rfl
      | ok file =>
        rw [hdescribe] at hfile
        cases hfile

/-- What holds of the faults of every single file holds of the fault that ends the writing. -/
theorem writeAll_error {out : Path} {encoding : Text} {o : BuildOptions} {P : BuildError → Prop}
    {bs : List Blob} (hfile : ∀ b ∈ bs, ∀ t u e, writeBlob t out encoding o b = (u, .error e) → P e)
    {t u : FileTree} {e : BuildError} (h : writeAll t out encoding o bs = (u, .error e)) : P e := by
  induction bs generalizing t with
  | nil => cases h
  | cons b bs ih =>
    unfold writeAll at h
    split at h
    · next later cause hfirst =>
      rw [← Except.error.inj (Prod.mk.inj h).2]
      exact hfile b List.mem_cons_self _ _ _ hfirst
    · split at h
      · next last cause hlater =>
        obtain ⟨rfl, hcause⟩ := Prod.mk.inj h
        rw [hcause] at hlater
        exact ih (fun c hc => hfile c (List.mem_cons_of_mem _ hc)) hlater
      · cases h

theorem write_error {out : Path} {encoding : Text} {o : BuildOptions} {P : BuildError → Prop}
    {bs : List Blob} (hdirectory : ∀ cause, P (.directory cause))
    (hfile : ∀ b ∈ bs, ∀ t u e, writeBlob t out encoding o b = (u, .error e) → P e)
    {t u : FileTree} {e : BuildError} (h : write t out encoding o bs = (u, .error e)) : P e := by
  unfold write at h
  split at h
  · rw [← Except.error.inj (Prod.mk.inj h).2]
    exact hdirectory _
  · exact writeAll_error hfile h

/-! ### The whole build -/

section

variable (t : FileTree) (root : Path) (s : Settings) (qualifiers : List Text) (out : Path)
  (o : BuildOptions) {blobs : List Blob}

theorem runOn_clash {chosen : List Blob}
    (hchosen : chosen = (Qualifiers.ofList qualifiers).select s.naming blobs)
    (hclash : clashes chosen ≠ []) :
    (runOn t s qualifiers out o blobs).1 = t ∧
      (runOn t s qualifiers out o blobs).2.result = .error (.clash (clashes chosen)) := by
  subst hchosen
  have hnames : clashes (blobs.filter ((Qualifiers.ofList qualifiers).chooses s.naming)) ≠ [] :=
    hclash
  unfold runOn
  simp only [if_neg hnames]
  exact ⟨trivial, rfl⟩

theorem exists_write_of_no_clash {chosen : List Blob} {e : BuildError}
    (hchosen : chosen = (Qualifiers.ofList qualifiers).select s.naming blobs)
    (hclash : clashes chosen = [])
    (he : (runOn t s qualifiers out o blobs).2.result = .error e) :
    ∃ u, write t out s.encoding o chosen = (u, .error e) := by
  subst hchosen
  have hnames : clashes (blobs.filter ((Qualifiers.ofList qualifiers).chooses s.naming)) = [] :=
    hclash
  unfold runOn at he
  simp only [if_pos hnames] at he
  split at he
  · next later cause hwrite =>
    rw [← Except.error.inj he]
    exact ⟨later, hwrite⟩
  · cases he

theorem runOn_no_clash {chosen : List Blob} {e : BuildError}
    (hchosen : chosen = (Qualifiers.ofList qualifiers).select s.naming blobs)
    (hclash : clashes chosen = [])
    (he : (runOn t s qualifiers out o blobs).2.result = .error e) : e.isRefusal = false := by
  obtain ⟨u, hwrite⟩ := exists_write_of_no_clash t s qualifiers out o hchosen hclash he
  exact write_error (fun _ => rfl) (fun _ _ _ _ _ => writeBlob_error) hwrite

theorem run_of_collect_error {cause : CollectError}
    (h : (t.collect root s).result = .error cause) :
    (run t root s qualifiers out o).1 = t ∧
      (run t root s qualifiers out o).2.result = .error (.collect cause) := by
  simp only [run, h]
  exact ⟨trivial, trivial⟩

theorem run_of_collect (h : (t.collect root s).result = .ok blobs) :
    run t root s qualifiers out o = ((runOn t s qualifiers out o blobs).1,
      (runOn t s qualifiers out o blobs).2.after (t.collect root s).log) := by
  simp only [run, h]

theorem run_of_collect_ok (h : (t.collect root s).result = .ok blobs) :
    (run t root s qualifiers out o).1 = (runOn t s qualifiers out o blobs).1 ∧
      (run t root s qualifiers out o).2.result = (runOn t s qualifiers out o blobs).2.result := by
  rw [run_of_collect t root s qualifiers out o h]
  exact ⟨rfl, rfl⟩

end

section

variable {t : FileTree} {root out : Path} {s : Settings} {qualifiers : List Text}
  {o : BuildOptions} {report : BuildReport}

theorem exists_collect_of_run (h : (run t root s qualifiers out o).2.result = .ok report) :
    ∃ blobs, (t.collect root s).result = .ok blobs ∧
      (runOn t s qualifiers out o blobs).2.result = .ok report := by
  cases hcollect : (t.collect root s).result with
  | error cause =>
    rw [(run_of_collect_error t root s qualifiers out o hcollect).2] at h
    cases h
  | ok blobs =>
    rw [(run_of_collect_ok t root s qualifiers out o hcollect).2] at h
    exact ⟨blobs, rfl, h⟩

theorem written_of_run {blobs : List Blob} (hblobs : (t.collect root s).result = .ok blobs)
    (h : (run t root s qualifiers out o).2.result = .ok report) :
    report.accepted = ((Qualifiers.ofList qualifiers).select s.naming blobs).map (·.name) ∧
      List.Forall₂ (Written (run t root s qualifiers out o).1 out s.encoding o)
        ((Qualifiers.ofList qualifiers).select s.naming blobs) report.files := by
  obtain ⟨htree, hresult⟩ := run_of_collect_ok t root s qualifiers out o hblobs
  rw [hresult] at h
  rw [htree]
  obtain ⟨hclashes, hwrite, haccepted⟩ := runOn_ok rfl h rfl
  have hnames : ∀ b ∈ (Qualifiers.ofList qualifiers).select s.naming blobs,
      isName (outputName b) = true :=
    fun b hb => FileTree.isName_of_collect hblobs b (List.mem_filter.1 hb).1
  obtain ⟨hall, -⟩ := write_ok hnames (nodup_of_no_clashes hclashes) hwrite
  exact ⟨haccepted, hall⟩

end

/-- A build finds clashing names exactly if all its files could be collected and two of those that
are asked for share their base name; and a build that is refused, for this reason or because its
files could not be collected, leaves the tree as it was. -/
theorem run_refused (t : FileTree) (root : Path) (s : Settings) (qualifiers : List Text)
    (out : Path) (o : BuildOptions) :
    ((∃ names, (run t root s qualifiers out o).2.result = .error (.clash names)) ↔
      ∃ blobs, (t.collect root s).result = .ok blobs ∧
        SharesName ((Qualifiers.ofList qualifiers).select s.naming blobs)) ∧
    ∀ e, (run t root s qualifiers out o).2.result = .error e → e.isRefusal = true →
      (run t root s qualifiers out o).1 = t := by
  cases hcollect : (t.collect root s).result with
  | error cause =>
    obtain ⟨htree, hresult⟩ := run_of_collect_error t root s qualifiers out o hcollect
    rw [htree, hresult]
    refine ⟨⟨?_, ?_⟩, fun _ _ _ => rfl⟩
    · rintro ⟨names, hnames⟩
      cases hnames
    · rintro ⟨blobs, hblobs, -⟩
      cases hblobs
  | ok blobs =>
    obtain ⟨htree, hresult⟩ := run_of_collect_ok t root s qualifiers out o hcollect
    rw [htree, hresult]
    by_cases hclash : clashes ((Qualifiers.ofList qualifiers).select s.naming blobs) = []
    · have hothers : ∀ e, (runOn t s qualifiers out o blobs).2.result = .error e →
          e.isRefusal = false := fun e he =>
          runOn_no_clash t s qualifiers out o rfl hclash he
      refine ⟨⟨?_, ?_⟩, ?_⟩
      · rintro ⟨names, hnames⟩
        cases hothers _ hnames
      · rintro ⟨collected, hcollected, hshares⟩
        rw [← Except.ok.inj hcollected, sharesName_iff] at hshares
        exact absurd hclash hshares
      · intro e he hrefusal
        rw [hothers e he] at hrefusal
        cases hrefusal
    · obtain ⟨hsame, hnames⟩ := runOn_clash t s qualifiers out o rfl hclash
      rw [hsame, hnames]
      refine ⟨⟨?_, fun _ => ⟨_, rfl⟩⟩, fun _ _ _ => rfl⟩
      intro _
      exact ⟨blobs, rfl, sharesName_iff.2 hclash⟩

/-- A tree in which a grammar has the name of the engine. -/
def clashingTree : FileTree :=
  let file (t : String) : Node := .file (t.toList.map fun c => c.toNat.toUInt8)
  [(["src"], .directory), (["src", "languages"], .directory),
    (["src", "engine.js"], file "var hljs;"), (["src", "languages", "engine.js"], file "begin"),
    (["src", "languages", "xml.js"], file "end")].foldl
    (fun t e => t.put (e.1.map String.toList) e.2) .empty

/-- A build of the engine and of the grammar with its name. -/
def clashingRun : FileTree × Logged BuildError BuildReport :=
  run clashingTree (Path.ofText "/".toList) { entryPoint := "engine.js".toList } ["rao".toList]
    (Path.ofText "/built/js".toList) { shorten := true }

theorem run_refused_clashingRun :
    clashingRun.2.result = .error (.clash ["engine.js".toList]) ∧ clashingRun.1 = clashingTree := by
  have hresult : clashingRun.2.result = .error (.clash ["engine.js".toList]) := by
    decide +kernel
  exact ⟨hresult, (run_refused _ _ _ _ _ _).2 _ hresult rfl⟩

end Build
end GrammarKit
