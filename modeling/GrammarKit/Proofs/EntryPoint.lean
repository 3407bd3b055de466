import GrammarKit.Proofs.BuildRefusal
import GrammarKit.Proofs.Collecting
import GrammarKit.Proofs.FilesBelow
import GrammarKit.Proofs.SourceSelection
import GrammarKit.Proofs.Wildcards
import Mathlib.Data.Finset.Dedup
import Mathlib.Data.Fintype.EquivFin
import Mathlib.Data.Fintype.List

/-!
# The entry point in a build

The entry point is looked for as a path, read through a glob made of its name, and kept for its base
name. A build keeps it whatever is asked for if these three agree, that is if the entry point is a
single name that its own glob takes, and otherwise loses it for some of what may be asked for.
-/

namespace GrammarKit

open Text

/-- A single name that is taken by the glob of just this name. -/
def NamesItself (name : Text) : Prop :=
  '/' ∉ name ∧ ∃ globs, Glob.readAll ['/' :: name] = .ok globs ∧ Glob.choose globs name = true

theorem namesItself_of_isPlain {name : Text} (h : Glob.IsPlain name) : NamesItself name := by
  have hslash : '/' ∉ name := fun hmem => (h.plain _ hmem).1 rfl
  refine ⟨hslash, ?_⟩
  by_cases hone : name = ['*']
  · rw [hone]
    refine ⟨_, rfl, ?_⟩
    decide +kernel
  · by_cases htwo : name = Glob.twoStars
    · rw [htwo]
      refine ⟨_, rfl, ?_⟩
      decide +kernel
    · obtain ⟨globs, hread, hchoose⟩ := Glob.choose_readAll_iff h hone htwo
      refine ⟨globs, hread, (hchoose name).2 ⟨name, [], ?_, Glob.spells_self hslash, Or.inl rfl⟩⟩
      rw [List.append_nil]

namespace FileTree

/-- The entry point of the settings is a file. -/
def HasEntry (t : FileTree) (root : Path) (s : Settings) : Prop :=
  ∃ src, s.srcPath root = .ok src ∧ t.isFile? (entryPath src s) = .ok true

/-! ### Collecting the entry point -/

section

variable {t : FileTree} {s : Settings} {src dir : Path} {entry languages : List Blob}

theorem place_of_entry {place : Place} (hplace : t.locate src = .ok place)
    (hnode : t.node? place = some .directory) (hslash : '/' ∉ s.entryPoint)
    (hfile : t.isFile? (entryPath src s) = .ok true) :
    isName s.entryPoint = true ∧ t.locate (entryPath src s) = .ok (place ++ [s.entryPoint]) ∧
      ∃ content, t.node? (place ++ [s.entryPoint]) = some (.file content) := by
  obtain ⟨hname, hpath⟩ := isName_of_isFile hplace hnode hslash hfile
  obtain ⟨last, content, hlast, hcontent⟩ := isFile_eq_true_iff.1 hfile
  have hone : [s.entryPoint].all isName = true := by simp [hname]
  have hend : last = place ++ [s.entryPoint] := by
    rw [entryPath, hpath] at hlast
    exact walk_names hone (walk_of_locate hplace hlast)
  rw [hend] at hlast hcontent
  exact ⟨hname, hlast, content, hcontent⟩

/-- An entry point with a single name is a file of the directory of the sources, whose files are
collected through its glob. -/
theorem Collects.exists_place (h : t.Collects s src dir entry languages)
    (hfile : t.isFile? (entryPath src s) = .ok true) (hslash : '/' ∉ s.entryPoint) :
    isName s.entryPoint = true ∧ ∃ place globs, t.locate src = .ok place ∧
      t.locate (entryPath src s) = .ok (place ++ [s.entryPoint]) ∧
      s.entryPoint ∈ t.fileNames place ∧ Glob.readAll ['/' :: s.entryPoint] = .ok globs ∧
      entry.map (·.name) = (t.fileNames place).filter (Glob.choose globs) := by
  obtain ⟨place, globs, hplace, hdirectory, hglobs, -, hall⟩ :=
    readBlobs_eq_ok_iff.1 (h.readBlobs_entry hfile)
  have hnode : t.node? place = some .directory := of_decide_eq_true hdirectory
  obtain ⟨hname, hlast, hcontent⟩ := place_of_entry hplace hnode hslash hfile
  have hlisted : s.entryPoint ∈ t.fileNames place :=
    mem_fileNames_iff.2 ⟨[s.entryPoint], by simp, hcontent, join_singleton _ _⟩
  exact ⟨hname, place, globs, hplace, hlast, hlisted, hglobs, names_of_readBlobs hall⟩

/-- The glob of the entry point is applied to its name, if it is a single one. -/
theorem Collects.mem_entry_iff (h : t.Collects s src dir entry languages)
    (hfile : t.isFile? (entryPath src s) = .ok true) (hslash : '/' ∉ s.entryPoint) :
    (∃ b ∈ entry, b.name = s.entryPoint) ↔
      ∃ globs, Glob.readAll ['/' :: s.entryPoint] = .ok globs ∧
        Glob.choose globs s.entryPoint = true := by
  obtain ⟨-, place, globs, -, -, hlisted, hglobs, hnames⟩ := h.exists_place hfile hslash
  constructor
  · rintro ⟨b, hb, hbname⟩
    have hmem : b.name ∈ (t.fileNames place).filter (Glob.choose globs) :=
      hnames ▸ List.mem_map_of_mem hb
    rw [hbname] at hmem
    exact ⟨globs, hglobs, (List.mem_filter.1 hmem).2⟩
  · rintro ⟨other, hother, htakes⟩
    rw [hglobs] at hother
    rw [← Except.ok.inj hother] at htakes
    have hmem : s.entryPoint ∈ entry.map (·.name) := by
      rw [hnames]
      exact List.mem_filter.2 ⟨hlisted, htakes⟩
    obtain ⟨b, hb, hbname⟩ := List.mem_map.1 hmem
    exact ⟨b, hb, hbname⟩

/-- A collected file that lies where the entry point lies has its name, if that is a single one. -/
theorem Collects.name_of_locate (h : t.Collects s src dir entry languages)
    (hfile : t.isFile? (entryPath src s) = .ok true) (hslash : '/' ∉ s.entryPoint) {b : Blob}
    (hb : b ∈ entry)
    (hsame : t.locate (src.join (Path.ofText b.name)) = t.locate (entryPath src s)) :
    b.name = s.entryPoint := by
  obtain ⟨-, place, globs, hplace, hlast, -, -, hnames⟩ := h.exists_place hfile hslash
  have hmem : b.name ∈ t.fileNames place := by
    have hfiltered : b.name ∈ (t.fileNames place).filter (Glob.choose globs) :=
      hnames ▸ List.mem_map_of_mem hb
    exact (List.mem_filter.1 hfiltered).1
  obtain ⟨names, hne, ⟨_, hfound⟩, hjoin⟩ := mem_fileNames_iff.1 hmem
  rw [hlast, ← hjoin] at hsame
  have hend : place ++ [s.entryPoint] = place ++ names :=
    place_of_listed hplace hne (all_isName_of_append hfound) hsame
  rw [← hjoin, ← List.append_cancel_left hend, join_singleton]

end

end FileTree

namespace Build

/-! ### Entry points that are kept -/

/-- The file of the entry point is among those collected in the directory of the sources, and its
transformed text is among the outputs. -/
def EntrySurvives (t u : FileTree) (root out : Path) (s : Settings) (o : BuildOptions)
    (report : BuildReport) : Prop :=
  ∃ src dir entry languages b file, s.srcPath root = .ok src ∧ s.languagesPath root = .ok dir ∧
    t.Collects s src dir entry languages ∧
    (t.collect root s).result = .ok (entry ++ languages) ∧ b ∈ entry ∧
    t.locate (src.join (Path.ofText b.name)) = t.locate (FileTree.entryPath src s) ∧
    t.readText (FileTree.entryPath src s) s.encoding = .ok b.content ∧
    b.name ∈ report.accepted ∧ file ∈ report.files ∧ Written u out s.encoding o b file

theorem entrySurvives_of_namesItself {t : FileTree} {root out : Path} {s : Settings}
    {qualifiers : List Text} {o : BuildOptions} {report : BuildReport} (hentry : t.HasEntry root s)
    (hself : NamesItself s.entryPoint)
    (hreport : (run t root s qualifiers out o).2.result = .ok report) :
    EntrySurvives t (run t root s qualifiers out o).1 root out s o report := by
  obtain ⟨hslash, htakes⟩ := hself
  obtain ⟨blobs, hblobs, -⟩ := exists_collect_of_run hreport
  obtain ⟨dir, src, entry, languages, hdir, hsrc, hcollects, rfl⟩ :=
    FileTree.collect_eq_ok_iff.1 hblobs
  obtain ⟨src', hsrc', hfile⟩ := hentry
  rw [hsrc] at hsrc'
  obtain rfl := Except.ok.inj hsrc'
  obtain ⟨hname, -⟩ := hcollects.exists_place hfile hslash
  obtain ⟨b, hb, hbname⟩ := (hcollects.mem_entry_iff hfile hslash).2 htakes
  have hchosen : b ∈ (Qualifiers.ofList qualifiers).select s.naming (entry ++ languages) := by
    have hbase : Path.baseName b.name = s.entryPoint := by
      rw [hbname]
      exact @Path.baseName_append [] _ (Or.inl rfl) (isPart_of_isName hname) hslash
    refine List.mem_filter.2 ⟨List.mem_append_left _ hb, ?_⟩
    simp [Qualifiers.chooses, hbase, Settings.naming]
  obtain ⟨haccepted, hall⟩ := written_of_run hblobs hreport
  obtain ⟨file, hmem, hwritten⟩ := exists_of_mem_forall₂ hall hchosen
  have htext := FileTree.text_of_readBlobs (hcollects.readBlobs_entry hfile) hb
  rw [hbname] at htext
  refine ⟨src, dir, entry, languages, b, file, hsrc, hdir, hcollects, hblobs, hb, ?_, htext, ?_,
    hmem, hwritten⟩
  · rw [hbname, FileTree.entryPath]
  · rw [haccepted]
    exact List.mem_map_of_mem hchosen

/-! ### Entry points that are lost -/

theorem exists_fresh_category (bs : List Blob) :
    ∃ c : Text, ∀ b ∈ bs, ∀ header, Header.read? b.content = some header →
      c ∉ header.items "Category".toList := by
  let found : List Text := bs.flatMap fun b =>
    ((Header.read? b.content).map fun header => header.items "Category".toList).getD []
  obtain ⟨c, hc⟩ := Infinite.exists_notMem_finset found.toFinset
  refine ⟨c, ?_⟩
  intro b hb header hheader hmem
  apply hc
  rw [List.mem_toFinset, List.mem_flatMap]
  exact ⟨b, hb, by rw [hheader]; exact hmem⟩

theorem chooses_fresh_category {naming : Naming} {b : Blob} {c : Text}
    (hbase : Path.baseName b.name ≠ naming.entryPoint)
    (hfresh : ∀ header, Header.read? b.content = some header →
      c ∉ header.items "Category".toList) :
    (Qualifiers.ofList [':' :: c]).chooses naming b = false := by
  have hempty : (Qualifiers.ofList [':' :: c]).isEmpty ≠ true :=
    fun h => List.cons_ne_nil _ _ (Qualifiers.isEmpty_ofList_iff.1 h)
  have hlanguages : ∀ language, language ∉ (Qualifiers.ofList [':' :: c]).languages := by
    intro language hmem
    obtain ⟨hasked, hcolon⟩ := Qualifiers.mem_languages_iff.1 hmem
    rw [List.mem_singleton.1 hasked] at hcolon
    exact hcolon rfl
  have hcategories : ∀ category ∈ (Qualifiers.ofList [':' :: c]).categories, category = c := by
    intro category hmem
    exact (List.cons.inj (List.mem_singleton.1 (Qualifiers.mem_categories_iff.1 hmem))).2
  rw [Bool.eq_false_iff]
  intro hchooses
  cases hread : Header.read? b.content with
  | none => simp [Qualifiers.chooses, Qualifiers.admits, hread, hbase, hempty] at hchooses
  | some header =>
    rcases (Qualifiers.chooses_of_read _ naming hread).1 hchooses with
      h | h | h | ⟨category, hcategory, h⟩
    · exact hempty h
    · exact hbase h
    · exact hlanguages _ h
    · exact hfresh header hread (hcategories category h ▸ hcategory)

theorem runOn_of_nothing_chosen {t u : FileTree} {s : Settings} {qualifiers : List Text}
    {out : Path} (o : BuildOptions) {blobs : List Blob}
    (hnone : (Qualifiers.ofList qualifiers).select s.naming blobs = [])
    (hmake : t.makeDirectories out = (u, .ok ())) :
    ∃ report, (runOn t s qualifiers out o blobs).2.result = .ok report ∧ report.accepted = [] := by
  have hfilter : blobs.filter ((Qualifiers.ofList qualifiers).chooses s.naming) = [] := hnone
  have hwrite : write t out s.encoding o [] = (u, .ok []) := by
    rw [write, hmake]
    rfl
  have hclashes : clashes [] = [] := rfl
  let chosen := (Qualifiers.ofList qualifiers).chooses s.naming
  refine ⟨⟨qualifiers, [], (blobs.filter fun b => !chosen b).map (·.name), []⟩, ?_, rfl⟩
  unfold runOn
  simp only [hfilter, hclashes, if_true, hwrite]
  rfl

theorem exists_makeDirectories_of_runOn {t : FileTree} {s : Settings} {qualifiers : List Text}
    {out : Path} {o : BuildOptions} {blobs : List Blob} {report : BuildReport}
    (h : (runOn t s qualifiers out o blobs).2.result = .ok report) :
    ∃ u, t.makeDirectories out = (u, .ok ()) := by
  obtain ⟨-, hwrite, -⟩ := runOn_ok rfl h rfl
  obtain ⟨u, hmake, -⟩ := exists_makeDirectories_of_write hwrite
  exact ⟨u, hmake⟩

/-- An entry point that is not a single name has the base name of no file. -/
theorem select_fresh_category {t : FileTree} {root : Path} {s : Settings} {blobs : List Blob}
    (hblobs : (t.collect root s).result = .ok blobs) (hslash : '/' ∈ s.entryPoint) :
    ∃ c, (Qualifiers.ofList [':' :: c]).select s.naming blobs = [] := by
  obtain ⟨c, hfresh⟩ := exists_fresh_category blobs
  refine ⟨c, ?_⟩
  rw [Qualifiers.select, List.filter_eq_nil_iff]
  intro b hb hchooses
  have hbase : Path.baseName b.name ≠ s.naming.entryPoint := by
    intro heq
    have hname : isName (Path.baseName b.name) = true := FileTree.isName_of_collect hblobs b hb
    rw [heq] at hname
    exact isName_slash hname hslash
  rw [chooses_fresh_category hbase (hfresh b hb)] at hchooses
  cases hchooses

theorem namesItself_of_entrySurvives {t u : FileTree} {root out : Path} {s : Settings}
    {o : BuildOptions} {report : BuildReport} (hentry : t.HasEntry root s)
    (hslash : '/' ∉ s.entryPoint) (h : EntrySurvives t u root out s o report) :
    NamesItself s.entryPoint := by
  obtain ⟨src, dir, entry, languages, b, file, hsrc, -, hcollects, -, hb, hsame, -⟩ := h
  obtain ⟨src', hsrc', hfile⟩ := hentry
  rw [hsrc] at hsrc'
  obtain rfl := Except.ok.inj hsrc'
  have hbname : b.name = s.entryPoint := hcollects.name_of_locate hfile hslash hb hsame
  exact ⟨hslash, (hcollects.mem_entry_iff hfile hslash).1 ⟨b, hb, hbname⟩⟩

/-- If a build returns, then all builds that return keep the entry point if and only if it is a
single name that its own glob takes; a plain name is such a name. -/
theorem entry_survives_iff {t : FileTree} {root out : Path} {s : Settings} {o : BuildOptions}
    {asked : List Text} {given : BuildReport} (hentry : t.HasEntry root s)
    (hgiven : (run t root s asked out o).2.result = .ok given) :
    ((∀ qualifiers report, (run t root s qualifiers out o).2.result = .ok report →
        EntrySurvives t (run t root s qualifiers out o).1 root out s o report) ↔
      NamesItself s.entryPoint) ∧
    (Glob.IsPlain s.entryPoint → NamesItself s.entryPoint) := by
  refine ⟨⟨?_, ?_⟩, namesItself_of_isPlain⟩
  · intro hall
    by_cases hslash : '/' ∈ s.entryPoint
    · -- a qualifier that no collected file meets leaves nothing, not even the entry point
      obtain ⟨blobs, hblobs, hrun⟩ := exists_collect_of_run hgiven
      obtain ⟨u, hmake⟩ := exists_makeDirectories_of_runOn hrun
      obtain ⟨c, hnone⟩ := select_fresh_category hblobs hslash
      obtain ⟨report, hreport, haccepted⟩ :=
        runOn_of_nothing_chosen o hnone hmake
      have hresult := (run_of_collect_ok t root s [':' :: c] out o hblobs).2
      have hlost := hall [':' :: c] report (by rw [hresult]; exact hreport)
      obtain ⟨_, _, _, _, b, _, _, _, _, _, _, _, _, hkept, _⟩ := hlost
      rw [haccepted] at hkept
      cases hkept
    · exact namesItself_of_entrySurvives hentry hslash (hall asked given hgiven)
  · intro hself qualifiers report hreport
    exact entrySurvives_of_namesItself hentry hself hreport

/-- The engine of `sampleTree` is of no category, and is kept where one is asked for. -/
theorem entry_survives_sampleRun : ∃ report, sampleRun.2.result = .ok report ∧
    EntrySurvives sampleTree sampleRun.1 (Path.ofText "/".toList) (Path.ofText "/built/js".toList)
      { entryPoint := "engine.js".toList, encoding := "latin-1".toList }
      { strip := true, shorten := true } report := by
  have hentry : sampleTree.HasEntry (Path.ofText "/".toList)
      { entryPoint := "engine.js".toList, encoding := "latin-1".toList } :=
    ⟨Path.ofText "/src".toList, by decide +kernel, by decide +kernel⟩
  have hplain : Glob.IsPlain "engine.js".toList := by
    have hall : "engine.js".toList.all (fun c => c != '/' && c != '\\' && c != '[') = true := by
      decide +kernel
    have hlast : "engine.js".toList.getLast? = some 's' := by decide +kernel
    refine ⟨by decide +kernel, fun c hc => ?_, fun c hc => ?_⟩
    · simpa [and_assoc] using List.all_eq_true.1 hall c hc
    · rw [hlast] at hc
      cases hc
      decide +kernel
  obtain ⟨report, hreport⟩ := exists_report_sampleRun
  have hboth := entry_survives_iff hentry hreport
  exact ⟨report, hreport, hboth.1.2 (hboth.2 hplain) _ report hreport⟩

/-- A tree in which the name of the engine has brackets. -/
def bracketedTree : FileTree :=
  [(["src"], .directory), (["src", "languages"], .directory),
    (["src", "languages", "rao.js"], .file [98, 101, 103, 105, 110]),
    (["src", "engine[1].js"], .file [101, 110, 100])].foldl
    (fun t e => t.put (e.1.map String.toList) e.2) .empty

/-- Brackets in a glob are a set of characters, which the file of the name is not taken by. -/
theorem not_entry_survives_bracketed :
    ¬ ∀ (t : FileTree) (root : Path) (s : Settings) (qualifiers : List Text) (out : Path)
      (o : BuildOptions) (report : BuildReport), t.HasEntry root s →
      (run t root s qualifiers out o).2.result = .ok report →
      EntrySurvives t (run t root s qualifiers out o).1 root out s o report := by
  intro hall
  let s : Settings := { entryPoint := "engine[1].js".toList }
  let root : Path := Path.ofText "/".toList
  let out : Path := Path.ofText "/out".toList
  have hentry : bracketedTree.HasEntry root s :=
    ⟨Path.ofText "/src".toList, by decide +kernel, by decide +kernel⟩
  have hreturns : (run bracketedTree root s [] out {}).2.result.toOption.isSome = true := by
    decide +kernel
  cases hreport : (run bracketedTree root s [] out {}).2.result with
  | error e =>
    rw [hreport] at hreturns
    cases hreturns
  | ok report =>
    have hslash : '/' ∉ s.entryPoint := by decide +kernel
    obtain ⟨-, globs, hread, htakes⟩ :=
      namesItself_of_entrySurvives hentry hslash (hall _ _ _ _ _ _ _ hentry hreport)
    have hrefused : (Glob.readAll ['/' :: s.entryPoint]).toOption.map
        (fun globs => Glob.choose globs s.entryPoint) = some false := by decide +kernel
    rw [hread] at hrefused
    have hfalse : Glob.choose globs s.entryPoint = false := Option.some.inj hrefused
    rw [htakes] at hfalse
    cases hfalse

end Build
end GrammarKit
