import GrammarKit.Proofs.BuildEncoding
import GrammarKit.Proofs.RepeatedChanges
import GrammarKit.Proofs.SeparatePlaces

/-!
# Building again

A build into a directory that lies apart from those of the sources and of the languages finds the
same files when it is run a second time, and makes nothing that is not there already. So it gives the
same report and leaves the tree as it is. The second run can end otherwise only where it comes upon a
path that is too long: that of the entry point, if the directory of the sources was not there at first,
or that of a directory which the first run has made below those of the sources or of the languages, on
a way that leads back from there.
-/

namespace GrammarKit

open Text

namespace Logged

theorem of_ok_bind {ε α β : Type} (a : α) (f : α → Logged ε β) : (of (.ok a) >>= f) = f a := rfl

end Logged

namespace FileTree

/-! ### Collecting again -/

section

variable {t u : FileTree} {root src dir : Path} {s : Settings} {languages : List Blob}
  (hdir : s.languagesPath root = .ok dir) (hsrc : s.srcPath root = .ok src)
  (hlanguages : u.readBlobs dir ["/*".toList ++ s.descriptorSuffix] s.encoding = .ok languages)
include hdir hsrc hlanguages

theorem collect_congr
    (hsame : t.readBlobs dir ["/*".toList ++ s.descriptorSuffix] s.encoding = .ok languages)
    (hfile : u.isFile? (entryPath src s) = t.isFile? (entryPath src s))
    (hentry : t.isFile? (entryPath src s) = .ok true →
      u.readBlobs src ['/' :: s.entryPoint] s.encoding =
        t.readBlobs src ['/' :: s.entryPoint] s.encoding) :
    u.collect root s = t.collect root s := by
  unfold entryPath at hfile hentry
  simp only [collect, readBlobsLogged, hdir, hsrc, hlanguages, hsame, Except.mapError,
    Logged.of_ok_bind, hfile]
  cases hfound : t.isFile? (src.join (Path.ofText s.entryPoint)) with
  | error cause => rfl
  | ok found =>
    cases found with
    | false => rfl
    | true => simp only [hentry hfound]

theorem collect_of_entry_error {cause : CollectError}
    (hfile : u.isFile? (entryPath src s) = .ok true)
    (hentry : u.readBlobs src ['/' :: s.entryPoint] s.encoding = .error cause) :
    (u.collect root s).result = .error cause := by
  unfold entryPath at hfile
  simp only [collect, readBlobsLogged, hdir, hsrc, hlanguages, hfile, Except.mapError,
    Logged.of_ok_bind, hentry]
  rfl

theorem collect_of_isFile_error {cause : FileError}
    (hfile : u.isFile? (entryPath src s) = .error cause) :
    (u.collect root s).result = .error (.path cause) := by
  unfold entryPath at hfile
  simp only [collect, readBlobsLogged, hdir, hsrc, hlanguages, hfile, Except.mapError,
    Logged.of_ok_bind]
  rfl

end

theorem collect_of_languages_error {u : FileTree} {root dir : Path} {s : Settings}
    {cause : CollectError} (hdir : s.languagesPath root = .ok dir)
    (h : u.readBlobs dir ["/*".toList ++ s.descriptorSuffix] s.encoding = .error cause) :
    (u.collect root s).result = .error cause := by
  simp only [collect, readBlobsLogged, hdir, h, Except.mapError, Logged.of_ok_bind]
  rfl

theorem null_not_mem_of_collect {t : FileTree} {root : Path} {s : Settings} {blobs : List Blob}
    (h : (t.collect root s).result = .ok blobs) : ∀ b ∈ blobs, '\x00' ∉ s.encoding := by
  intro b hb
  obtain ⟨dir, place, name, -, hblob⟩ := exists_readBlob_of_collect h hb
  exact (readText_eq_ok_iff.1 (readBlob_eq_ok_iff.1 hblob).2).1

/-! ### Collecting what stands apart -/

/-- The paths that may be too long in a second tree although nothing was in the first one, where files
have been put into a directory. -/
inductive TooLongLater (t u : FileTree) (root out : Path) (s : Settings) : Path → Prop
  /-- The directory of the sources was not there, and a name on the way to the entry point is too
  long. -/
  | entryPoint {src : Path} {part : Text} : s.srcPath root = .ok src → t.isDirectory src = false →
    part ∈ (entryPath src s).parts → longestName < nameSize part →
    TooLongLater t u root out s (entryPath src s)
  /-- A directory was made below that of the languages or of the sources. -/
  | directory {dir p : Path} : s.languagesPath root = .ok dir ∨ s.srcPath root = .ok dir →
    MadeTooLong t u dir out p → TooLongLater t u root out s p

/-- What is collected apart from where files are put is collected again, unless a path is too long
now. -/
theorem PutInto.collect {t u : FileTree} {root out : Path} {s : Settings}
    {blobs : List Blob} (hput : PutInto out t u) (hslash : '/' ∉ s.entryPoint)
    (hlanguages : ∀ dir, s.languagesPath root = .ok dir → Apart (t.target dir) (t.target out))
    (hsources : ∀ src, s.srcPath root = .ok src → Apart (t.target src) (t.target out))
    (h : (t.collect root s).result = .ok blobs) :
    u.collect root s = t.collect root s ∨ ∃ p, TooLongLater t u root out s p ∧
      (u.collect root s).result = .error (.path ⟨.tooLong, p⟩) := by
  obtain ⟨dir, src, entry, languages, hdir, hsrc, hcollects, -⟩ := collect_eq_ok_iff.1 h
  have hdirResolved : dir.Resolved := Path.resolved_of_pathBelow hdir
  have hresolved : src.Resolved := Path.resolved_of_pathBelow hsrc
  have hdirApart := target_of_resolved hdirResolved ▸ hlanguages dir hdir
  have hapart := target_of_resolved hresolved ▸ hsources src hsrc
  rcases hput.readBlobs hdirResolved hdirApart hcollects.languages with hlater | ⟨p, hmade, herror⟩
  swap
  · exact .inr ⟨p, .directory (.inl hdir) hmade, collect_of_languages_error hdir herror⟩
  obtain ⟨found, hfound⟩ : ∃ found, t.isFile? (entryPath src s) = .ok found := by
    rcases hcollects.entry with ⟨hfile, -⟩ | ⟨hfile, -⟩
    · exact ⟨true, hfile⟩
    · exact ⟨false, hfile⟩
  rcases hput.isFile_later hslash hapart hresolved hfound with
    hsame | ⟨hnone, ⟨part, hpart, hlong⟩, herror⟩
  swap
  · exact .inr ⟨_, .entryPoint hsrc hnone hpart hlong,
      collect_of_isFile_error hdir hsrc hlater herror⟩
  have hcongr := collect_congr hdir hsrc hlater hcollects.languages (hsame.trans hfound.symm)
  cases found with
  | false =>
    refine .inl (hcongr fun hfile => ?_)
    rw [hfound] at hfile
    cases hfile
  | true =>
    have hentry := hcollects.readBlobs_entry hfound
    rcases hput.readBlobs hresolved hapart hentry with hread | ⟨p, hmade, herror⟩
    · exact .inl (hcongr fun _ => hread.trans hentry.symm)
    · exact .inr ⟨p, .directory (.inr hsrc) hmade,
        collect_of_entry_error hdir hsrc hlater hsame herror⟩

end FileTree

namespace Build

/-! ### Writing again -/

theorem writeBlob_again {u : FileTree} {out : Path} {encoding : Text} {o : BuildOptions} {b : Blob}
    {file : BuiltFile} (hnull : '\x00' ∉ encoding) (h : Written u out encoding o b file) :
    writeBlob u out encoding o b = (u, .ok file) := by
  obtain ⟨text, bytes, bytesRead, htext, hbytes, hread, hfound, rfl⟩ := h
  have hwrite := FileTree.writeText_of_find hnull hbytes hfound
  unfold outputPath at hwrite
  unfold writeBlob
  rw [htext]
  dsimp only
  rw [hwrite]
  dsimp only
  rw [describe_of_encodeAs hbytes hread]
  rfl

theorem writeAll_again {u : FileTree} {out : Path} {encoding : Text} {o : BuildOptions}
    {bs : List Blob} {files : List BuiltFile} (hnull : ∀ b ∈ bs, '\x00' ∉ encoding)
    (h : List.Forall₂ (Written u out encoding o) bs files) :
    writeAll u out encoding o bs = (u, .ok files) := by
  induction h with
  | nil => rfl
  | cons hfirst _ ih =>
    rw [writeAll, writeBlob_again (hnull _ List.mem_cons_self) hfirst]
    dsimp only
    rw [ih fun b hb => hnull b (List.mem_cons_of_mem _ hb)]

theorem makeDirectories_again {t u : FileTree} {out : Path} {encoding : Text} {o : BuildOptions}
    {bs : List Blob} {files : List BuiltFile} (hnames : ∀ b ∈ bs, isName (outputName b) = true)
    (hwritten : List.Forall₂ (Written u out encoding o) bs files)
    (h : write t out encoding o bs = (u, .ok files)) :
    u.makeDirectories out = (u, .ok ()) := by
  obtain ⟨w, hmake, hwrite⟩ := exists_makeDirectories_of_write h
  cases hwritten with
  | nil =>
    obtain rfl : w = u := (Prod.mk.inj hwrite).1
    exact FileTree.makeDirectories_again hmake
  | @cons b _ _ _ hfirst _ =>
    -- a file that stands in the directory shows that this is there
    obtain ⟨_, _, _, _, _, _, hfound, _⟩ := hfirst
    obtain ⟨last, hlast, -⟩ := FileTree.find_eq_ok_iff.1 hfound
    have hne : outputName b ≠ [] := by
      intro hempty
      have hname := hnames b List.mem_cons_self
      rw [hempty] at hname
      cases hname
    obtain ⟨place, hplace, hnode⟩ := FileTree.locate_of_child hne hlast
    exact FileTree.makeDirectories_of_node hplace hnode

theorem write_again {t u : FileTree} {out : Path} {encoding : Text} {o : BuildOptions}
    {bs : List Blob} {files : List BuiltFile} (hnames : ∀ b ∈ bs, isName (outputName b) = true)
    (hnodup : (bs.map outputName).Nodup) (hnull : ∀ b ∈ bs, '\x00' ∉ encoding)
    (h : write t out encoding o bs = (u, .ok files)) :
    write u out encoding o bs = (u, .ok files) := by
  obtain ⟨hwritten, -⟩ := write_ok hnames hnodup h
  rw [write, makeDirectories_again hnames hwritten h]
  exact writeAll_again hnull hwritten

theorem putInto_of_write {t u : FileTree} {out : Path} {encoding : Text} {o : BuildOptions}
    {bs : List Blob} {files : List BuiltFile} (hnames : ∀ b ∈ bs, isName (outputName b) = true)
    (hnodup : (bs.map outputName).Nodup) (h : write t out encoding o bs = (u, .ok files)) :
    FileTree.PutInto out t u := by
  have hkept := extends_of_write hnames hnodup h
  obtain ⟨-, hothers⟩ := write_ok hnames hnodup h
  refine ⟨hkept, fun place hplace => ?_⟩
  have hnone : ∀ b ∈ bs, u.locate (outputPath out b) ≠ .ok place := by
    intro b hb hlocate
    obtain ⟨dir, hdir, -, rfl⟩ :=
      FileTree.follow_child (hnames b hb) (FileTree.follow_of_locate hlocate)
    have htarget : dir = t.target out := by
      rw [FileTree.eq_target_of_follow hdir, FileTree.target, FileTree.target, hkept.here]
    exact hplace _ (by rw [htarget])
  exact hothers place hnone

/-! ### The whole build again -/

section

variable {t u : FileTree} {root out : Path} {s : Settings} {qualifiers : List Text}
  {o : BuildOptions} {done : Logged BuildError BuildReport} {report : BuildReport}

theorem runOn_again {blobs chosen : List Blob} {files : List BuiltFile}
    (hchosen : chosen = (Qualifiers.ofList qualifiers).select s.naming blobs)
    (hclashes : clashes chosen = []) (h : write t out s.encoding o chosen = (u, .ok files))
    (hagain : write u out s.encoding o chosen = (u, .ok files)) :
    runOn u s qualifiers out o blobs = runOn t s qualifiers out o blobs := by
  subst hchosen
  unfold Qualifiers.select at hclashes h hagain
  simp only [runOn, if_pos hclashes, h, hagain]

/-- A build that gives a report and puts its files apart from where it finds them does the same when
it is run again, and leaves the tree as it is. The second run may only end with the error that a path
is too long now, and then too the tree is left as it is. -/
theorem run_again (hslash : '/' ∉ s.entryPoint)
    (hlanguages : ∀ dir, s.languagesPath root = .ok dir → Apart (t.target dir) (t.target out))
    (hsources : ∀ src, s.srcPath root = .ok src → Apart (t.target src) (t.target out))
    (hrun : run t root s qualifiers out o = (u, done)) (hreport : done.result = .ok report) :
    run u root s qualifiers out o = (u, done) ∨
      ∃ p, FileTree.TooLongLater t u root out s p ∧ (run u root s qualifiers out o).1 = u ∧
        (run u root s qualifiers out o).2.result = .error (.collect (.path ⟨.tooLong, p⟩)) := by
  obtain ⟨blobs, hblobs, hrunOn⟩ : ∃ blobs, (t.collect root s).result = .ok blobs ∧
      (runOn t s qualifiers out o blobs).2.result = .ok report := by
    apply exists_collect_of_run
    rw [hrun]
    exact hreport
  have hfirst := hrun
  rw [run_of_collect t root s qualifiers out o hblobs] at hfirst
  obtain ⟨htree, -⟩ := Prod.mk.inj hfirst
  obtain ⟨hclashes, hwrite, -⟩ := runOn_ok (Prod.ext htree rfl) hrunOn rfl
  have hnames : ∀ b ∈ (Qualifiers.ofList qualifiers).select s.naming blobs,
      isName (outputName b) = true :=
    fun b hb => FileTree.isName_of_collect hblobs b (List.mem_of_mem_filter hb)
  have hnull : ∀ b ∈ (Qualifiers.ofList qualifiers).select s.naming blobs, '\x00' ∉ s.encoding :=
    fun b hb => FileTree.null_not_mem_of_collect hblobs b (List.mem_of_mem_filter hb)
  have hnodup := nodup_of_no_clashes hclashes
  have hput := putInto_of_write hnames hnodup hwrite
  rcases hput.collect hslash hlanguages hsources hblobs with hsame |
    ⟨p, hlong, herror⟩
  · left
    have hagain := write_again hnames hnodup hnull hwrite
    rw [run_of_collect u root s qualifiers out o (hsame ▸ hblobs),
      runOn_again rfl hclashes hwrite hagain, hsame,
      ← run_of_collect t root s qualifiers out o hblobs, hrun]
  · obtain ⟨hstays, hresult⟩ := run_of_collect_error u root s qualifiers out o herror
    exact .inr ⟨p, hlong, hstays, hresult⟩

end

/-- The settings of `sampleRun`. -/
def engineSettings : Settings :=
  { entryPoint := "engine.js".toList, encoding := "latin-1".toList }

/-- The second run finds the directory that the first one has made. -/
theorem run_again_sampleRun : ∃ report, sampleRun.2.result = .ok report ∧
    sampleTree.node? ["built".toList, "js".toList] = none ∧
    run sampleRun.1 (Path.ofText "/".toList) engineSettings [":simulation".toList]
      (Path.ofText "/built/js".toList) { strip := true, shorten := true } =
        (sampleRun.1, sampleRun.2) := by
  have hdir : engineSettings.languagesPath (Path.ofText "/".toList) =
      .ok (Path.ofText "/src/languages".toList) := by decide +kernel
  have hsrc : engineSettings.srcPath (Path.ofText "/".toList) =
      .ok (Path.ofText "/src".toList) := by decide +kernel
  have hlanguages : ∀ dir, engineSettings.languagesPath (Path.ofText "/".toList) = .ok dir →
      Apart (sampleTree.target dir) (sampleTree.target (Path.ofText "/built/js".toList)) := by
    intro dir h
    rw [hdir] at h
    rw [← Except.ok.inj h]
    decide +kernel
  have hsources : ∀ src, engineSettings.srcPath (Path.ofText "/".toList) = .ok src →
      Apart (sampleTree.target src) (sampleTree.target (Path.ofText "/built/js".toList)) := by
    intro src h
    rw [hsrc] at h
    rw [← Except.ok.inj h]
    decide +kernel
  have hrun : run sampleTree (Path.ofText "/".toList) engineSettings [":simulation".toList]
      (Path.ofText "/built/js".toList) { strip := true, shorten := true } =
        (sampleRun.1, sampleRun.2) := Prod.mk.eta.symm
  have hthere : sampleTree.isDirectory (Path.ofText "/src".toList) = true := by decide +kernel
  have hnew : sampleTree.node? ["built".toList, "js".toList] = none := by decide +kernel
  obtain ⟨report, hreport⟩ := exists_report_sampleRun
  refine ⟨report, hreport, hnew, ?_⟩
  rcases run_again (by decide) hlanguages hsources hrun hreport with hagain | ⟨p, hlong, -⟩
  · exact hagain
  · cases hlong with
    | entryPoint hpath hnone _ _ =>
      rw [hsrc] at hpath
      rw [← Except.ok.inj hpath, hthere] at hnone
      cases hnone
    | directory _ hmade =>
      -- the path of the output is absolute
      have hrelative := hmade.relative
      cases hrelative

/-- A tree with a grammar and no sources. -/
def grammarTree : FileTree :=
  (FileTree.empty.put ["l".toList] .directory).put ["l".toList, "a.js".toList]
    (.file ("begin".toList.map fun c => c.toNat.toUInt8))

/-- A directory of sources that is not there and could not be. -/
def longSettings : Settings :=
  { srcDir := "p/".toList ++ List.replicate 256 'n', languagesDir := "l".toList }

/-- The first run makes the directory in front of the long name, and the second one comes upon it. -/
theorem not_run_again_longSettings :
    ¬ ∀ (t u : FileTree) (root out : Path) (s : Settings) (qualifiers : List Text)
        (o : BuildOptions) (done : Logged BuildError BuildReport) (report : BuildReport),
      '/' ∉ s.entryPoint →
      (∀ dir, s.languagesPath root = .ok dir → Apart (t.target dir) (t.target out)) →
      (∀ src, s.srcPath root = .ok src → Apart (t.target src) (t.target out)) →
      run t root s qualifiers out o = (u, done) → done.result = .ok report →
      (run u root s qualifiers out o).2.result = .ok report ∧
        (run u root s qualifiers out o).1 = u := by
  intro hall
  let first := run grammarTree (Path.ofText "/".toList) longSettings []
    (Path.ofText "/p/q".toList) {}
  have hdir : longSettings.languagesPath (Path.ofText "/".toList) =
      .ok (Path.ofText "/l".toList) := by decide +kernel
  have hsrc : longSettings.srcPath (Path.ofText "/".toList) =
      .ok ⟨1, ["p".toList, List.replicate 256 'n']⟩ := by decide +kernel
  have hreports : first.2.result.toOption.isSome = true := by decide +kernel
  have hfails : (run first.1 (Path.ofText "/".toList) longSettings [] (Path.ofText "/p/q".toList)
      {}).2.result.toOption.isSome = false := by decide +kernel
  obtain ⟨report, hreport⟩ := Option.isSome_iff_exists.1 hreports
  obtain ⟨hsame, -⟩ := hall grammarTree first.1 _ _ longSettings [] {} first.2 report (by decide)
    (fun dir h => by
      rw [hdir] at h
      rw [← Except.ok.inj h]
      decide +kernel)
    (fun src h => by
      rw [hsrc] at h
      rw [← Except.ok.inj h]
      decide +kernel) rfl (eq_ok_of_toOption hreport)
  rw [hsame] at hfails
  cases hfails

/-- Sixteen directories inside of one another, with long names. -/
def deepPlace : Place := List.replicate 16 (List.replicate 250 'a')

/-- Work is done in the innermost directory, in which there is that of the languages. -/
def deepTree : FileTree :=
  { (deepPlace.inits ++ [deepPlace ++ ["l".toList]]).foldl (fun t place => t.put place .directory)
      FileTree.empty with here := deepPlace }

/-- Leads through the directory of the languages and back. -/
def wayBack : Path := Path.ofText ("l/".toList ++ List.replicate 100 'x' ++ "/../../o".toList)

/-- The first run makes a directory below that of the languages, on the way to where it puts its files,
and the path of this directory is too long for the second run. -/
example :
    let settings : Settings := { languagesDir := "l".toList }
    let first := run deepTree ⟨1, deepPlace⟩ settings [] wayBack {}
    first.2.result.toOption.isSome = true ∧
      (run first.1 ⟨1, deepPlace⟩ settings [] wayBack {}).2.result.toOption.isSome = false := by
  decide +kernel

end Build
end GrammarKit
