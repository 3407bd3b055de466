import GrammarKit.Proofs.Collecting
import GrammarKit.Proofs.FilesBelow
import GrammarKit.Proofs.MissingMarks

/-!
# Reading the wanted files below a directory

Of all files at any depth below a directory those whose paths are wanted are read, in the order of
their paths, whatever order the tree has them in. The reading ends with the first file that is no
text in the encoding, and names it, unless all that this file lacks is a mark. Before any of them is
read it is asked of all that stands below the directory whether it is a file, and the reading ends there
if a path is too long, be it wanted or not.
-/

namespace GrammarKit.FileTree

open Text

/-! ### Trees that differ in their order only -/

/-- The same stands at every place, and work is done at the same place. In what order it came may
differ. -/
structure SameNodes (t u : FileTree) : Prop where
  here : u.here = t.here
  node : ∀ place, u.node? place = t.node? place

namespace SameNodes

variable {t u : FileTree} (h : SameNodes t u)
include h

theorem walk (place : Place) (names : List Text) : u.walk place names = t.walk place names := by
  induction names generalizing place with
  | nil => rfl
  | cons name names ih => simp only [FileTree.walk, h.node, ih]

theorem locate (p : Path) : u.locate p = t.locate p := by
  simp only [FileTree.locate, h.here, h.walk]

theorem find (p : Path) : u.find p = t.find p := by
  simp only [FileTree.find, h.locate, h.node]

theorem readText (p : Path) (encoding : Text) : u.readText p encoding = t.readText p encoding :=
  readText_congr (h.find p) encoding

theorem tooLongBelow_iff {dir p : Path} {place : Place} :
    u.TooLongBelow dir place p ↔ t.TooLongBelow dir place p := by
  simp only [TooLongBelow, h.node, h.locate]

/-- The same is read in both, or the walk ends in both at a path that is too long. -/
theorem readBlobs (dir : Path) (globs : List Text) (encoding : Text) :
    u.readBlobs dir globs encoding = t.readBlobs dir globs encoding ∨
      ∃ place p q, t.locate dir = .ok place ∧ t.TooLongBelow dir place p ∧
        t.TooLongBelow dir place q ∧
        t.readBlobs dir globs encoding = .error (.path ⟨.tooLong, p⟩) ∧
        u.readBlobs dir globs encoding = .error (.path ⟨.tooLong, q⟩) := by
  have hnames : ∀ place, u.fileNames place = t.fileNames place :=
    fun place => fileNames_congr fun names => by rw [h.node]
  have hblob : u.readBlob dir encoding = t.readBlob dir encoding := by
    funext name
    rw [readBlob, readBlob, h.readText]
  have hdirectory : ∀ place, u.isDirectoryAt place = t.isDirectoryAt place := by
    intro place
    rw [isDirectoryAt, isDirectoryAt, h.node]
  simp only [FileTree.readBlobs, h.locate, hdirectory, hnames, hblob]
  cases hplace : t.locate dir with
  | error fault => exact .inl rfl
  | ok place =>
    by_cases hthere : t.isDirectoryAt place = true
    swap
    · exact .inl (by simp only [if_neg hthere])
    cases hread : Glob.readAll globs with
    | error cause => exact .inl (by simp only [if_pos hthere])
    | ok read =>
      simp only [if_pos hthere]
      cases hwalk : t.walkFault? dir place with
      | none =>
        have hshort := walkFault?_eq_none_iff.1 hwalk
        rw [walkFault?_eq_none_iff.2 fun p => mt h.tooLongBelow_iff.1 (hshort p)]
        exact .inl rfl
      | some cause =>
        obtain ⟨p, hlong, rfl⟩ := tooLongBelow_of_walkFault? hwalk
        cases hwalk' : u.walkFault? dir place with
        | none => exact absurd (h.tooLongBelow_iff.2 hlong) (walkFault?_eq_none_iff.1 hwalk' p)
        | some cause' =>
          obtain ⟨q, hlong', rfl⟩ := tooLongBelow_of_walkFault? hwalk'
          exact .inr ⟨place, p, q, rfl, hlong, h.tooLongBelow_iff.1 hlong', rfl, rfl⟩

end SameNodes

/-! ### Wanted files -/

/-- Below a place stands a file with the given path and content, and its path is wanted. -/
def Wants (t : FileTree) (place : Place) (wanted : Text → Bool) (name : Text) (bytes : Bytes) :
    Prop :=
  wanted name = true ∧
    ∃ names, names ≠ [] ∧ t.node? (place ++ names) = some (.file bytes) ∧ join ['/'] names = name

section

variable {t : FileTree} {dir : Path} {place last : Place} {wanted : Text → Bool}
  {encoding name : Text} {bytes : Bytes} {e : Encoding}

theorem mem_wanted_iff :
    name ∈ (t.fileNames place).filter wanted ↔ ∃ bytes, t.Wants place wanted name bytes := by
  rw [List.mem_filter, mem_fileNames_iff]
  constructor
  · rintro ⟨⟨names, hne, ⟨bytes, hnode⟩, hjoin⟩, hwanted⟩
    exact ⟨bytes, hwanted, names, hne, hnode, hjoin⟩
  · rintro ⟨bytes, hwanted, names, hne, hnode, hjoin⟩
    exact ⟨⟨names, hne, ⟨bytes, hnode⟩, hjoin⟩, hwanted⟩

/-- A wanted file is read under its path, if that can be followed at all. -/
theorem Wants.readFile (h : t.Wants place wanted name bytes) (hplace : t.locate dir = .ok place)
    (hlast : t.locate (dir.join (Path.ofText name)) = .ok last) :
    t.readFile (dir.join (Path.ofText name)) = .ok bytes := by
  obtain ⟨-, names, hne, hnode, rfl⟩ := h
  rw [place_of_listed hplace hne (all_isName_of_append hnode) hlast] at hlast
  rw [FileTree.readFile, find_eq_ok_iff.2 ⟨_, hlast, hnode⟩]

theorem readText_of_readFile {p : Path} (hnull : '\x00' ∉ encoding)
    (he : Encoding.ofName? encoding = some e) (hfile : t.readFile p = .ok bytes) :
    t.readText p encoding =
      match e.readText bytes with
      | .ok text => .ok text
      | .error (.badBytes reason start _) => .error (.undecodable p encoding reason start)
      | .error .noMark => .error .noMark := by
  have hcontains : ¬ encoding.contains '\x00' = true := by
    rwa [List.contains_iff_mem]
  rw [FileTree.readText, if_neg hcontains, hfile]
  cases hread : e.readText bytes with
  | ok text => simp only [he, hread]
  | error cause => cases cause <;> simp only [he, hread]

theorem readText_of_locate {p : Path} {fault : FileFault} (hnull : '\x00' ∉ encoding)
    (h : t.locate p = .error fault) : t.readText p encoding = .error (.file ⟨fault, p⟩) := by
  have hcontains : ¬ encoding.contains '\x00' = true := by
    rwa [List.contains_iff_mem]
  have hfile : t.readFile p = .error ⟨fault, p⟩ := by
    simp only [FileTree.readFile, find, h]
  rw [FileTree.readText, if_neg hcontains, hfile]

/-- What a wanted file gives whose path can be followed. -/
theorem Wants.readText (h : t.Wants place wanted name bytes) (hplace : t.locate dir = .ok place)
    (hnull : '\x00' ∉ encoding) (he : Encoding.ofName? encoding = some e)
    (hlast : t.locate (dir.join (Path.ofText name)) = .ok last) :
    (∃ text, e.readText bytes = .ok text ∧
      t.readText (dir.join (Path.ofText name)) encoding = .ok text) ∨
    (∃ reason start bad, e.readText bytes = .error (.badBytes reason start bad) ∧
      t.readText (dir.join (Path.ofText name)) encoding =
        .error (.undecodable (dir.join (Path.ofText name)) encoding reason start)) ∨
    (e = .utf16 ∧ Encoding.Utf16.LacksMark bytes ∧
      t.readText (dir.join (Path.ofText name)) encoding = .error .noMark) := by
  rw [readText_of_readFile hnull he (h.readFile hplace hlast)]
  cases hread : e.readText bytes with
  | ok text => exact .inl ⟨text, rfl, rfl⟩
  | error cause =>
    cases cause with
    | badBytes reason start bad => exact .inr (.inl ⟨reason, start, bad, rfl, rfl⟩)
    | noMark =>
      obtain ⟨he, hlacks⟩ := Encoding.readText_eq_noMark_iff.1 hread
      exact .inr (.inr ⟨he, hlacks, rfl⟩)

theorem Wants.decodes (h : t.Wants place wanted name bytes) (hplace : t.locate dir = .ok place)
    (he : Encoding.ofName? encoding = some e) {text : Text}
    (htext : t.readText (dir.join (Path.ofText name)) encoding = .ok text) :
    e.readText bytes = .ok text := by
  obtain ⟨-, found, e', hfound, he', hread⟩ := readText_eq_ok_iff.1 htext
  obtain ⟨last, hlast, -⟩ := find_eq_ok_iff.1 hfound
  have hbytes := readFile_eq_ok_iff.1 (h.readFile hplace hlast)
  rw [hfound, Except.ok.injEq, Node.file.injEq] at hbytes
  rw [he, Option.some.injEq] at he'
  rw [he', ← hbytes, hread]

end

/-! ### What reading gives -/

/-- What is promised of reading the wanted files below a place: all of them in the order of their
paths, each once and with its text, or else the first that is no text, by its path. -/
inductive ReadsWanted (t : FileTree) (dir : Path) (place : Place) (wanted : Text → Bool)
    (encoding : Text) (e : Encoding) : Except CollectError (List Blob) → Prop
  | all {bs : List Blob} (sorted : (bs.map (·.name)).Pairwise (· < ·))
      (complete : ∀ name bytes, t.Wants place wanted name bytes → ∃ b ∈ bs, b.name = name)
      (text : ∀ b ∈ bs, ∃ bytes, t.Wants place wanted b.name bytes ∧
        e.readText bytes = .ok b.content) :
      ReadsWanted t dir place wanted encoding e (.ok bs)
  | undecodable {name : Text} {bytes : Bytes} {cause : Encoding.DecodeError}
      {reason : Encoding.DecodeReason} {start : Nat} (wants : t.Wants place wanted name bytes)
      (noText : e.readText bytes = .error cause)
      (earlier : ∀ other found, t.Wants place wanted other found → other < name →
        ∃ text, e.readText found = .ok text) :
      ReadsWanted t dir place wanted encoding e
        (.error (.read (.undecodable (dir.join (Path.ofText name)) encoding reason start)))

/-- What is promised of reading the wanted files below a directory; a path that leads to no directory
is said to lead to none. -/
structure KeepsPromise (t : FileTree) (dir : Path) (wanted : Text → Bool) (encoding : Text)
    (e : Encoding) (result : Except CollectError (List Blob)) : Prop where
  files : ∀ place, t.locate dir = .ok place → t.node? place = some .directory →
    t.ReadsWanted dir place wanted encoding e result
  noDirectory : t.isDirectory dir = false → result = .error (.noDirectory dir)

/-- The first of the wanted files that gives no text, whatever the reason is. -/
structure StopsAt (t : FileTree) (dir : Path) (place : Place) (wanted : Text → Bool)
    (encoding name : Text) (bytes : Bytes) : Prop where
  wants : t.Wants place wanted name bytes
  noText : ∀ text, t.readText (dir.join (Path.ofText name)) encoding ≠ .ok text
  earlier : ∀ other found, t.Wants place wanted other found → other < name →
    ∃ text, t.readText (dir.join (Path.ofText other)) encoding = .ok text

section

variable {t : FileTree} {dir : Path} {place : Place} {wanted : Text → Bool}
  {encoding name : Text} {bytes : Bytes} {e : Encoding} {globs : List Text} {read : List Glob}

theorem readBlobs_of_directory (hplace : t.locate dir = .ok place)
    (hnode : t.node? place = some .directory) (hread : Glob.readAll globs = .ok read)
    (hshort : ∀ p, ¬ t.TooLongBelow dir place p) :
    t.readBlobs dir globs encoding =
      (((t.fileNames place).filter (Glob.choose read)).mapM (t.readBlob dir encoding)).mapError
        .read := by
  have hdirectory : t.isDirectoryAt place = true := decide_eq_true hnode
  simp only [readBlobs, hplace, hdirectory, if_true, hread, walkFault?_eq_none_iff.2 hshort]

/-- The walk ends at a path that is too long if there is one, and nothing is read. -/
theorem TooLongBelow.exists_readBlobs {p : Path} (h : t.TooLongBelow dir place p)
    (hplace : t.locate dir = .ok place) (hnode : t.node? place = some .directory)
    (hread : Glob.readAll globs = .ok read) :
    ∃ q, t.TooLongBelow dir place q ∧
      t.readBlobs dir globs encoding = .error (.path ⟨.tooLong, q⟩) := by
  have hdirectory : t.isDirectoryAt place = true := decide_eq_true hnode
  cases hwalk : t.walkFault? dir place with
  | none => exact absurd h (walkFault?_eq_none_iff.1 hwalk p)
  | some cause =>
    obtain ⟨q, hlong, rfl⟩ := tooLongBelow_of_walkFault? hwalk
    refine ⟨q, hlong, ?_⟩
    simp only [readBlobs, hplace, hdirectory, if_true, hread, hwalk]

theorem readBlob_eq_error_iff {cause : ReadError} :
    t.readBlob dir encoding name = .error cause ↔
      t.readText (dir.join (Path.ofText name)) encoding = .error cause := by
  unfold readBlob
  cases t.readText (dir.join (Path.ofText name)) encoding with
  | ok text => exact ⟨nofun, nofun⟩
  | error found => simp [Except.map]

theorem exists_readBlob_iff :
    (∃ b, t.readBlob dir encoding name = .ok b) ↔
      ∃ text, t.readText (dir.join (Path.ofText name)) encoding = .ok text := by
  constructor
  · rintro ⟨b, hb⟩
    exact ⟨b.content, (readBlob_eq_ok_iff.1 hb).2⟩
  · rintro ⟨text, htext⟩
    exact ⟨⟨name, text⟩, readBlob_eq_ok_iff.2 ⟨rfl, htext⟩⟩

/-- If no path is too long, the reading ends with an error exactly if there is a file at which it
stops. -/
theorem readBlobs_eq_error_iff (hplace : t.locate dir = .ok place)
    (hnode : t.node? place = some .directory) (hread : Glob.readAll globs = .ok read)
    (hshort : ∀ p, ¬ t.TooLongBelow dir place p) {cause : CollectError} :
    t.readBlobs dir globs encoding = .error cause ↔
      ∃ name bytes reason, t.StopsAt dir place (Glob.choose read) encoding name bytes ∧
        t.readText (dir.join (Path.ofText name)) encoding = .error reason ∧
        cause = .read reason := by
  have hsorted : ((t.fileNames place).filter (Glob.choose read)).Pairwise (· < ·) :=
    (pairwise_fileNames t place).filter _
  have hmap : t.readBlobs dir globs encoding = .error cause ↔ ∃ reason,
      ((t.fileNames place).filter (Glob.choose read)).mapM (t.readBlob dir encoding) =
        .error reason ∧ cause = .read reason := by
    rw [readBlobs_of_directory hplace hnode hread hshort]
    cases ((t.fileNames place).filter (Glob.choose read)).mapM (t.readBlob dir encoding) with
    | ok bs => simp [Except.mapError]
    | error found => simp [Except.mapError, eq_comm]
  rw [hmap]
  constructor
  · rintro ⟨reason, hreason, rfl⟩
    obtain ⟨front, name, back, hnames, hfront, hname⟩ := mapM_eq_error_iff.1 hreason
    have htext := readBlob_eq_error_iff.1 hname
    obtain ⟨bytes, hwants⟩ := mem_wanted_iff.1 (by rw [hnames]; simp :
      name ∈ (t.fileNames place).filter (Glob.choose read))
    refine ⟨name, bytes, reason, ⟨hwants, ?_, ?_⟩, htext, rfl⟩
    · intro text
      rw [htext]
      exact nofun
    · intro other found hother hlt
      -- the paths are sorted, so what comes before `name` has been read before it
      have hmem := mem_wanted_iff.2 ⟨found, hother⟩
      rw [hnames] at hmem hsorted
      rcases List.mem_append.1 hmem with hmem | hmem
      · exact exists_readBlob_iff.1 (hfront other hmem)
      · rcases List.mem_cons.1 hmem with rfl | hmem
        · exact absurd hlt (lt_irrefl _)
        · have hback := (List.pairwise_cons.1 (List.pairwise_append.1 hsorted).2.1).1 other hmem
          exact absurd hlt (lt_asymm hback)
  · rintro ⟨name, bytes, reason, hstops, htext, rfl⟩
    obtain ⟨front, back, hnames⟩ := List.append_of_mem (mem_wanted_iff.2 ⟨bytes, hstops.wants⟩)
    refine ⟨reason, mapM_eq_error_iff.2 ⟨front, name, back, hnames, ?_,
      readBlob_eq_error_iff.2 htext⟩, rfl⟩
    intro other hother
    have hmem : other ∈ (t.fileNames place).filter (Glob.choose read) := by
      rw [hnames]
      exact List.mem_append_left _ hother
    obtain ⟨found, hfound⟩ := mem_wanted_iff.1 hmem
    rw [hnames] at hsorted
    have hlt := (List.pairwise_append.1 hsorted).2.2 other hother name List.mem_cons_self
    exact exists_readBlob_iff.2 (hstops.earlier other found hfound hlt)

/-- All wanted files are read: what the result is then. -/
theorem readsWanted_of_readBlobs {bs : List Blob} (he : Encoding.ofName? encoding = some e)
    (hplace : t.locate dir = .ok place)
    (hread : Glob.readAll globs = .ok read) (h : t.readBlobs dir globs encoding = .ok bs) :
    t.ReadsWanted dir place (Glob.choose read) encoding e (.ok bs) := by
  obtain ⟨place', read', hplace', -, hread', -, hall⟩ := readBlobs_eq_ok_iff.1 h
  rw [hplace] at hplace'
  rw [hread] at hread'
  obtain rfl := Except.ok.inj hplace'
  obtain rfl := Except.ok.inj hread'
  have hnames := names_of_readBlobs hall
  refine .all ?_ ?_ ?_
  · rw [hnames]
    exact (pairwise_fileNames t place).filter _
  · intro name bytes hwants
    have hmem : name ∈ bs.map (·.name) := by
      rw [hnames]
      exact mem_wanted_iff.2 ⟨bytes, hwants⟩
    obtain ⟨b, hb, hbname⟩ := List.mem_map.1 hmem
    exact ⟨b, hb, hbname⟩
  · intro b hb
    have hmem : b.name ∈ (t.fileNames place).filter (Glob.choose read) := by
      rw [← hnames]
      exact List.mem_map_of_mem hb
    obtain ⟨bytes, hwants⟩ := mem_wanted_iff.1 hmem
    exact ⟨bytes, hwants, hwants.decodes hplace he (text_of_readBlobs h hb)⟩

theorem StopsAt.exists_readBlobs (h : t.StopsAt dir place (Glob.choose read) encoding name bytes)
    (hplace : t.locate dir = .ok place) (hnode : t.node? place = some .directory)
    (hread : Glob.readAll globs = .ok read) (hshort : ∀ p, ¬ t.TooLongBelow dir place p) :
    ∃ reason, t.readText (dir.join (Path.ofText name)) encoding = .error reason ∧
      t.readBlobs dir globs encoding = .error (.read reason) := by
  cases hreason : t.readText (dir.join (Path.ofText name)) encoding with
  | ok text => exact absurd hreason (h.noText text)
  | error reason =>
    exact ⟨reason, rfl,
      (readBlobs_eq_error_iff hplace hnode hread hshort).2 ⟨name, bytes, reason, h, hreason, rfl⟩⟩

/-- Every fault on the way but the length of the path means that there is no directory. -/
theorem noDirectory_iff :
    (t.isDirectory dir = false → t.readBlobs dir globs encoding = .error (.noDirectory dir)) ↔
      t.locate dir ≠ .error .tooLong := by
  rw [← Bool.not_eq_true, isDirectory_eq_true_iff]
  cases hplace : t.locate dir with
  | error fault => cases fault <;> simp [readBlobs, hplace, FileFault.isAbsence]
  | ok place =>
    constructor
    · intro _ hlong
      cases hlong
    · intro _ hno
      have hdirectory : t.isDirectoryAt place = false :=
        eq_false_of_ne_true fun hyes => hno ⟨place, rfl, hyes⟩
      simp only [readBlobs, hplace, hdirectory, Bool.false_eq_true, if_false]

/-- The wanted files below a directory are read as is promised exactly if neither the path of the
directory nor one below it is too long, and if the first file that gives no text, should there be one,
has a path that can be followed and lacks more than a mark. Where a path below the directory is too
long, wanted or not, the error says so of one such path. In what order the tree has its files makes no
difference, but for which one of the paths that are too long is named. -/
theorem readBlobs_promise_iff (hnull : '\x00' ∉ encoding)
    (he : Encoding.ofName? encoding = some e) (hread : Glob.readAll globs = .ok read) :
    (t.KeepsPromise dir (Glob.choose read) encoding e (t.readBlobs dir globs encoding) ↔
      t.locate dir ≠ .error .tooLong ∧
      ∀ place, t.locate dir = .ok place → t.node? place = some .directory →
        (∀ p, ¬ t.TooLongBelow dir place p) ∧
        ∀ name bytes, t.StopsAt dir place (Glob.choose read) encoding name bytes →
          (∃ last, t.locate (dir.join (Path.ofText name)) = .ok last) ∧
            ¬ (e = .utf16 ∧ Encoding.Utf16.LacksMark bytes)) ∧
    (∀ place p, t.locate dir = .ok place → t.node? place = some .directory →
      t.TooLongBelow dir place p → ∃ q, t.TooLongBelow dir place q ∧
        t.readBlobs dir globs encoding = .error (.path ⟨.tooLong, q⟩)) ∧
    ∀ u, SameNodes t u → u.readBlobs dir globs encoding = t.readBlobs dir globs encoding ∨
      ∃ place p q, t.locate dir = .ok place ∧ t.TooLongBelow dir place p ∧
        t.TooLongBelow dir place q ∧
        t.readBlobs dir globs encoding = .error (.path ⟨.tooLong, p⟩) ∧
        u.readBlobs dir globs encoding = .error (.path ⟨.tooLong, q⟩) := by
  refine ⟨⟨fun hpromise => ⟨noDirectory_iff.1 hpromise.noDirectory, fun place hplace hnode => ?_⟩,
    fun ⟨hlong, hstop⟩ => ⟨fun place hplace hnode => ?_, noDirectory_iff.2 hlong⟩⟩,
    fun place p hplace hnode hlong => hlong.exists_readBlobs hplace hnode hread,
    fun u hsame => hsame.readBlobs _ _ _⟩
  · have hfiles := hpromise.files place hplace hnode
    have hshort : ∀ p, ¬ t.TooLongBelow dir place p := by
      intro p hlong
      obtain ⟨q, -, hresult⟩ := hlong.exists_readBlobs hplace hnode hread
      rw [hresult] at hfiles
      cases hfiles
    refine ⟨hshort, fun name bytes hstops => ?_⟩
    obtain ⟨reason, hreason, hresult⟩ := hstops.exists_readBlobs hplace hnode hread hshort
    rw [hresult] at hfiles
    -- the promise is kept, so the file at which the reading stops is one that is named
    cases hfiles with
    | @undecodable named _ cause _ start hwants hnoText hearlier =>
      cases hlast : t.locate (dir.join (Path.ofText name)) with
      | error fault =>
        rw [readText_of_locate hnull hlast] at hreason
        cases hreason
      | ok last =>
        refine ⟨⟨last, rfl⟩, fun hmark => ?_⟩
        have hnoMark : t.readText (dir.join (Path.ofText name)) encoding = .error .noMark := by
          rw [readText_of_readFile hnull he (hstops.wants.readFile hplace hlast),
            Encoding.readText_eq_noMark_iff.2 hmark]
        rw [hreason] at hnoMark
        cases hnoMark
  · obtain ⟨hshort, hstop⟩ := hstop place hplace hnode
    cases hresult : t.readBlobs dir globs encoding with
    | ok bs => exact readsWanted_of_readBlobs he hplace hread hresult
    | error cause =>
      obtain ⟨name, bytes, reason, hstops, hreason, rfl⟩ :=
        (readBlobs_eq_error_iff hplace hnode hread hshort).1 hresult
      obtain ⟨⟨last, hlast⟩, hmark⟩ := hstop name bytes hstops
      rcases hstops.wants.readText hplace hnull he hlast with ⟨text, -, htext⟩ |
        ⟨fault, start, bad, hbad, hundecodable⟩ | ⟨hutf, hlacks, -⟩
      · exact absurd htext (hstops.noText text)
      · rw [hreason] at hundecodable
        rw [Except.error.inj hundecodable]
        refine .undecodable hstops.wants hbad fun other found hother hlt => ?_
        obtain ⟨text, htext⟩ := hstops.earlier other found hother hlt
        exact ⟨text, hother.decodes hplace he htext⟩
      · exact absurd ⟨hutf, hlacks⟩ hmark

end

/-- A tree with three files that are no texts, one of them not wanted. In the order of the paths the
hyphen is before the stroke. -/
def spoiledTree : FileTree :=
  [(["d"], .directory), (["d", "a"], .directory), (["d", "a", "b.js"], .file [0xff]),
    (["d", "a.js"], .file [0x61]), (["d", "a-b.js"], .file [0x62, 0xff]),
    (["d", "a.css"], .file [0xff])].foldl
    (fun t e => t.put (e.1.map String.toList) e.2) .empty

theorem readBlobs_promise_spoiledTree : ∃ read,
    Glob.readAll ["*.js".toList] = .ok read ∧
    spoiledTree.readBlobs (Path.ofText "/d".toList) ["*.js".toList] "utf-8".toList =
      .error (.read (.undecodable (Path.ofText "/d/a-b.js".toList) "utf-8".toList
        .invalidStart 1)) ∧
    spoiledTree.KeepsPromise (Path.ofText "/d".toList) (Glob.choose read) "utf-8".toList .utf8
      (spoiledTree.readBlobs (Path.ofText "/d".toList) ["*.js".toList] "utf-8".toList) := by
  have hreads : (Glob.readAll ["*.js".toList]).toOption.isSome = true := by decide +kernel
  have hplace : spoiledTree.locate (Path.ofText "/d".toList) = .ok ["d".toList] := by decide +kernel
  have hresult : spoiledTree.readBlobs (Path.ofText "/d".toList) ["*.js".toList] "utf-8".toList =
      .error (.read (.undecodable (Path.ofText "/d/a-b.js".toList) "utf-8".toList
        .invalidStart 1)) := by decide +kernel
  cases hread : Glob.readAll ["*.js".toList] with
  | error fault =>
    rw [hread] at hreads
    cases hreads
  | ok read =>
    refine ⟨read, rfl, hresult, (readBlobs_promise_iff (by decide) (by decide +kernel) hread).1.2
      ⟨by rw [hplace]; exact nofun, fun place hfound hnode => ?_⟩⟩
    have hshort : ∀ p, ¬ spoiledTree.TooLongBelow (Path.ofText "/d".toList) place p := by
      rw [hplace] at hfound
      rw [← Except.ok.inj hfound]
      exact walkFault?_eq_none_iff.1 (by decide +kernel)
    refine ⟨hshort, fun name bytes hstops => ⟨?_, nofun⟩⟩
    obtain ⟨reason, hreason, hstopped⟩ := hstops.exists_readBlobs hfound hnode hread hshort
    rw [hresult] at hstopped
    cases hlast : spoiledTree.locate ((Path.ofText "/d".toList).join (Path.ofText name)) with
    | ok last => exact ⟨last, rfl⟩
    | error fault =>
      rw [readText_of_locate (by decide) hlast] at hreason
      cases hreason
      cases hstopped

/-- A tree with a file that has no mark. -/
def unmarkedTree : FileTree :=
  (FileTree.empty.put ["d".toList] .directory).put ["d".toList, "a.js".toList] (.file [0x61, 0])

theorem not_keepsPromise_unmarkedTree :
    ¬ ∀ (t : FileTree) (dir : Path) (globs : List Text) (read : List Glob) (encoding : Text)
        (e : Encoding), '\x00' ∉ encoding → Encoding.ofName? encoding = some e →
      Glob.readAll globs = .ok read →
      t.KeepsPromise dir (Glob.choose read) encoding e (t.readBlobs dir globs encoding) := by
  intro hall
  have hreads : (Glob.readAll ["*.js".toList]).toOption.isSome = true := by decide +kernel
  cases hread : Glob.readAll ["*.js".toList] with
  | error fault =>
    rw [hread] at hreads
    cases hreads
  | ok read =>
    have hresult : unmarkedTree.readBlobs (Path.ofText "/d".toList) ["*.js".toList]
        "utf-16".toList = .error (.read .noMark) := by decide +kernel
    have hfiles := (hall unmarkedTree (Path.ofText "/d".toList) ["*.js".toList] read
      "utf-16".toList .utf16 (by decide) (by decide +kernel) hread).files ["d".toList]
      (by decide +kernel) (by decide +kernel)
    rw [hresult] at hfiles
    cases hfiles

end GrammarKit.FileTree
