import GrammarKit.Proofs.EntryPoint
import GrammarKit.Proofs.GlobListings
import Mathlib.Data.List.Infix

/-!
# The files of the languages

The directory of the languages and that of the sources are read through globs. If no directory has
the name of a grammar and no name ends with a newline, exactly the files are collected that the
settings speak of.
-/

namespace GrammarKit

open Text

/-! ### Settings made of plain characters -/

/-- A letter or digit of ASCII, a dot, an underscore or a hyphen. -/
def isSimpleChar (c : Char) : Bool :=
  let n := c.toNat
  (48 ≤ n && n ≤ 57) || (65 ≤ n && n ≤ 90) || (97 ≤ n && n ≤ 122) || c = '.' || c = '_' || c = '-'

def IsSimple (t : Text) : Prop := t ≠ [] ∧ t.all isSimpleChar = true

theorem isSimpleChar_isBlank {c : Char} (h : isSimpleChar c = true) : isBlank c = false := by
  have hrange : 45 ≤ c.toNat ∧ c.toNat ≤ 122 := by
    simp only [isSimpleChar, Bool.or_eq_true, Bool.and_eq_true, decide_eq_true_eq] at h
    rcases h with ((((h | h) | h) | rfl) | rfl) | rfl
    · omega
    · omega
    · omega
    all_goals decide
  simp only [isBlank, Bool.or_eq_false_iff, Bool.and_eq_false_iff, decide_eq_false_iff_not,
    beq_eq_false_iff_ne]
  omega

section

variable {t : Text} (h : IsSimple t)
include h

theorem IsSimple.ne_of_mem {c d : Char} (hc : c ∈ t) (hd : isSimpleChar d = false) : c ≠ d := by
  rintro rfl
  rw [List.all_eq_true.1 h.2 _ hc] at hd
  cases hd

theorem IsSimple.isLiteral : Glob.IsLiteral t :=
  fun _ hc => ⟨h.ne_of_mem hc (by decide), h.ne_of_mem hc (by decide)⟩

theorem IsSimple.isPlain : Glob.IsPlain t where
  nonempty := h.1
  plain _ hc := ⟨h.ne_of_mem hc (by decide), h.ne_of_mem hc (by decide), h.ne_of_mem hc (by decide)⟩
  untrimmed _ hc := isSimpleChar_isBlank (List.all_eq_true.1 h.2 _ (List.mem_of_getLast? hc))

theorem IsSimple.isPlain_star : Glob.IsPlain ('*' :: t) where
  nonempty := List.cons_ne_nil _ _
  plain := by
    rw [List.forall_mem_cons]
    exact ⟨by decide, h.isPlain.plain⟩
  untrimmed := by
    obtain ⟨c, rest, rfl⟩ := List.exists_cons_of_ne_nil h.1
    rw [List.getLast?_cons_cons]
    exact h.isPlain.untrimmed

theorem IsSimple.not_suffix_newline {name : Text} : ¬ t <:+ name ++ ['\n'] := by
  intro hends
  rcases List.suffix_concat_iff.1 hends with hnil | ⟨front, rfl, -⟩
  · exact h.1 hnil
  · exact h.ne_of_mem (c := '\n') (by simp) (by decide) rfl

end

namespace Glob

section

variable {suffix : Text} (h : IsSimple suffix)
include h

theorem spells_star_iff_suffix {name : Text} (hslash : '/' ∉ name) :
    Spells ('*' :: suffix) name ↔ suffix <:+ name := by
  rw [spells_star_iff h.isLiteral]
  constructor
  · rintro ⟨taken, rfl, -⟩
    exact List.suffix_append _ _
  · rintro ⟨taken, rfl⟩
    exact ⟨taken, rfl, fun hmem => hslash (List.mem_append_left _ hmem)⟩

theorem spells_star_newline_iff {first : Text} (hslash : '/' ∉ first) :
    (∃ name, first = name ++ ['\n'] ∧ Spells ('*' :: suffix) name) ↔ suffix ++ ['\n'] <:+ first := by
  constructor
  · rintro ⟨name, rfl, hname⟩
    have hfree : '/' ∉ name := fun hmem => hslash (List.mem_append_left _ hmem)
    obtain ⟨taken, rfl⟩ := (spells_star_iff_suffix h hfree).1 hname
    exact ⟨taken, (List.append_assoc ..).symm⟩
  · rintro ⟨taken, rfl⟩
    rw [← List.append_assoc] at hslash ⊢
    have hfree : '/' ∉ taken ++ suffix := fun hmem => hslash (List.mem_append_left _ hmem)
    exact ⟨taken ++ suffix, rfl, (spells_star_iff_suffix h hfree).2 (List.suffix_append _ _)⟩

theorem takesNames_star_iff {names : List Text} (hall : names.all isName = true) :
    TakesNames ('*' :: suffix) names ↔ ∃ first others, names = first :: others ∧
      (suffix <:+ first ∨ (others = [] ∧ suffix ++ ['\n'] <:+ first)) := by
  cases names with
  | nil => simp [TakesNames]
  | cons first others =>
    have hslash : '/' ∉ first := isName_slash (List.all_eq_true.1 hall _ List.mem_cons_self)
    simp only [TakesNames, List.cons.injEq]
    constructor
    · rintro ⟨_, _, ⟨rfl, rfl⟩, htakes⟩
      rw [spells_star_iff_suffix h hslash, spells_star_newline_iff h hslash] at htakes
      exact ⟨first, others, ⟨rfl, rfl⟩, htakes⟩
    · rintro ⟨_, _, ⟨rfl, rfl⟩, htakes⟩
      rw [← spells_star_iff_suffix h hslash, ← spells_star_newline_iff h hslash] at htakes
      exact ⟨first, others, ⟨rfl, rfl⟩, htakes⟩

end

theorem takesNames_literal_iff {word : Text} (h : IsSimple word) {names : List Text} :
    TakesNames word names ↔ (∃ others, names = word :: others) ∨ names = [word ++ ['\n']] := by
  simp only [TakesNames, spells_literal_iff h.isLiteral]
  constructor
  · rintro ⟨first, others, rfl, rfl | ⟨rfl, name, rfl, rfl⟩⟩
    · exact .inl ⟨others, rfl⟩
    · exact .inr rfl
  · rintro (⟨others, rfl⟩ | rfl)
    · exact ⟨word, others, rfl, .inl rfl⟩
    · exact ⟨word ++ ['\n'], [], rfl, .inr ⟨rfl, word, rfl, rfl⟩⟩

end Glob

namespace FileTree

/-! ### What is collected -/

/-- The files that the settings speak of: the entry point, if it is a file, and before anything else,
and the files directly in the directory of the languages whose names end with the suffix. -/
structure TakesFiles (t : FileTree) (s : Settings) (src dir : Path) (place : Place)
    (entry languages : List Blob) : Prop where
  entry : (t.isFile? (entryPath src s) = .ok true ∧
      ∃ text, t.readText (entryPath src s) s.encoding = .ok text ∧
        entry = [⟨s.entryPoint, text⟩]) ∨
    (t.isFile? (entryPath src s) = .ok false ∧ entry = [])
  languages : t.Lists s.encoding dir place
    (fun names => ∃ name, names = [name] ∧ s.descriptorSuffix <:+ name) languages

/-- The files that the globs take: behind a name that ends with the suffix more names may follow, and
behind a last name a newline. -/
structure TakesGlobbed (t : FileTree) (s : Settings) (src dir : Path) (place : Place)
    (entry languages : List Blob) : Prop where
  entry : (t.isFile? (entryPath src s) = .ok true ∧ ∃ srcPlace, t.locate src = .ok srcPlace ∧
      (∃ content, t.node? (srcPlace ++ [s.entryPoint]) = some (.file content)) ∧
      t.Lists s.encoding src srcPlace
        (fun names => names = [s.entryPoint] ∨ names = [s.entryPoint ++ ['\n']]) entry) ∨
    (t.isFile? (entryPath src s) = .ok false ∧ entry = [])
  languages : t.Lists s.encoding dir place (fun names => ∃ first others, names = first :: others ∧
    (s.descriptorSuffix <:+ first ∨ (others = [] ∧ s.descriptorSuffix ++ ['\n'] <:+ first))) languages

/-- Nothing else is taken by the globs than the settings speak of. -/
structure NothingElse (t : FileTree) (s : Settings) (src : Path) (place : Place) : Prop where
  /-- No file lies below a directory with a name that ends with the suffix. -/
  deeper : ∀ first others content, others ≠ [] →
    t.node? (place ++ first :: others) = some (.file content) → ¬ s.descriptorSuffix <:+ first
  newline : ∀ name content, t.node? (place ++ [name]) = some (.file content) →
    ¬ s.descriptorSuffix ++ ['\n'] <:+ name
  entryNewline : ∀ srcPlace content, t.isFile? (entryPath src s) = .ok true →
    t.locate src = .ok srcPlace →
    t.node? (srcPlace ++ [s.entryPoint ++ ['\n']]) ≠ some (.file content)

/-- No path is too long below the directory of the languages, nor below that of the sources if there is
an entry point. -/
structure NoneTooLong (t : FileTree) (s : Settings) (src dir : Path) (place : Place) : Prop where
  languages : ∀ p, ¬ t.TooLongBelow dir place p
  entry : ∀ srcPlace, t.isFile? (entryPath src s) = .ok true → t.locate src = .ok srcPlace →
    ∀ p, ¬ t.TooLongBelow src srcPlace p

section

variable {t : FileTree} {root : Path} {s : Settings} {src dir : Path} {place : Place}
  {entry languages : List Blob}

theorem exists_place_of_isFile (hentry : IsSimple s.entryPoint) (hdot : s.entryPoint ≠ ['.'])
    (hfile : t.isFile? (entryPath src s) = .ok true) :
    ∃ srcPlace, t.locate src = .ok srcPlace ∧ t.node? srcPlace = some .directory ∧
      ∃ content, t.node? (srcPlace ++ [s.entryPoint]) = some (.file content) := by
  have hslash : '/' ∉ s.entryPoint := fun hmem => (hentry.isPlain.plain _ hmem).1 rfl
  have hpart : Path.isPart s.entryPoint = true := by simp [Path.isPart, hentry.1, hdot]
  have hpath : entryPath src s = src.child s.entryPoint := by
    rw [entryPath, ofText_of_no_slash hslash, List.filter_cons_of_pos hpart]
    rfl
  obtain ⟨last, content, hlast, -⟩ := isFile_eq_true_iff.1 hfile
  rw [hpath] at hlast
  obtain ⟨srcPlace, hplace, hnode⟩ := locate_of_child hentry.1 hlast
  obtain ⟨-, -, hcontent⟩ := place_of_entry hplace hnode hslash hfile
  exact ⟨srcPlace, hplace, hnode, hcontent⟩

/-- What the glob of the entry point takes next to the entry point. -/
theorem takesNames_entry_iff (hentry : IsSimple s.entryPoint) {srcPlace : Place}
    {content : Bytes} (hcontent : t.node? (srcPlace ++ [s.entryPoint]) = some (.file content))
    {names : List Text} {node : Node} (hnode : t.node? (srcPlace ++ names) = some node) :
    Glob.TakesNames s.entryPoint names ↔
      names = [s.entryPoint] ∨ names = [s.entryPoint ++ ['\n']] := by
  rw [Glob.takesNames_literal_iff hentry]
  refine or_congr_left ⟨?_, fun h => ⟨[], h⟩⟩
  rintro ⟨others, rfl⟩
  by_cases hne : others = []
  · rw [hne]
  · -- the entry point is a file, and nothing lies below a file
    rw [← List.singleton_append, ← List.append_assoc] at hnode
    rw [directory_of_below hne hnode] at hcontent
    cases hcontent

theorem takesNames_suffix_iff (hsuffix : IsSimple s.descriptorSuffix) {names : List Text}
    {node : Node} (hnode : t.node? (place ++ names) = some node) :
    Glob.TakesNames ('*' :: s.descriptorSuffix) names ↔ ∃ first others, names = first :: others ∧
      (s.descriptorSuffix <:+ first ∨ (others = [] ∧ s.descriptorSuffix ++ ['\n'] <:+ first)) :=
  Glob.takesNames_star_iff hsuffix (all_isName_of_append hnode)

theorem ne_star_of_simple {word : Text} (h : IsSimple word) :
    word ≠ ['*'] ∧ word ≠ Glob.twoStars ∧ '*' :: word ≠ ['*'] ∧ '*' :: word ≠ Glob.twoStars := by
  have hstar : '*' ∉ word := fun hmem => h.ne_of_mem hmem (by decide) rfl
  refine ⟨?_, ?_, ?_, ?_⟩
  · rintro rfl
    exact hstar List.mem_cons_self
  · rintro rfl
    exact hstar List.mem_cons_self
  · intro heq
    exact h.1 (List.cons.inj heq).2
  · intro heq
    rw [(List.cons.inj heq).2] at hstar
    exact hstar List.mem_cons_self

theorem Collects.takesGlobbed (hsuffix : IsSimple s.descriptorSuffix)
    (hentry : IsSimple s.entryPoint) (hdot : s.entryPoint ≠ ['.']) (hplace : t.locate dir = .ok place)
    (h : t.Collects s src dir entry languages) : t.TakesGlobbed s src dir place entry languages := by
  refine ⟨?_, ?_⟩
  · rcases h.entry with ⟨hfile, hread⟩ | hno
    · obtain ⟨srcPlace, hsrc, -, content, hcontent⟩ := exists_place_of_isFile hentry hdot hfile
      obtain ⟨hone, htwo, -⟩ := ne_star_of_simple hentry
      refine .inl ⟨hfile, srcPlace, hsrc, ⟨content, hcontent⟩, ?_⟩
      exact (lists_of_readBlobs hentry.isPlain hone htwo hsrc hread).congr
        fun _ _ _ hnode => takesNames_entry_iff hentry hcontent hnode
    · exact .inr hno
  · obtain ⟨-, -, hone, htwo⟩ := ne_star_of_simple hsuffix
    exact (lists_of_readBlobs hsuffix.isPlain_star hone htwo hplace h.languages).congr
      fun _ _ _ hnode => takesNames_suffix_iff hsuffix hnode

theorem TakesGlobbed.takesFiles (h : t.TakesGlobbed s src dir place entry languages)
    (helse : t.NothingElse s src place) : t.TakesFiles s src dir place entry languages := by
  refine ⟨?_, ?_⟩
  · rcases h.entry with ⟨hfile, srcPlace, hsrc, hcontent, hlists⟩ | hno
    · have hone : t.Lists s.encoding src srcPlace (· = [s.entryPoint]) entry := by
        refine hlists.congr fun names content _ hnode => or_iff_left ?_
        rintro rfl
        exact helse.entryNewline srcPlace content hfile hsrc hnode
      exact .inl ⟨hfile, hone.eq_singleton hcontent⟩
    · exact .inr hno
  · refine h.languages.congr fun names content _ hnode => ?_
    constructor
    · rintro ⟨first, others, rfl, hends | ⟨rfl, hnewline⟩⟩
      · by_cases hne : others = []
        · exact ⟨first, by rw [hne], hends⟩
        · exact absurd hends (helse.deeper first others content hne hnode)
      · exact absurd hnewline (helse.newline first content hnode)
    · rintro ⟨name, rfl, hends⟩
      exact ⟨name, [], rfl, .inl hends⟩

theorem Lists.name_cases {encoding word : Text}
    (h : t.Lists encoding dir place (fun names => names = [word] ∨ names = [word ++ ['\n']])
      languages) {name : Text} (hmem : name ∈ languages.map (·.name)) :
    name = word ∨ name = word ++ ['\n'] := by
  obtain ⟨_, -, -, rfl, rfl | rfl⟩ := (h.mem_iff name).1 hmem
  · exact .inl (join_singleton _ _)
  · exact .inr (join_singleton _ _)

/-- The same files, with the entry point first, are collected both ways. -/
theorem TakesGlobbed.same {entry' languages' : List Blob}
    (hsuffix : IsSimple s.descriptorSuffix) (h : t.TakesGlobbed s src dir place entry languages)
    (h' : t.TakesFiles s src dir place entry' languages')
    (hall : entry ++ languages = entry' ++ languages') :
    entry = entry' ∧ languages = languages' := by
  rcases h.entry with ⟨hfile, srcPlace, -, hcontent, hlists⟩ | ⟨hno, rfl⟩
  · rcases h'.entry with ⟨-, text, -, rfl⟩ | ⟨hno, -⟩
    · have hmem : s.entryPoint ∈ entry.map (·.name) :=
        (hlists.mem_iff _).2 ⟨[s.entryPoint], by simp, hcontent, join_singleton _ _, .inl rfl⟩
      cases entry with
      | nil => cases hmem
      | cons b rest =>
        obtain ⟨rfl, htail⟩ := List.cons.inj hall
        cases rest with
        | nil => exact ⟨rfl, htail⟩
        | cons c rest =>
          -- a second file would have a newline at the end of its name, and so not the suffix
          have htail : c :: (rest ++ languages) = languages' := htail
          have hmem' : c.name ∈ languages'.map (·.name) := by
            rw [← htail]
            exact List.mem_map_of_mem List.mem_cons_self
          obtain ⟨_, -, -, hjoin, name, rfl, hends⟩ := (h'.languages.mem_iff _).1 hmem'
          have hname : name = c.name := by simpa [join] using hjoin
          rw [hname] at hends
          rcases hlists.name_cases (List.mem_map_of_mem (List.mem_cons_of_mem _ List.mem_cons_self))
            with hsame | hnewline
          · have hlt := (List.pairwise_cons.1 hlists.sorted).1 c.name
              (List.mem_map_of_mem List.mem_cons_self)
            rw [hsame] at hlt
            exact absurd hlt (lt_irrefl _)
          · rw [hnewline] at hends
            exact absurd hends hsuffix.not_suffix_newline
    · rw [hfile] at hno
      cases hno
  · rcases h'.entry with ⟨hfile, -⟩ | ⟨-, rfl⟩
    · rw [hfile] at hno
      cases hno
    · exact ⟨rfl, hall⟩

/-- If the files are exactly those that the settings speak of, then the globs take nothing else. -/
theorem TakesGlobbed.nothingElse (hsuffix : IsSimple s.descriptorSuffix)
    (h : t.TakesGlobbed s src dir place entry languages)
    (h' : t.TakesFiles s src dir place entry languages) : t.NothingElse s src place where
  deeper first others content hne hnode hends := by
    have hiff := h.languages.iff_of_same h'.languages (List.cons_ne_nil first others) hnode
    obtain ⟨name, heq, -⟩ := hiff.1 ⟨first, others, rfl, .inl hends⟩
    exact hne (List.cons.inj heq).2
  newline name content hnode hends := by
    have hiff := h.languages.iff_of_same h'.languages (List.cons_ne_nil name []) hnode
    obtain ⟨_, heq, hends'⟩ := hiff.1 ⟨name, [], rfl, .inr ⟨rfl, hends⟩⟩
    rw [← (List.cons.inj heq).1] at hends'
    obtain ⟨front, rfl⟩ := hends
    rw [← List.append_assoc] at hends'
    exact hsuffix.not_suffix_newline hends'
  entryNewline srcPlace content hfile hsrc hnode := by
    rcases h.entry with ⟨-, srcPlace', hsrc', hcontent, hlists⟩ | ⟨hno, -⟩
    · rw [hsrc] at hsrc'
      obtain rfl := Except.ok.inj hsrc'
      have hmem : s.entryPoint ++ ['\n'] ∈ entry.map (·.name) :=
        (hlists.mem_iff _).2 ⟨[s.entryPoint ++ ['\n']], by simp, ⟨content, hnode⟩, join_singleton _ _,
          .inr rfl⟩
      rcases h'.entry with ⟨-, text, -, rfl⟩ | ⟨-, rfl⟩
      · simp at hmem
      · cases hmem
    · rw [hfile] at hno
      cases hno

theorem tooLongBelow_of_readBlobs {globs : List Text} {encoding : Text} {bs : List Blob}
    (hplace : t.locate dir = .ok place) (h : t.readBlobs dir globs encoding = .ok bs) (p : Path) :
    ¬ t.TooLongBelow dir place p := by
  obtain ⟨place', _, hplace', -, -, hwalk, -⟩ := readBlobs_eq_ok_iff.1 h
  rw [hplace] at hplace'
  obtain rfl := Except.ok.inj hplace'
  exact walkFault?_eq_none_iff.1 hwalk p

theorem Collects.noneTooLong (hplace : t.locate dir = .ok place)
    (h : t.Collects s src dir entry languages) : t.NoneTooLong s src dir place where
  languages := tooLongBelow_of_readBlobs hplace h.languages
  entry _ hfile hsrc := tooLongBelow_of_readBlobs hsrc (h.readBlobs_entry hfile)

/-- If the files that the settings speak of can be read, the globs take nothing else and no path is too
long, then everything is collected. -/
theorem exists_collects (hsuffix : IsSimple s.descriptorSuffix) (hentry : IsSimple s.entryPoint)
    (hdot : s.entryPoint ≠ ['.']) (hplace : t.locate dir = .ok place)
    (hnode : t.node? place = some .directory)
    (hreads : ∀ name content, t.node? (place ++ [name]) = some (.file content) →
      s.descriptorSuffix <:+ name →
      ∃ text, t.readText (dir.join (Path.ofText name)) s.encoding = .ok text)
    (hreadsEntry : t.isFile? (entryPath src s) = .ok true →
      ∃ text, t.readText (entryPath src s) s.encoding = .ok text)
    {isFile : Bool} (hisFile : t.isFile? (entryPath src s) = .ok isFile)
    (helse : t.NothingElse s src place) (hshort : t.NoneTooLong s src dir place) :
    ∃ entry languages, t.Collects s src dir entry languages := by
  obtain ⟨-, -, hone, htwo⟩ := ne_star_of_simple hsuffix
  have hlanguages : ∃ languages,
      t.readBlobs dir ['/' :: '*' :: s.descriptorSuffix] s.encoding = .ok languages := by
    refine exists_readBlobs hsuffix.isPlain_star hone htwo hplace hnode hshort.languages ?_
    intro names content _ hfound htakes
    obtain ⟨first, others, rfl, hends | ⟨rfl, hnewline⟩⟩ :=
      (takesNames_suffix_iff hsuffix hfound).1 htakes
    · by_cases hne : others = []
      · obtain rfl := hne
        rw [join_singleton]
        exact hreads first content hfound hends
      · exact absurd hends (helse.deeper first others content hne hfound)
    · exact absurd hnewline (helse.newline first content hfound)
  obtain ⟨languages, hlanguages⟩ := hlanguages
  cases isFile with
  | false => exact ⟨[], languages, hlanguages, .inr ⟨hisFile, rfl⟩⟩
  | true =>
    obtain ⟨srcPlace, hsrc, hsrcNode, content, hcontent⟩ :=
      exists_place_of_isFile hentry hdot hisFile
    obtain ⟨hone', htwo', -⟩ := ne_star_of_simple hentry
    have hread : ∃ entry, t.readBlobs src ['/' :: s.entryPoint] s.encoding = .ok entry := by
      refine exists_readBlobs hentry.isPlain hone' htwo' hsrc hsrcNode
        (hshort.entry srcPlace hisFile hsrc) ?_
      intro names found _ hfound htakes
      rcases (takesNames_entry_iff hentry hcontent hfound).1 htakes with rfl | rfl
      · rw [join_singleton]
        exact hreadsEntry hisFile
      · exact absurd hfound (helse.entryNewline srcPlace found hisFile hsrc)
    obtain ⟨entry, hread⟩ := hread
    exact ⟨entry, languages, hlanguages, .inl ⟨hisFile, hread⟩⟩

end

/-- What is collected is what the globs take, and this is what the settings speak of if and only if
the globs take nothing else and no path below the directories is too long to be asked for. -/
theorem collect_takes_iff {t : FileTree} {root : Path} {s : Settings} {dir : Path} {place : Place}
    (hsuffix : IsSimple s.descriptorSuffix) (hentry : IsSimple s.entryPoint)
    (hdot : s.entryPoint ≠ ['.']) (hdir : s.languagesPath root = .ok dir)
    (hplace : t.locate dir = .ok place) (hnode : t.node? place = some .directory)
    (hreads : ∀ name content, t.node? (place ++ [name]) = some (.file content) →
      s.descriptorSuffix <:+ name →
      ∃ text, t.readText (dir.join (Path.ofText name)) s.encoding = .ok text)
    (hreadsEntry : ∀ src, s.srcPath root = .ok src → t.isFile? (entryPath src s) = .ok true →
      ∃ text, t.readText (entryPath src s) s.encoding = .ok text) :
    (∀ blobs, (t.collect root s).result = .ok blobs → ∃ src entry languages,
      s.srcPath root = .ok src ∧ blobs = entry ++ languages ∧
      t.TakesGlobbed s src dir place entry languages) ∧
    ((∃ src entry languages, s.srcPath root = .ok src ∧
        (t.collect root s).result = .ok (entry ++ languages) ∧
        t.TakesFiles s src dir place entry languages) ↔
      ∃ src isFile, s.srcPath root = .ok src ∧ t.isFile? (entryPath src s) = .ok isFile ∧
        t.NothingElse s src place ∧ t.NoneTooLong s src dir place) := by
  have hglobbed : ∀ blobs, (t.collect root s).result = .ok blobs → ∃ src entry languages,
      s.srcPath root = .ok src ∧ blobs = entry ++ languages ∧
      t.TakesGlobbed s src dir place entry languages ∧ t.NoneTooLong s src dir place := by
    intro blobs hblobs
    obtain ⟨dir', src, entry, languages, hdir', hsrc, hcollects, rfl⟩ :=
      collect_eq_ok_iff.1 hblobs
    rw [hdir] at hdir'
    obtain rfl := Except.ok.inj hdir'
    exact ⟨src, entry, languages, hsrc, rfl, hcollects.takesGlobbed hsuffix hentry hdot hplace,
      hcollects.noneTooLong hplace⟩
  refine ⟨fun blobs hblobs => ?_, ?_, ?_⟩
  · obtain ⟨src, entry, languages, hsrc, hsame, htakes, -⟩ := hglobbed blobs hblobs
    exact ⟨src, entry, languages, hsrc, hsame, htakes⟩
  · rintro ⟨src, entry, languages, hsrc, hcollect, hfiles⟩
    obtain ⟨src', entry', languages', hsrc', hsame, htakes, hshort⟩ := hglobbed _ hcollect
    rw [hsrc] at hsrc'
    obtain rfl := Except.ok.inj hsrc'
    obtain ⟨rfl, rfl⟩ := htakes.same hsuffix hfiles hsame.symm
    have hanswers : ∃ isFile, t.isFile? (entryPath src s) = .ok isFile := by
      rcases hfiles.entry with ⟨hfile, -⟩ | ⟨hno, -⟩
      · exact ⟨true, hfile⟩
      · exact ⟨false, hno⟩
    obtain ⟨isFile, hisFile⟩ := hanswers
    exact ⟨src, isFile, hsrc, hisFile, htakes.nothingElse hsuffix hfiles, hshort⟩
  · rintro ⟨src, isFile, hsrc, hisFile, helse, hshort⟩
    obtain ⟨entry, languages, hcollects⟩ := exists_collects hsuffix hentry hdot hplace hnode hreads
      (hreadsEntry src hsrc) hisFile helse hshort
    have htakes := hcollects.takesGlobbed hsuffix hentry hdot hplace
    exact ⟨src, entry, languages, hsrc,
      collect_eq_ok_iff.2 ⟨dir, src, entry, languages, hdir, hsrc, hcollects, rfl⟩,
      htakes.takesFiles helse⟩

/-- In `sampleTree` the globs take nothing else, and all paths are short. -/
theorem collect_takes_sampleTree : ∃ src entry languages,
    Settings.srcPath { entryPoint := "engine.js".toList } (Path.ofText "/".toList) = .ok src ∧
    (Build.sampleTree.collect (Path.ofText "/".toList)
      { entryPoint := "engine.js".toList }).result = .ok (entry ++ languages) ∧
    Build.sampleTree.TakesFiles { entryPoint := "engine.js".toList } src
      (Path.ofText "/src/languages".toList) ["src".toList, "languages".toList] entry languages := by
  have hkeys : Build.sampleTree.nodes.keys = [["src"], ["src", "languages"], ["src", "engine.js"],
      ["src", "languages", "rao.js"], ["src", "languages", "xml.js"], ["built"],
      ["built", "xml.js"]].map (·.map String.toList) := by decide +kernel
  have hdirect : ∀ name content, Build.sampleTree.node? (["src".toList, "languages".toList] ++
      [name]) = some (.file content) → name = "rao.js".toList ∨ name = "xml.js".toList := by
    intro name content hnode
    have hmem := mem_keys_of_node (by simp) hnode
    rw [hkeys] at hmem
    simpa using hmem
  have hsrc : Build.sampleTree.locate (Path.ofText "/src".toList) = .ok ["src".toList] := by
    decide +kernel
  refine (collect_takes_iff ⟨by decide +kernel, by decide +kernel⟩
    ⟨by decide +kernel, by decide +kernel⟩ (by decide +kernel) (by decide +kernel)
    (by decide +kernel) (by decide +kernel) ?_ ?_).2.2
    ⟨Path.ofText "/src".toList, true, by decide +kernel, by decide +kernel, ⟨?_, ?_, ?_⟩, ⟨?_, ?_⟩⟩
  · intro name content hnode _
    rcases hdirect name content hnode with rfl | rfl
    · exact ⟨"/*\nCategory: simulation\n*/\nclassName: begin".toList, by decide +kernel⟩
    · exact ⟨"begin".toList, by decide +kernel⟩
  · intro src hsrcPath _
    have hpath : Settings.srcPath { entryPoint := "engine.js".toList } (Path.ofText "/".toList) =
        .ok (Path.ofText "/src".toList) := by decide +kernel
    rw [hpath] at hsrcPath
    obtain rfl := Except.ok.inj hsrcPath
    exact ⟨"/* x */ var hljs;".toList, by decide +kernel⟩
  · intro first others content hne hnode
    have hmem := mem_keys_of_node (by simp) hnode
    have hshort : ∀ key ∈ Build.sampleTree.nodes.keys, key.length ≤ 3 := by decide +kernel
    have hlength := hshort _ hmem
    have hpos := List.length_pos_iff.2 hne
    simp only [List.length_append, List.length_cons, List.length_nil] at hlength
    omega
  · intro name content hnode
    rcases hdirect name content hnode with rfl | rfl
    · decide +kernel
    · decide +kernel
  · intro srcPlace content _ hplace hnode
    rw [hsrc] at hplace
    obtain rfl := Except.ok.inj hplace
    have hmem := mem_keys_of_node (by simp) hnode
    rw [hkeys] at hmem
    simp at hmem
  · exact walkFault?_eq_none_iff.1 (by decide +kernel)
  · intro srcPlace _ hplace
    rw [hsrc] at hplace
    obtain rfl := Except.ok.inj hplace
    exact walkFault?_eq_none_iff.1 (by decide +kernel)

/-- A tree with a directory whose name is that of a grammar. -/
def nestedTree : FileTree :=
  [(["src"], .directory), (["src", "languages"], .directory),
    (["src", "languages", "a.js"], .file [65]), (["src", "languages", "x.js"], .directory),
    (["src", "languages", "x.js", "y.txt"], .file [84])].foldl
    (fun t e => t.put (e.1.map String.toList) e.2) .empty

theorem not_takesFiles_nestedTree :
    ¬ ∀ (t : FileTree) (root : Path) (s : Settings) (dir : Path) (place : Place),
      IsSimple s.descriptorSuffix → IsSimple s.entryPoint → s.entryPoint ≠ ['.'] →
      s.languagesPath root = .ok dir → t.locate dir = .ok place →
      t.node? place = some .directory →
      (∀ p content, t.node? p = some (.file content) →
        ∃ e text, Encoding.ofName? s.encoding = some e ∧ e.readText content = .ok text) →
      ∃ src entry languages, s.srcPath root = .ok src ∧
        (t.collect root s).result = .ok (entry ++ languages) ∧
        t.TakesFiles s src dir place entry languages := by
  intro hall
  let s : Settings := {}
  have hdecodes : ∀ p content, nestedTree.node? p = some (.file content) →
      ∃ e text, Encoding.ofName? s.encoding = some e ∧ e.readText content = .ok text := by
    intro p content hnode
    have hcontents : ∀ key ∈ nestedTree.nodes.keys,
        nestedTree.node? key = some .directory ∨ nestedTree.node? key = some (.file [65]) ∨
          nestedTree.node? key = some (.file [84]) := by decide +kernel
    have hroot : p ≠ [] := by
      rintro rfl
      cases hnode
    have hshort : content = [65] ∨ content = [84] := by
      have hfound := hcontents p (mem_keys_of_node hroot hnode)
      rw [hnode] at hfound
      simpa using hfound
    rcases hshort with rfl | rfl
    · exact ⟨.utf8, "A".toList, by decide +kernel, by decide +kernel⟩
    · exact ⟨.utf8, "T".toList, by decide +kernel, by decide +kernel⟩
  obtain ⟨src, entry, languages, hsrc, hcollect, hfiles⟩ := hall nestedTree
    (Path.ofText "/".toList) s (Path.ofText "/src/languages".toList)
    ["src".toList, "languages".toList] ⟨by decide +kernel, by decide +kernel⟩
    ⟨by decide +kernel, by decide +kernel⟩ (by decide +kernel) (by decide +kernel)
    (by decide +kernel) (by decide +kernel) hdecodes
  have hcollected : (nestedTree.collect (Path.ofText "/".toList) s).result =
      .ok [⟨"a.js".toList, "A".toList⟩, ⟨"x.js/y.txt".toList, "T".toList⟩] := by decide +kernel
  have hsrcPath : s.srcPath (Path.ofText "/".toList) = .ok (Path.ofText "/src".toList) := by
    decide +kernel
  have hno : nestedTree.isFile? (entryPath (Path.ofText "/src".toList) s) = .ok false := by
    decide +kernel
  rw [hsrcPath] at hsrc
  obtain rfl := Except.ok.inj hsrc
  rcases hfiles.entry with ⟨hfile, -⟩ | ⟨-, rfl⟩
  · rw [hno] at hfile
    cases hfile
  · rw [hcollect] at hcollected
    have hlanguages : languages = _ := Except.ok.inj hcollected
    have hmem : "x.js/y.txt".toList ∈ languages.map (·.name) := by
      rw [hlanguages]
      decide
    obtain ⟨_, -, ⟨content, hnode⟩, hjoin, name, rfl, -⟩ := (hfiles.languages.mem_iff _).1 hmem
    have hname : isName name = true := List.all_eq_true.1 (all_isName_of_append hnode) _
      List.mem_cons_self
    have hsame : name = "x.js/y.txt".toList := by simpa [join] using hjoin
    rw [hsame] at hname
    revert hname
    decide

end FileTree
end GrammarKit
