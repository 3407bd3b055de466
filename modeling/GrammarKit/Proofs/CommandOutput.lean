import GrammarKit.CommandLine.Run
import GrammarKit.Proofs.Collecting

/-!
# What a command prints

Each command prints once, as its last step, and a step that only prints does not fail. So a command
prints its whole answer, or nothing if it has none. The one step that changes the file tree is the
build's.
-/

namespace GrammarKit.CommandLine

namespace Step

variable {α β γ : Type}

/-- The session that a step leaves, whatever comes of it. -/
def later (x : Step α) (s : Session) : Session := (x.run.run s).2

def result (x : Step α) (s : Session) : Except CommandError α := (x.run.run s).1

theorem bind_of_error {x : Step α} {f : α → Step β} {s : Session} {e : CommandError}
    (h : x.result s = .error e) :
    (x >>= f).later s = x.later s ∧ (x >>= f).result s = .error e := by
  have hrun : x.run.run s = (.error e, x.later s) := Prod.ext h rfl
  unfold later result
  simp only [ExceptT.run_bind, StateT.run_bind, hrun]
  exact ⟨rfl, rfl⟩

theorem bind_of_ok {x : Step α} {f : α → Step β} {s : Session} {a : α} (h : x.result s = .ok a) :
    (x >>= f).later s = (f a).later (x.later s) ∧
      (x >>= f).result s = (f a).result (x.later s) := by
  have hrun : x.run.run s = (.ok a, x.later s) := Prod.ext h rfl
  unfold later result
  simp only [ExceptT.run_bind, StateT.run_bind, hrun]
  exact ⟨rfl, rfl⟩

/-! ### Steps that keep something -/

/-- What is read off the session is the same after the step, whatever comes of it. -/
def Keeps (read : Session → γ) (x : Step α) : Prop := ∀ s, read (x.later s) = read s

theorem Keeps.bind {read : Session → γ} {x : Step α} {f : α → Step β} (hx : Keeps read x)
    (hf : ∀ a, Keeps read (f a)) : Keeps read (x >>= f) := by
  intro s
  cases hresult : x.result s with
  | error e =>
    rw [(bind_of_error hresult).1]
    exact hx s
  | ok a =>
    rw [(bind_of_ok hresult).1, hf a]
    exact hx s

theorem keeps_printed_look (f : World → Logged CommandError α) : Keeps (·.printed) (look f) :=
  fun _ => rfl

theorem keeps_tree_look (f : World → Logged CommandError α) : Keeps (·.world.tree) (look f) :=
  fun _ => rfl

theorem keeps_printed_onTree (f : World → FileTree × Logged CommandError α) :
    Keeps (·.printed) (onTree f) :=
  fun _ => rfl

theorem keeps_printed_onRegistry (f : Registry → Registry × Except CommandError α) :
    Keeps (·.printed) (onRegistry f) :=
  fun _ => rfl

theorem keeps_tree_onRegistry (f : Registry → Registry × Except CommandError α) :
    Keeps (·.world.tree) (onRegistry f) :=
  fun _ => rfl

theorem keeps_tree_print (text : Text) : Keeps (·.world.tree) (print text) :=
  fun _ => rfl

/-! ### Steps that print nothing unless they succeed -/

/-- If the step fails, it has printed nothing. -/
def PrintsOnSuccess (x : Step α) : Prop :=
  ∀ s e, x.result s = .error e → (x.later s).printed = s.printed

theorem printsOnSuccess_print (text : Text) : PrintsOnSuccess (print text) := by
  intro s e h
  cases h

theorem Keeps.bind_printsOnSuccess {x : Step α} {f : α → Step β} (hx : Keeps (·.printed) x)
    (hf : ∀ a, PrintsOnSuccess (f a)) : PrintsOnSuccess (x >>= f) := by
  intro s e h
  cases hresult : x.result s with
  | error cause =>
    rw [(bind_of_error hresult).1]
    exact hx s
  | ok a =>
    obtain ⟨hlater, hresult'⟩ := bind_of_ok (f := f) hresult
    rw [hresult'] at h
    rw [hlater, hf a _ e h]
    exact hx s

theorem printsOnSuccess_look {f : World → Logged CommandError α} {g : α → Step β}
    (hg : ∀ a, PrintsOnSuccess (g a)) : PrintsOnSuccess (look f >>= g) :=
  (keeps_printed_look f).bind_printsOnSuccess hg

theorem keeps_tree_look_bind {f : World → Logged CommandError α} {g : α → Step β}
    (hg : ∀ a, Keeps (·.world.tree) (g a)) : Keeps (·.world.tree) (look f >>= g) :=
  (keeps_tree_look f).bind hg

/-! ### What a step prints -/

/-- If the step succeeds in a world, it has printed one of certain texts. -/
def Prints (w : World) (x : Step α) (wanted : Text → Prop) : Prop :=
  ∀ s a, s.world = w → x.result s = .ok a →
    ∃ text, wanted text ∧ (x.later s).printed = s.printed ++ text

/-- The step succeeds in a world. -/
def Succeeds (w : World) (x : Step α) : Prop := ∀ s, s.world = w → ∃ a, x.result s = .ok a

theorem prints_print {w : World} {text : Text} {wanted : Text → Prop} (h : wanted text) :
    Prints w (print text) wanted :=
  fun _ _ _ _ => ⟨text, h, rfl⟩

theorem succeeds_print (w : World) (text : Text) : Succeeds w (print text) :=
  fun _ _ => ⟨(), rfl⟩

/-- A step that prints nothing is followed by one that prints, in the world that it leaves. -/
theorem prints_bind {w : World} {x : Step α} {f : α → Step β} {wanted : Text → Prop}
    (hx : Keeps (·.printed) x)
    (hf : ∀ s a, s.world = w → x.result s = .ok a → Prints (x.later s).world (f a) wanted) :
    Prints w (x >>= f) wanted := by
  intro s b hs h
  cases hresult : x.result s with
  | error e =>
    rw [(bind_of_error hresult).2] at h
    cases h
  | ok a =>
    obtain ⟨hlater, hresult'⟩ := bind_of_ok (f := f) hresult
    have hsame : (x.later s).printed = s.printed := hx s
    rw [hresult'] at h
    rw [hlater, ← hsame]
    exact hf s a hs hresult (x.later s) b rfl h

theorem succeeds_bind {w : World} {x : Step α} {f : α → Step β}
    (h : ∀ s, s.world = w → ∃ a, x.result s = .ok a ∧ Succeeds (x.later s).world (f a)) :
    Succeeds w (x >>= f) := by
  intro s hs
  obtain ⟨a, hresult, hf⟩ := h s hs
  rw [(bind_of_ok hresult).2]
  exact hf (x.later s) rfl

section

variable {w : World} {f : World → Logged CommandError α} {g : α → Step β}

theorem prints_look {wanted : Text → Prop}
    (hg : ∀ a, (f w).result = .ok a → Prints w (g a) wanted) : Prints w (look f >>= g) wanted := by
  refine prints_bind (keeps_printed_look f) ?_
  rintro s a rfl h
  exact hg a h

theorem succeeds_look {a : α} (ha : (f w).result = .ok a) (hg : Succeeds w (g a)) :
    Succeeds w (look f >>= g) := by
  refine succeeds_bind ?_
  rintro s rfl
  exact ⟨a, ha, hg⟩

end

end Step

open Step

/-! ### Commands -/

/-- What a command is to print in a world. -/
inductive Answers (w : World) : Command → Text → Prop
  | header {files : List Path} {s : Settings} {headers : OrderedMap Text (Option Header)} :
    (Settings.load w.tree w.root).result = .ok s →
    headersOf w.tree s.encoding files = .ok headers →
    Answers w (.header files) (headersReport headers).render
  | filter {qualifiers : List Text} {s : Settings} {filtered : FilterReport} :
    (Settings.load w.tree w.root).result = .ok s →
    (filterFiles w.tree w.root s qualifiers).result = .ok filtered →
    Answers w (.filter qualifiers) filtered.data.render
  | shorten {file? : Option Path} {strip : Bool} {s : Settings} {text shortened : Text} :
    (Settings.load w.tree w.root).result = .ok s →
    inputText w file? s.encoding = .ok text →
    transform strip true .standard text = .ok shortened →
    Answers w (.shorten file? strip) shortened
  | styles {sorted : Bool} {s : Settings} {dir : Path} {entries : List Style.Entry} :
    (Settings.load w.tree w.root).result = .ok s →
    s.stylesPath w.root = .ok dir →
    (Style.list w.tree dir
      { suffix := s.stylesheetSuffix, default := s.defaultStyle, sorted }).result = .ok entries →
    Answers w (.styles sorted) (stylesReport entries).render
  | languages : Answers w .languages (languagesReport w.registry.list).render
  | «export» {language : Text} {short asData : Bool} {text : Text} :
    (runExport w.registry language short asData).2 = .ok text →
    Answers w (.export language short asData) text
  | build {qualifiers : List Text} {out : Path} {strip shorten : Bool} {s : Settings}
      {report : BuildReport} :
    (Settings.load w.tree w.root).result = .ok s →
    (Build.run w.tree w.root s qualifiers out { strip, shorten }).2.result = .ok report →
    Answers w (.build qualifiers out strip shorten) (buildReport report).render

theorem prints_perform (w : World) (c : Command) : Prints w c.perform (Answers w c) := by
  cases c with
  | header files =>
    exact prints_look fun s hs => prints_look fun headers hheaders =>
      prints_print (.header (mapError_eq_ok_iff.1 hs) (mapError_eq_ok_iff.1 hheaders))
  | filter qualifiers =>
    exact prints_look fun s hs => prints_look fun filtered hfiltered =>
      prints_print (.filter (mapError_eq_ok_iff.1 hs) (mapError_eq_ok_iff.1 hfiltered))
  | shorten file? strip =>
    exact prints_look fun s hs => prints_look fun text htext => prints_look fun _ hshortened =>
      prints_print (.shorten (mapError_eq_ok_iff.1 hs) (mapError_eq_ok_iff.1 htext)
        (mapError_eq_ok_iff.1 hshortened))
  | styles sorted =>
    exact prints_look fun s hs => prints_look fun dir hdir => prints_look fun entries hentries =>
      prints_print (.styles (mapError_eq_ok_iff.1 hs) (mapError_eq_ok_iff.1 hdir)
        (mapError_eq_ok_iff.1 hentries))
  | languages =>
    refine prints_look fun names hnames => prints_print ?_
    rw [← Except.ok.inj hnames]
    exact .languages
  | «export» language short asData =>
    refine prints_bind (keeps_printed_onRegistry _) ?_
    rintro s text rfl htext
    exact prints_print (.export (mapError_eq_ok_iff.1 htext))
  | build qualifiers out strip short =>
    refine prints_look fun s hs => prints_bind (keeps_printed_onTree _) ?_
    rintro session report rfl hreport
    exact prints_print (.build (mapError_eq_ok_iff.1 hs) (mapError_eq_ok_iff.1 hreport))

theorem succeeds_perform {w : World} {c : Command} {text : Text} (h : Answers w c text) :
    Succeeds w c.perform := by
  cases h with
  | header hs hheaders =>
    exact succeeds_look (mapError_eq_ok_iff.2 hs)
      (succeeds_look (mapError_eq_ok_iff.2 hheaders) (succeeds_print _ _))
  | filter hs hfiltered =>
    exact succeeds_look (mapError_eq_ok_iff.2 hs)
      (succeeds_look (mapError_eq_ok_iff.2 hfiltered) (succeeds_print _ _))
  | shorten hs htext hshortened =>
    exact succeeds_look (mapError_eq_ok_iff.2 hs) (succeeds_look (mapError_eq_ok_iff.2 htext)
      (succeeds_look (mapError_eq_ok_iff.2 hshortened) (succeeds_print _ _)))
  | styles hs hdir hentries =>
    exact succeeds_look (mapError_eq_ok_iff.2 hs) (succeeds_look (mapError_eq_ok_iff.2 hdir)
      (succeeds_look (mapError_eq_ok_iff.2 hentries) (succeeds_print _ _)))
  | languages => exact succeeds_look rfl (succeeds_print _ _)
  | «export» htext =>
    refine succeeds_bind ?_
    rintro s rfl
    exact ⟨_, mapError_eq_ok_iff.2 htext, succeeds_print _ _⟩
  | build hs hreport =>
    refine succeeds_look (mapError_eq_ok_iff.2 hs) (succeeds_bind ?_)
    rintro s rfl
    exact ⟨_, mapError_eq_ok_iff.2 hreport, succeeds_print _ _⟩

theorem printsOnSuccess_perform (c : Command) : PrintsOnSuccess c.perform := by
  cases c with
  | header files =>
    exact printsOnSuccess_look fun _ => printsOnSuccess_look fun _ => printsOnSuccess_print _
  | filter qualifiers =>
    exact printsOnSuccess_look fun _ => printsOnSuccess_look fun _ => printsOnSuccess_print _
  | shorten file? strip =>
    exact printsOnSuccess_look fun _ => printsOnSuccess_look fun _ =>
      printsOnSuccess_look fun _ => printsOnSuccess_print _
  | styles sorted =>
    exact printsOnSuccess_look fun _ => printsOnSuccess_look fun _ =>
      printsOnSuccess_look fun _ => printsOnSuccess_print _
  | languages => exact printsOnSuccess_look fun _ => printsOnSuccess_print _
  | «export» language short asData =>
    exact (keeps_printed_onRegistry _).bind_printsOnSuccess fun _ => printsOnSuccess_print _
  | build qualifiers out strip short =>
    exact printsOnSuccess_look fun _ =>
      (keeps_printed_onTree _).bind_printsOnSuccess fun _ => printsOnSuccess_print _

theorem keeps_tree_perform {c : Command}
    (hbuild : ∀ qualifiers out strip short, c ≠ .build qualifiers out strip short) :
    Keeps (·.world.tree) c.perform := by
  cases c with
  | header files => exact keeps_tree_look_bind fun _ => keeps_tree_look_bind fun _ => keeps_tree_print _
  | filter qualifiers =>
    exact keeps_tree_look_bind fun _ => keeps_tree_look_bind fun _ => keeps_tree_print _
  | shorten file? strip =>
    exact keeps_tree_look_bind fun _ => keeps_tree_look_bind fun _ =>
      keeps_tree_look_bind fun _ => keeps_tree_print _
  | styles sorted =>
    exact keeps_tree_look_bind fun _ => keeps_tree_look_bind fun _ =>
      keeps_tree_look_bind fun _ => keeps_tree_print _
  | languages => exact keeps_tree_look_bind fun _ => keeps_tree_print _
  | «export» language short asData =>
    exact (keeps_tree_onRegistry _).bind fun _ => keeps_tree_print _
  | build qualifiers out strip short => exact absurd rfl (hbuild qualifiers out strip short)

/-! ### Whole runs -/

theorem perform_of_ok {w : World} {i : Invocation}
    (h : i.command.perform.result { world := w } = .ok ()) :
    (i.perform w).status = .ok 0 ∧
      (i.perform w).output = (i.command.perform.later { world := w }).printed ∧
      (i.perform w).world = (i.command.perform.later { world := w }).world := by
  have hrun : i.command.perform.run.run { world := w } =
      (.ok (), i.command.perform.later { world := w }) := Prod.ext h rfl
  unfold Invocation.perform
  simp only [hrun]
  exact ⟨trivial, trivial, trivial⟩

theorem perform_of_error {w : World} {i : Invocation} {e : CommandError}
    (h : i.command.perform.result { world := w } = .error e) :
    ((i.perform w).status = .ok 2 ∨ (i.perform w).status = .error e) ∧
      (i.perform w).output = (i.command.perform.later { world := w }).printed ∧
      (i.perform w).world = (i.command.perform.later { world := w }).world := by
  have hrun : i.command.perform.run.run { world := w } =
      (.error e, i.command.perform.later { world := w }) := Prod.ext h rfl
  unfold Invocation.perform
  simp only [hrun]
  cases e.message? with
  | some message => exact ⟨.inl rfl, rfl, rfl⟩
  | none => exact ⟨.inr rfl, rfl, rfl⟩

theorem world_perform (w : World) (i : Invocation) :
    (i.perform w).world = (i.command.perform.later { world := w }).world := by
  cases h : i.command.perform.result { world := w } with
  | ok a => exact (perform_of_ok h).2.2
  | error e => exact (perform_of_error h).2.2

/-- A run prints the answer to its command and ends well, or the command has no answer and it ends
with status two or an error and has printed nothing; and only a build changes the file tree. -/
theorem perform_all_or_nothing (w : World) (i : Invocation) :
    (((i.perform w).status = .ok 0 ∧ Answers w i.command (i.perform w).output) ∨
      ((∀ text, ¬ Answers w i.command text) ∧ (i.perform w).output = [] ∧
        ((i.perform w).status = .ok 2 ∨ ∃ e, (i.perform w).status = .error e))) ∧
    ((∃ qualifiers out strip short, i.command = .build qualifiers out strip short) ∨
      (i.perform w).world.tree = w.tree) := by
  constructor
  · cases h : i.command.perform.result { world := w } with
    | ok a =>
      obtain ⟨hstatus, houtput, -⟩ := perform_of_ok h
      obtain ⟨text, hanswers, hprinted⟩ := prints_perform w i.command { world := w } a rfl h
      rw [houtput, hprinted]
      exact .inl ⟨hstatus, hanswers⟩
    | error e =>
      obtain ⟨hstatus, houtput, -⟩ := perform_of_error h
      have hnothing := printsOnSuccess_perform i.command { world := w } e h
      refine .inr ⟨?_, houtput.trans hnothing, hstatus.imp_right fun he => ⟨e, he⟩⟩
      intro text hanswers
      obtain ⟨a, ha⟩ := succeeds_perform hanswers { world := w } rfl
      rw [h] at ha
      cases ha
  · by_cases hbuild : ∃ qualifiers out strip short, i.command = .build qualifiers out strip short
    · exact .inl hbuild
    · simp only [not_exists] at hbuild
      rw [world_perform]
      exact .inr (keeps_tree_perform hbuild { world := w })

/-- A header that can be read is not printed if a later file cannot. -/
example :
    let tree := FileTree.empty.put ["a.js".toList] (.file "/*\nLanguage: A\n*/".toUTF8.toList)
    let ending := Invocation.perform { tree, registry := .initial }
      ⟨false, .header [Path.ofText "a.js".toList, Path.ofText "b.js".toList]⟩
    ending.status.toOption = some 2 ∧ ending.output = [] := by
  decide +kernel

end GrammarKit.CommandLine
