import GrammarKit.Proofs.AsciiText
import GrammarKit.Proofs.StartCaseWords
import GrammarKit.Proofs.Stretches

/-!
# Start case of start case

Written with spaces between them, words in which no further word begins are found again as they are.
The capital at the start of an ASCII word makes no word begin behind it, so what is in start case
stays as it is.
-/

namespace GrammarKit.Style

open Text

/-! ### Words in which no word begins -/

/-- A text inside of which no word begins. -/
def IsOneWord (w : Text) : Prop :=
  ∀ front c back, w = front ++ c :: back → ¬ BeginsWord front c back

theorem BeginsWord.front_ne_nil {front back : Text} {c : Char} (h : BeginsWord front c back) :
    front ≠ [] := by
  rintro rfl
  obtain ⟨-, e, he, -⟩ := h
  cases he

/-- A word begins where it did when there is more in front and behind. -/
theorem BeginsWord.inside {front back : Text} {c : Char} (h : BeginsWord front c back)
    (earlier later : Text) : BeginsWord (earlier ++ front) c (back ++ later) := by
  rw [beginsWord_append_iff h.front_ne_nil]
  obtain ⟨hc, e, he, hkind⟩ := h
  refine ⟨hc, e, he, hkind.imp_right (Or.imp_right ?_)⟩
  rintro ⟨hupper, d, hd, hlower⟩
  refine ⟨hupper, d, ?_, hlower⟩
  rw [Option.mem_def] at hd ⊢
  rw [List.head?_append, hd, Option.some_or]

theorem seamBehind_append_iff {before ws : List Text} {front : Text} (hne : front ≠ []) :
    SeamBehind (before ++ ws) (before.flatten ++ front) ↔ SeamBehind ws front := by
  induction before with
  | nil => rfl
  | cons w before ih =>
    rw [← ih, List.cons_append, List.flatten_cons, List.append_assoc, seamBehind_cons_iff]
    constructor
    · rintro (hnil | ⟨rest, hrest, hseam⟩)
      · simp [hne] at hnil
      · rwa [List.append_cancel_left hrest]
    · intro hseam
      exact .inr ⟨_, rfl, hseam⟩

theorem CutIntoWords.isOneWord {piece w : Text} {ws : List Text} (h : CutIntoWords piece ws)
    (hw : w ∈ ws) : IsOneWord w := by
  rintro front c back rfl hbegins
  obtain ⟨before, behind, rfl⟩ := List.append_of_mem hw
  have hpiece : piece = (before.flatten ++ front) ++ c :: (back ++ behind.flatten) := by
    rw [← h.flatten, List.flatten_append, List.flatten_cons]
    simp only [List.append_assoc, List.cons_append]
  have hfront : before.flatten ++ front ≠ [] :=
    List.append_ne_nil_of_right_ne_nil _ hbegins.front_ne_nil
  have hseam := (h.seam_iff _ _ _ hpiece hfront).2 (hbegins.inside before.flatten behind.flatten)
  -- then a seam would be inside of the word
  rw [seamBehind_append_iff hbegins.front_ne_nil, seamBehind_cons_iff] at hseam
  rcases hseam with hnil | ⟨rest, hrest, -⟩
  · exact hbegins.front_ne_nil hnil
  · have hlength := congrArg List.length hrest
    simp only [List.length_append, List.length_cons] at hlength
    omega

theorem splitCamel_of_isOneWord {w : Text} (hne : w ≠ []) (h : IsOneWord w) :
    splitCamel w = [w] := by
  have hcut := cutIntoWords_splitCamel w
  cases hws : splitCamel w with
  | nil =>
    rw [hws] at hcut
    exact absurd hcut.flatten.symm hne
  | cons first later =>
    rw [hws] at hcut
    cases later with
    | nil => rw [← hcut.flatten, List.flatten_singleton]
    | cons second later =>
      obtain ⟨c, back, hsecond⟩ := List.exists_cons_of_ne_nil
        (hcut.nonEmpty second (List.mem_cons_of_mem _ List.mem_cons_self))
      have hw : w = first ++ c :: (back ++ later.flatten) := by
        rw [← hcut.flatten, List.flatten_cons, List.flatten_cons, hsecond, List.cons_append]
      have hseam : SeamBehind (first :: second :: later) first :=
        seamBehind_cons_iff.2 (.inr ⟨[], (List.append_nil first).symm, seamBehind_nil _⟩)
      exact absurd ((hcut.seam_iff first _ _ hw (hcut.nonEmpty first List.mem_cons_self)).1 hseam)
        (h _ _ _ hw)

/-! ### Words written one after the other -/

theorem pieces_append {run rest : Text} (hne : run ≠ []) (hrun : ∀ c ∈ run, isPiece c = true)
    (hrest : ∀ c ∈ rest.head?, isPiece c = false) : pieces (run ++ rest) = run :: pieces rest := by
  rw [pieces, runs_append hne hrun fun c hc => ne_true_of_eq_false (hrest c hc),
    filter_any_cons_of_pos hne hrun, ← pieces]

theorem pieces_space {rest : Text} (hrest : ∀ c ∈ rest.head?, isPiece c = true) :
    pieces (' ' :: rest) = pieces rest := by
  have hspace : ∀ c ∈ [' '], isPiece c = false := List.forall_mem_singleton.2 (by decide +kernel)
  rw [← List.singleton_append, pieces, runs_append (List.cons_ne_nil _ _) hspace
    fun c hc => ne_false_of_eq_true (hrest c hc), filter_any_cons_of_neg hspace, ← pieces]

/-- A word as it stands in a name in start case. -/
structure IsTitleWord (w : Text) : Prop where
  nonEmpty : w ≠ []
  isPiece : ∀ c ∈ w, isPiece c = true
  oneWord : IsOneWord w
  capital : capitalized w = w

theorem pieces_join {ws : List Text} (h : ∀ w ∈ ws, IsTitleWord w) :
    pieces (join [' '] ws) = ws := by
  induction ws with
  | nil => rfl
  | cons w ws ih =>
    obtain ⟨hw, hws⟩ := List.forall_mem_cons.1 h
    cases ws with
    | nil =>
      have hself : pieces (w ++ []) = [w] := pieces_append hw.nonEmpty hw.isPiece nofun
      rw [List.append_nil] at hself
      rw [join_singleton, hself]
    | cons u us =>
      have hu := hws u List.mem_cons_self
      have hhead : ∀ c ∈ (join [' '] (u :: us)).head?, Style.isPiece c = true := by
        obtain ⟨d, tail, rfl⟩ := List.exists_cons_of_ne_nil hu.nonEmpty
        intro c hc
        rw [join_cons_append] at hc
        rw [← Option.some.inj hc]
        exact hu.isPiece d List.mem_cons_self
      have hspace : ∀ c ∈ ([' '] ++ join [' '] (u :: us)).head?, Style.isPiece c = false := by
        intro c hc
        rw [← Option.some.inj hc]
        decide +kernel
      rw [join_cons_cons, pieces_append hw.nonEmpty hw.isPiece hspace, List.singleton_append,
        pieces_space hhead, ih hws]

theorem startCase_join {ws : List Text} (h : ∀ w ∈ ws, IsTitleWord w) :
    startCase (join [' '] ws) = join [' '] ws := by
  have hwords : nameWords (join [' '] ws) = ws := by
    rw [nameWords, pieces_join h, List.flatMap_congr fun w hw =>
      splitCamel_of_isOneWord (h w hw).nonEmpty (h w hw).oneWord, List.flatMap_singleton']
  have hcapitals : ws.map capitalized = ws := by
    rw [List.map_congr_left fun w hw => (h w hw).capital, List.map_id']
  rw [startCase, hwords, hcapitals]

/-! ### ASCII words -/

/-- The capital of an ASCII character is one character, which is its own capital, and it is the
character itself unless that is a small letter. -/
theorem exists_capital {c : Char} (hc : isAscii c = true) : ∃ d, upperForm c = [d] ∧
    upperForm d = [d] ∧ (isPiece c = true → isPiece d = true) ∧ (d = c ∨ isLower c = true) :=
  ⟨upperOne c, of_isAscii (P := fun c => upperForm c = [upperOne c] ∧
    upperForm (upperOne c) = [upperOne c] ∧ (isPiece c = true → isPiece (upperOne c) = true) ∧
      (upperOne c = c ∨ isLower c = true)) (by decide +kernel) hc⟩

theorem isTitleWord_capitalized {w : Text} (hne : w ≠ []) (hascii : ∀ c ∈ w, isAscii c = true)
    (hpiece : ∀ c ∈ w, isPiece c = true) (hone : IsOneWord w) : IsTitleWord (capitalized w) := by
  obtain ⟨c, rest, rfl⟩ := List.exists_cons_of_ne_nil hne
  obtain ⟨capital, hform, hagain, hcapital, hsame⟩ := exists_capital (hascii c List.mem_cons_self)
  obtain ⟨hc, hrest⟩ := List.forall_mem_cons.1 hpiece
  rw [capitalized, hform, List.singleton_append]
  refine ⟨List.cons_ne_nil _ _, List.forall_mem_cons.2 ⟨hcapital hc, hrest⟩, ?_, ?_⟩
  · intro front d back he hbegins
    obtain ⟨e, passed, rfl⟩ := List.exists_cons_of_ne_nil hbegins.front_ne_nil
    obtain ⟨rfl, rfl⟩ := List.cons.inj he
    apply hone (c :: passed) d back rfl
    by_cases hpassed : passed = []
    · -- only here the capital is looked at; if it is a new one, a small letter was there
      subst hpassed
      rcases hsame with rfl | hlower
      · exact hbegins
      · exact ⟨hbegins.1, c, rfl, .inl hlower⟩
    · rw [← List.singleton_append, beginsWord_append_iff hpassed] at hbegins ⊢
      exact hbegins
  · rw [capitalized, hagain]
    rfl

theorem mem_of_mem_nameWords {t w : Text} (h : w ∈ nameWords t) {c : Char} (hc : c ∈ w) :
    c ∈ t ∧ isPiece c = true := by
  have hmem : c ∈ (nameWords t).flatten := List.mem_flatten.2 ⟨w, h, hc⟩
  rwa [flatten_nameWords, List.mem_filter] at hmem

theorem isOneWord_of_mem_nameWords {t w : Text} (h : w ∈ nameWords t) : IsOneWord w := by
  obtain ⟨piece, -, hw⟩ := List.mem_flatMap.1 h
  exact (cutIntoWords_splitCamel piece).isOneWord hw

/-- An ASCII name in start case stays as it is. -/
theorem startCase_startCase {t : Text} (ht : ∀ c ∈ t, isAscii c = true) :
    startCase (startCase t) = startCase t := by
  apply startCase_join
  intro v hv
  obtain ⟨w, hw, rfl⟩ := List.mem_map.1 hv
  exact isTitleWord_capitalized (ne_nil_of_mem_nameWords hw)
    (fun c hc => ht c (mem_of_mem_nameWords hw hc).1) (fun c hc => (mem_of_mem_nameWords hw hc).2)
    (isOneWord_of_mem_nameWords hw)

theorem startCase_startCase_mixedName :
    startCase "x1Y HTMLstyle_aB-c".toList = "X1 Y HTM Lstyle A B C".toList ∧
      startCase (startCase "x1Y HTMLstyle_aB-c".toList) = startCase "x1Y HTMLstyle_aB-c".toList :=
  ⟨by decide +kernel, startCase_startCase (List.all_eq_true.1 (by decide +kernel))⟩

end GrammarKit.Style
