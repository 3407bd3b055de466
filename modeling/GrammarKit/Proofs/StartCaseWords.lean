import GrammarKit.Proofs.Tokens
import GrammarKit.Regex.Reader
import GrammarKit.Style.StartCase
import Mathlib.Data.List.Forall2

/-!
# The words of a name in start case

The pieces of a name are what is left of it between separators, and each piece is cut into words in
front of those capitals at which a word begins, nowhere else. No word is empty, and the words make
up the name but for its separators.
-/

namespace GrammarKit.Style

open Text Regex

/-! ### Pieces -/

/-- The characters that separate pieces. -/
def separatorSet : CharSet := { items := [.named .word true, .char '_'.toNat] }

/-- The pattern for as many separators as there are, and at least one. -/
def separatorRegex : Regex where
  source := "[\\W_]+".toList
  pattern := .repeated true 1 none (.one separatorSet)

theorem read_separatorRegex_source :
    (Regex.read separatorRegex.source).toOption = some separatorRegex := by decide +kernel

theorem covers_separatorSet (c : Char) : separatorSet.covers c = !isPiece c := by
  rw [Bool.eq_iff_iff]
  simp only [separatorSet, CharSet.covers, CharSet.Item.covers, CharClass.covers, isPiece,
    List.any_cons, List.any_nil, Bool.false_eq_true, if_false, Bool.or_false, Bool.bne_false,
    Bool.bne_true, Bool.or_eq_true, Bool.not_and, decide_eq_true_eq, Char.toNat_inj]
  simp

theorem matchAt_separators (front back : Text) :
    separatorRegex.pattern.matchAt false (.between front back) =
      (Pattern.token separatorSet separatorSet).matchAt false (.between front back) := rfl

section

variable {n : Nat} {front kept back : Text}

theorem cutFrom_piece {run : Text} (hrun : ∀ c ∈ run, isPiece c = true) :
    separatorRegex.pattern.cutFrom (n + 1) front kept (run ++ back) =
      separatorRegex.pattern.cutFrom (n + 1) front (kept ++ run) back := by
  induction run generalizing kept with
  | nil => rw [List.nil_append, List.append_nil]
  | cons c run ih =>
    obtain ⟨hc, hrest⟩ := List.forall_mem_cons.1 hrun
    have hnone : separatorSet.covers c = false := by rw [covers_separatorSet, hc]; rfl
    have hmatch := (matchAt_separators (front ++ kept) (c :: (run ++ back))).trans
      (matchAt_token_of_not hnone)
    rw [List.cons_append, Pattern.cutFrom_kept hmatch, ih hrest, List.append_assoc,
      List.singleton_append]

theorem cutFrom_separators {run : Text} (hne : run ≠ []) (hrun : ∀ c ∈ run, isPiece c = false)
    (hback : ∀ c ∈ back.head?, isPiece c = true) :
    separatorRegex.pattern.cutFrom (n + 1) front kept (run ++ back) =
      kept :: separatorRegex.pattern.cutFrom n (front ++ kept ++ run) [] back := by
  have hcovers : ∀ c ∈ run, separatorSet.covers c = true := fun c hc => by
    rw [covers_separatorSet, hrun c hc]; rfl
  have hend : ∀ c ∈ back.head?, separatorSet.covers c = false := fun c hc => by
    rw [covers_separatorSet, hback c hc]; rfl
  obtain ⟨c, tail, rfl⟩ := List.exists_cons_of_ne_nil hne
  obtain ⟨hc, htail⟩ := List.forall_mem_cons.1 hcovers
  have hmatch := matchAt_token (front ++ kept) hc htail hend
  refine Pattern.cutFrom_match ((matchAt_separators _ _).trans hmatch) rfl rfl ?_
  simp only [Match.isEmpty, Cursor.left_between, List.length_append, List.length_cons,
    decide_eq_false_iff_not]
  omega

/-- What is left between separators are the runs of the other characters; only what comes before a
separator at the front, or behind one at the end, is empty. -/
theorem cutFrom_runs {kind : Bool} {rs : List Text} (h : Alternating isPiece kind rs)
    (hn : rs.flatten.length < n) (hkept : kind = true → kept = []) :
    (separatorRegex.pattern.cutFrom n front kept rs.flatten).filter (fun part => !part.isEmpty) =
      [kept].filter (fun part => !part.isEmpty) ++ rs.filter fun run => run.any isPiece := by
  induction rs generalizing kind n front kept with
  | nil =>
    obtain ⟨n, rfl⟩ : ∃ m, n = m + 1 := ⟨n - 1, by omega⟩
    have hmatch := (matchAt_separators (front ++ kept) []).trans matchAt_token_nil
    rw [List.flatten_nil, Pattern.cutFrom_end hmatch, List.filter_nil, List.append_nil]
  | cons run later ih =>
    obtain ⟨⟨hne, hrun⟩, hlater⟩ := h
    obtain ⟨n, rfl⟩ : ∃ m, n = m + 1 := ⟨n - 1, by omega⟩
    have hlength : 0 < run.length := List.length_pos_iff.2 hne
    rw [List.flatten_cons, List.length_append] at hn
    rw [List.flatten_cons]
    cases kind with
    | true =>
      rw [cutFrom_piece hrun, ih hlater (by omega) nofun, filter_any_cons_of_pos hne hrun,
        hkept rfl]
      obtain ⟨c, tail, rfl⟩ := List.exists_cons_of_ne_nil hne
      rfl
    | false =>
      rw [cutFrom_separators hne hrun hlater.of_mem_head, filter_any_cons_of_neg hrun,
        ← List.singleton_append, List.filter_append, ih hlater (by omega) fun _ => rfl]
      rfl

end

theorem cut_separators (t : Text) :
    (separatorRegex.pattern.cut t).filter (fun part => !part.isEmpty) = pieces t := by
  obtain ⟨kind, hruns⟩ := alternating_runs isPiece t
  have hcut : separatorRegex.pattern.cut t =
      separatorRegex.pattern.cutFrom (2 * t.length + 2) [] [] (runs isPiece t).flatten := by
    rw [runs_flatten]
    rfl
  rw [hcut, cutFrom_runs hruns (by rw [runs_flatten]; omega) fun _ => rfl]
  rfl

theorem tokensOf_pieces (t : Text) : TokensOf isPiece isPiece t (pieces t) := by
  obtain ⟨kind, hruns⟩ := alternating_runs isPiece t
  have htokens := tokensOf_runs hruns
  rwa [runs_flatten] at htokens

/-! ### Where words begin -/

/-- Inside of a piece a word begins with a capital that has a small letter or a digit in front of
it, or a capital in front of it and a small letter behind it. -/
def BeginsWord (front : Text) (c : Char) (back : Text) : Prop :=
  isUpper c = true ∧ ∃ earlier ∈ front.getLast?, isLower earlier = true ∨ isDigit earlier = true ∨
    (isUpper earlier = true ∧ ∃ later ∈ back.head?, isLower later = true)

/-- A seam of the words behind `front`. -/
def SeamBehind (ws : List Text) (front : Text) : Prop :=
  ∃ before, before <+: ws ∧ before.flatten = front

/-- The words into which a piece is cut, with a seam wherever a word begins and nowhere else. -/
structure CutIntoWords (piece : Text) (ws : List Text) : Prop where
  flatten : ws.flatten = piece
  nonEmpty : ∀ w ∈ ws, w ≠ []
  seam_iff : ∀ front c back, piece = front ++ c :: back → front ≠ [] →
    (SeamBehind ws front ↔ BeginsWord front c back)

theorem startsWord_iff {front back : Text} {earlier c : Char} :
    startsWord earlier c back.head? = true ↔ BeginsWord (front ++ [earlier]) c back := by
  simp [startsWord, BeginsWord, or_assoc, Option.any_eq_true]

theorem beginsWord_append_iff {front back : Text} {c : Char} (hne : front ≠ []) (earlier : Text) :
    BeginsWord (earlier ++ front) c back ↔ BeginsWord front c back := by
  rw [BeginsWord, List.getLast?_append_of_ne_nil _ hne, BeginsWord]

theorem seamBehind_nil (ws : List Text) : SeamBehind ws [] := ⟨[], List.nil_prefix, rfl⟩

theorem seamBehind_cons_iff {w front : Text} {ws : List Text} :
    SeamBehind (w :: ws) front ↔ front = [] ∨ ∃ rest, front = w ++ rest ∧ SeamBehind ws rest := by
  constructor
  · rintro ⟨before, hbefore, rfl⟩
    rcases List.prefix_cons_iff.1 hbefore with rfl | ⟨before, rfl, hrest⟩
    · exact .inl rfl
    · exact .inr ⟨before.flatten, rfl, before, hrest, rfl⟩
  · rintro (rfl | ⟨rest, rfl, before, hbefore, rfl⟩)
    · exact seamBehind_nil _
    · exact ⟨w :: before, (List.prefix_cons_inj w).2 hbefore, rfl⟩

/-! ### Cutting a piece -/

/-- The first word goes on from the word that is open. -/
theorem exists_splitCamelFrom (earlier : Char) (word rest : Text) :
    ∃ more later,
      splitCamelFrom earlier word rest = ((earlier :: word).reverse ++ more) :: later := by
  induction rest generalizing earlier word with
  | nil => exact ⟨[], [], by rw [splitCamelFrom, List.append_nil]⟩
  | cons c rest ih =>
    rw [splitCamelFrom]
    split
    · exact ⟨[], _, by rw [List.append_nil]⟩
    · obtain ⟨more, later, he⟩ := ih c (earlier :: word)
      exact ⟨c :: more, later, by rw [he, List.reverse_cons, List.append_assoc]; rfl⟩

theorem flatten_splitCamelFrom (earlier : Char) (word rest : Text) :
    (splitCamelFrom earlier word rest).flatten = (earlier :: word).reverse ++ rest := by
  induction rest generalizing earlier word with
  | nil => rw [splitCamelFrom, List.flatten_singleton, List.append_nil]
  | cons c rest ih =>
    rw [splitCamelFrom]
    split
    · rw [List.flatten_cons, ih]
      rfl
    · rw [ih, List.reverse_cons, List.append_assoc]
      rfl

theorem ne_nil_of_mem_splitCamelFrom {earlier : Char} {word rest w : Text}
    (h : w ∈ splitCamelFrom earlier word rest) : w ≠ [] := by
  induction rest generalizing earlier word with
  | nil =>
    rw [splitCamelFrom, List.mem_singleton] at h
    rw [h, List.reverse_cons]
    exact List.append_ne_nil_of_right_ne_nil _ (List.cons_ne_nil _ _)
  | cons c rest ih =>
    rw [splitCamelFrom] at h
    split at h
    · rcases List.mem_cons.1 h with rfl | h
      · rw [List.reverse_cons]
        exact List.append_ne_nil_of_right_ne_nil _ (List.cons_ne_nil _ _)
      · exact ih h
    · exact ih h

/-- Behind the word that is open there are seams where words begin; `passed` is what comes before
the place, from there on. -/
theorem seamBehind_splitCamelFrom_iff {earlier c : Char} {word passed back : Text} :
    SeamBehind (splitCamelFrom earlier word (passed ++ c :: back))
        ((earlier :: word).reverse ++ passed) ↔
      BeginsWord ((earlier :: word).reverse ++ passed) c back := by
  have hopen : ∀ (earlier : Char) (word : Text), (earlier :: word).reverse ≠ [] :=
    fun _ _ => List.reverse_ne_nil_iff.2 (List.cons_ne_nil _ _)
  induction passed generalizing earlier word with
  | nil =>
    rw [List.nil_append, List.append_nil, splitCamelFrom]
    split
    · next hstarts =>
      rw [List.reverse_cons, ← startsWord_iff]
      refine iff_of_true (seamBehind_cons_iff.2 (.inr ⟨[], ?_, seamBehind_nil _⟩)) hstarts
      rw [List.append_nil]
    · next hnot =>
      have hseam : ¬ SeamBehind (splitCamelFrom c (earlier :: word) back)
          (earlier :: word).reverse := by
        -- the first word goes beyond the place, so no seam is there
        obtain ⟨more, later, he⟩ := exists_splitCamelFrom c (earlier :: word) back
        rw [he, seamBehind_cons_iff]
        rintro (hnil | ⟨rest, hrest, -⟩)
        · exact hopen earlier word hnil
        · have hlength := congrArg List.length hrest
          simp only [List.length_append, List.length_reverse, List.length_cons] at hlength
          omega
      rw [List.reverse_cons, ← startsWord_iff]
      rw [List.reverse_cons] at hseam
      exact iff_of_false hseam hnot
  | cons d passed ih =>
    rw [List.cons_append, splitCamelFrom]
    split
    · have hlater : SeamBehind (splitCamelFrom d [] (passed ++ c :: back)) (d :: passed) ↔
          BeginsWord (d :: passed) c back := ih
      rw [seamBehind_cons_iff, beginsWord_append_iff (List.cons_ne_nil d passed), ← hlater]
      constructor
      · rintro (hnil | ⟨rest, hrest, hseam⟩)
        · exact absurd (List.append_eq_nil_iff.1 hnil).1 (hopen earlier word)
        · rwa [List.append_cancel_left hrest]
      · intro hseam
        exact .inr ⟨_, rfl, hseam⟩
    · have hshift : (earlier :: word).reverse ++ d :: passed =
          (d :: earlier :: word).reverse ++ passed := by
        rw [List.reverse_cons (a := d), List.append_assoc]
        rfl
      rw [hshift]
      exact ih

theorem cutIntoWords_splitCamel (piece : Text) : CutIntoWords piece (splitCamel piece) := by
  cases piece with
  | nil => exact ⟨rfl, fun w hw => absurd hw List.not_mem_nil, fun front c back he => by simp at he⟩
  | cons first rest =>
    refine ⟨flatten_splitCamelFrom first [] rest, fun w => ne_nil_of_mem_splitCamelFrom, ?_⟩
    intro front c back he hne
    obtain ⟨d, passed, rfl⟩ := List.exists_cons_of_ne_nil hne
    obtain ⟨rfl, rfl⟩ := List.cons.inj he
    exact seamBehind_splitCamelFrom_iff

/-! ### Names -/

theorem ne_nil_of_mem_nameWords {t w : Text} (h : w ∈ nameWords t) : w ≠ [] := by
  obtain ⟨piece, -, hw⟩ := List.mem_flatMap.1 h
  exact (cutIntoWords_splitCamel piece).nonEmpty w hw

theorem flatten_nameWords (t : Text) : (nameWords t).flatten = t.filter isPiece := by
  have hpiece : List.flatten ∘ splitCamel = id := funext fun piece =>
    (cutIntoWords_splitCamel piece).flatten
  rw [nameWords, List.flatMap_def, List.flatten_flatten, List.map_map, hpiece, List.map_id,
    (tokensOf_pieces t).flatten_eq]

theorem capitalized_eq (w : Text) : capitalized w = toUpper (w.take 1) ++ w.drop 1 := by
  cases w with
  | nil => rfl
  | cons c w =>
    rw [capitalized, toUpper, List.take_succ_cons, List.take_zero, List.flatMap_singleton]
    rfl

/-- Start case cuts a name into its pieces and the pieces into words at the right places, loses
nothing but the separators, and writes the words with a capital and a space between them. -/
theorem startCase_cuts (t : Text) : ∃ (parts : List Text) (wordsOf : List (List Text)),
    (separatorRegex.pattern.cut t).filter (fun part => !part.isEmpty) = parts ∧
      TokensOf isPiece isPiece t parts ∧ List.Forall₂ CutIntoWords parts wordsOf ∧
      nameWords t = wordsOf.flatten ∧ (∀ w ∈ nameWords t, w ≠ []) ∧
      (nameWords t).flatten = t.filter isPiece ∧
      startCase t = join [' '] ((nameWords t).map fun w => toUpper (w.take 1) ++ w.drop 1) := by
  refine ⟨pieces t, (pieces t).map splitCamel, cut_separators t, tokensOf_pieces t, ?_,
    List.flatMap_def, fun w => ne_nil_of_mem_nameWords, flatten_nameWords t, ?_⟩
  · rw [List.forall₂_map_right_iff, List.forall₂_same]
    exact fun piece _ => cutIntoWords_splitCamel piece
  · rw [startCase, funext capitalized_eq]

end GrammarKit.Style
