import GrammarKit.Proofs.Repetition
import GrammarKit.Proofs.Replacing
import GrammarKit.Proofs.WordRuns

/-!
# Tokens

A pattern for a character of one set, with as many of another set behind it as there are, cuts a text
into tokens and the gaps between them. How a text is cut is said apart from the search, by the two
sets alone. Two texts put together are cut as each of them is, where no token reaches over the seam.
-/

namespace GrammarKit.Regex

open Text

/-- The tokens of a text, in order. A token begins with the first character that can begin one and
goes on as long as its characters can; the gap before it has no character that can begin a token, nor
has what is behind the last one. -/
inductive TokensOf (begins goesOn : Char → Bool) : Text → List Text → Prop
  | none {gap : Text} (hgap : ∀ c ∈ gap, begins c = false) : TokensOf begins goesOn gap []
  | token {gap tail rest : Text} {c : Char} {tokens : List Text}
      (hgap : ∀ d ∈ gap, begins d = false) (hc : begins c = true)
      (htail : ∀ d ∈ tail, goesOn d = true) (hend : ∀ d ∈ rest.head?, goesOn d = false)
      (hrest : TokensOf begins goesOn rest tokens) :
      TokensOf begins goesOn (gap ++ (c :: tail ++ rest)) ((c :: tail) :: tokens)

/-! ### Cutting texts -/

section

variable {begins goesOn : Char → Bool} {s t : Text} {tokens later : List Text}

/-- Every text can be cut. -/
theorem exists_tokensOf (begins goesOn : Char → Bool) (t : Text) :
    ∃ tokens, TokensOf begins goesOn t tokens := by
  -- on the length, since the rest behind a token may be much shorter than the text
  induction hlength : t.length using Nat.strongRecOn generalizing t with
  | _ length ih =>
    have hgap : ∀ c ∈ t.takeWhile (fun c => !begins c), begins c = false := fun c hc => by
      simpa using List.all_eq_true.1 List.all_takeWhile c hc
    have hcut : t.takeWhile (fun c => !begins c) ++ t.dropWhile (fun c => !begins c) = t :=
      List.takeWhile_append_dropWhile
    have hhead := eq_false_of_head_dropWhile (p := fun c => !begins c) t
    cases hback : t.dropWhile (fun c => !begins c) with
    | nil =>
      rw [hback, List.append_nil] at hcut
      exact ⟨[], hcut ▸ .none hgap⟩
    | cons c back =>
      rw [hback] at hcut hhead
      have hc : begins c = true := by simpa using hhead c rfl
      have hback : back.takeWhile goesOn ++ back.dropWhile goesOn = back :=
        List.takeWhile_append_dropWhile
      have hshorter : (back.dropWhile goesOn).length < length := by
        have hlengths := congrArg List.length hcut
        have hrest := (List.dropWhile_suffix (l := back) goesOn).length_le
        rw [List.length_append, List.length_cons, hlength] at hlengths
        omega
      obtain ⟨tokens, htokens⟩ := ih _ hshorter _ rfl
      have htail : ∀ d ∈ back.takeWhile goesOn, goesOn d = true :=
        List.all_eq_true.1 List.all_takeWhile
      have htoken := TokensOf.token hgap hc htail (eq_false_of_head_dropWhile back) htokens
      rw [List.cons_append, hback, hcut] at htoken
      exact ⟨_, htoken⟩

theorem TokensOf.behind_gap {gap : Text} (hgap : ∀ c ∈ gap, begins c = false)
    (h : TokensOf begins goesOn t tokens) : TokensOf begins goesOn (gap ++ t) tokens := by
  cases h with
  | none hgap' =>
    refine .none fun c hc => ?_
    rcases List.mem_append.1 hc with hc | hc
    · exact hgap c hc
    · exact hgap' c hc
  | @token gap' tail rest c tokens hgap' hc htail hend hrest =>
    rw [← List.append_assoc]
    refine .token (fun d hd => ?_) hc htail hend hrest
    rcases List.mem_append.1 hd with hd | hd
    · exact hgap d hd
    · exact hgap' d hd

theorem TokensOf.cons {c : Char} {tail : Text} (hc : begins c = true)
    (htail : ∀ d ∈ tail, goesOn d = true) (hend : ∀ d ∈ t.head?, goesOn d = false)
    (h : TokensOf begins goesOn t tokens) :
    TokensOf begins goesOn (c :: tail ++ t) ((c :: tail) :: tokens) :=
  .token (List.forall_mem_nil _) hc htail hend h

/-- Behind a character that neither begins a token nor goes on with one, a text is cut as if it stood
alone. -/
theorem TokensOf.append (hs : TokensOf begins goesOn s tokens)
    (hseam : ∀ c ∈ s.getLast?, begins c = false ∧ goesOn c = false)
    (ht : TokensOf begins goesOn t later) : TokensOf begins goesOn (s ++ t) (tokens ++ later) := by
  induction hs with
  | none hgap => exact ht.behind_gap hgap
  | @token gap tail rest c tokens hgap hc htail hend hrest ih =>
    have hfull : rest ≠ [] := by
      rintro rfl
      -- then the token ends the text, and its last character is at the seam
      rw [List.append_nil, List.getLast?_append_cons] at hseam
      obtain ⟨hbegins, hgoesOn⟩ := hseam _ (List.getLast?_eq_some_getLast (List.cons_ne_nil c tail))
      rcases List.mem_cons.1 (List.getLast_mem (List.cons_ne_nil c tail)) with hlast | hlast
      · rw [hlast, hc] at hbegins
        cases hbegins
      · rw [htail _ hlast] at hgoesOn
        cases hgoesOn
    obtain ⟨d, rest, rfl⟩ := List.exists_cons_of_ne_nil hfull
    have hseam' : ∀ e ∈ (d :: rest).getLast?, begins e = false ∧ goesOn e = false := by
      rwa [List.getLast?_append_of_ne_nil _ (by simp), List.getLast?_append_of_ne_nil _ (by simp)]
        at hseam
    rw [List.append_assoc, List.append_assoc]
    exact .token hgap hc htail hend (ih hseam')

end

section

variable {p : Char → Bool}

/-- Where the same characters begin a token and go on with it, the tokens are the runs of these
characters. -/
theorem tokensOf_runs {kind : Bool} {rs : List Text} (h : Alternating p kind rs) :
    TokensOf p p rs.flatten (rs.filter fun run => run.any p) := by
  induction rs generalizing kind with
  | nil => exact .none (List.forall_mem_nil _)
  | cons run later ih =>
    obtain ⟨⟨hne, hrun⟩, hlater⟩ := h
    rw [List.flatten_cons]
    cases kind with
    | true =>
      rw [filter_any_cons_of_pos hne hrun]
      obtain ⟨c, tail, rfl⟩ := List.exists_cons_of_ne_nil hne
      obtain ⟨hc, htail⟩ := List.forall_mem_cons.1 hrun
      exact .cons hc htail hlater.of_mem_head (ih hlater)
    | false =>
      rw [filter_any_cons_of_neg hrun]
      exact (ih hlater).behind_gap hrun

theorem TokensOf.flatten_eq {t : Text} {tokens : List Text} (h : TokensOf p p t tokens) :
    tokens.flatten = t.filter p := by
  have hdropped : ∀ {gap : Text}, (∀ c ∈ gap, p c = false) → gap.filter p = [] := fun hgap =>
    List.filter_eq_nil_iff.2 fun c hc => ne_true_of_eq_false (hgap c hc)
  induction h with
  | none hgap => exact (hdropped hgap).symm
  | @token gap tail rest c tokens hgap hc htail hend hrest ih =>
    have htoken : (c :: tail).filter p = c :: tail :=
      List.filter_eq_self.2 (List.forall_mem_cons.2 ⟨hc, htail⟩)
    rw [List.filter_append, List.filter_append, hdropped hgap, htoken, List.nil_append,
      List.flatten_cons, ih]

end

/-! ### Searching -/

/-- The pattern for a character of one set with as many of another set behind it as there are. -/
def Pattern.token (first more : CharSet) : Pattern := .seq (.one first) (.many (.one more))

section

variable {first more : CharSet} {front back : Text} {c : Char} {nonEmpty : Bool}

theorem matchAt_token_nil :
    (Pattern.token first more).matchAt nonEmpty (.between front []) = none := rfl

theorem matchAt_token_of_not (h : first.covers c = false) :
    (Pattern.token first more).matchAt nonEmpty (.between front (c :: back)) = none := by
  rw [Pattern.matchAt, Pattern.token, Pattern.run, run_one_cons, if_neg (by simp [h])]

theorem matchAt_token {tail rest : Text} (front : Text) (h : first.covers c = true)
    (htail : ∀ d ∈ tail, more.covers d = true) (hend : ∀ d ∈ rest.head?, more.covers d = false) :
    (Pattern.token first more).matchAt false (.between front (c :: tail ++ rest)) =
      some ⟨.between front (c :: tail ++ rest), .between (front ++ c :: tail) rest, []⟩ := by
  have hshift : front ++ [c] ++ tail = front ++ c :: tail := by simp
  rw [Pattern.matchAt, Pattern.token, Pattern.run, List.cons_append, run_one_cons, if_pos h,
    run_many_one _ _ fun _ _ _ => rfl, takeWhile_append_of_head htail hend,
    dropWhile_append_of_head htail hend, hshift]
  rfl

theorem matchesFrom_token_gap {gap : Text} (hgap : ∀ c ∈ gap, first.covers c = false)
    (n : Nat) (front back : Text) :
    (Pattern.token first more).matchesFrom (n + 1) false (.between front (gap ++ back)) =
      (Pattern.token first more).matchesFrom (n + 1) false (.between (front ++ gap) back) := by
  by_cases hne : gap = []
  · rw [hne, List.nil_append, List.append_nil]
  · apply Pattern.matchesFrom_skip hne
    intro passed d ahead he nonEmpty
    exact matchAt_token_of_not (hgap d (by simp [he]))

/-- A search finds the tokens of what it has in front of it. -/
theorem text_matchesFrom_token {tokens : List Text} {n : Nat}
    (h : TokensOf first.covers more.covers back tokens) (hn : back.length < n) (front : Text) :
    ((Pattern.token first more).matchesFrom n false (.between front back)).map Match.text =
      tokens := by
  induction h generalizing n front with
  | @none gap hgap =>
    obtain ⟨n, rfl⟩ : ∃ m, n = m + 1 := ⟨n - 1, by omega⟩
    rw [← List.append_nil gap, matchesFrom_token_gap hgap,
      Pattern.matchesFrom_end matchAt_token_nil, List.map_nil]
  | @token gap tail rest c tokens hgap hc htail hend hrest ih =>
    obtain ⟨n, rfl⟩ : ∃ m, n = m + 1 := ⟨n - 1, by omega⟩
    simp only [List.length_append, List.length_cons] at hn
    have hmatch := matchAt_token (front ++ gap) hc htail hend
    have htext : Match.text ⟨.between (front ++ gap) (c :: tail ++ rest),
        .between (front ++ gap ++ c :: tail) rest, []⟩ = c :: tail := Cursor.upTo_between _ _ _ _
    have hfull : Match.isEmpty ⟨.between (front ++ gap) (c :: tail ++ rest),
        .between (front ++ gap ++ c :: tail) rest, []⟩ = false := by
      simp only [Match.isEmpty, Cursor.left_between, List.length_append, List.length_cons,
        decide_eq_false_iff_not]
      omega
    rw [matchesFrom_token_gap hgap, Pattern.matchesFrom_of_some hmatch, List.map_cons, htext, hfull,
      ih (by omega)]

/-- What a search finds in a text are its tokens. -/
theorem text_allMatches_token_eq_iff {t : Text} {tokens : List Text} :
    ((Pattern.token first more).allMatches t).map Match.text = tokens ↔
      TokensOf first.covers more.covers t tokens := by
  have hfound : ∀ {found : List Text}, TokensOf first.covers more.covers t found →
      ((Pattern.token first more).allMatches t).map Match.text = found := by
    intro found h
    exact text_matchesFrom_token h (by omega) []
  constructor
  · rintro rfl
    obtain ⟨found, h⟩ := exists_tokensOf first.covers more.covers t
    rwa [hfound h]
  · exact hfound

end

end GrammarKit.Regex
