import GrammarKit.Proofs.NameShortening
import GrammarKit.Proofs.Stretches

/-!
# Shortening properties behind their owners

The pattern for accesses fits at a place if an owner, a point and a property stand there between
word boundaries. Where owners and properties are words, the owner starts there as a whole piece, the
point ends it, and the next piece is the property. So replacing all its matches is one pass over the
pieces of a text, in which a property that has been replaced owns nothing.
-/

namespace GrammarKit.AbbreviationTable

open Regex Text

variable {table : AbbreviationTable}

/-- The names, owners and properties of a table are words, and there are owners and properties. -/
structure Plain (table : AbbreviationTable) : Prop where
  names : table.NamesAreWords
  owners : ∀ owner ∈ table.owners, owner ≠ [] ∧ ∀ c ∈ owner, isWord c = true
  owners_ne_nil : table.owners ≠ []
  properties_ne_nil : table.properties ≠ []

theorem NamesAreWords.properties (h : table.NamesAreWords) :
    ∀ property ∈ table.properties, property ≠ [] ∧ ∀ c ∈ property, isWord c = true :=
  fun property hproperty => h property (table.covered property hproperty)

/-- There are owners and properties, and they are words, whatever the other names of the table
are. -/
structure WordAccess (table : AbbreviationTable) : Prop where
  owners : ∀ owner ∈ table.owners, owner ≠ [] ∧ ∀ c ∈ owner, isWord c = true
  properties : ∀ property ∈ table.properties, property ≠ [] ∧ ∀ c ∈ property, isWord c = true
  owners_ne_nil : table.owners ≠ []
  properties_ne_nil : table.properties ≠ []

theorem Plain.wordAccess (h : table.Plain) : table.WordAccess :=
  ⟨h.owners, h.names.properties, h.owners_ne_nil, h.properties_ne_nil⟩

theorem WordAccess.not_mem_owners (h : table.WordAccess) : [] ∉ table.owners :=
  fun hmem => (h.owners [] hmem).1 rfl

theorem WordAccess.not_mem_properties (h : table.WordAccess) : [] ∉ table.properties :=
  fun hmem => (h.properties [] hmem).1 rfl

theorem isWord_point : isWord '.' = false := by decide +kernel

/-! ### The pattern at a place -/

/-- One of several words as a group, in front of a point: the first that fits, in trying order. -/
theorem run_pointedGroup {α : Type} (next : State → Option α) (groups : List (Nat × Text))
    {words : List Text} (number : Nat) (hne : words ≠ []) (front back : Text) (ps : List Pattern) :
    (Pattern.inOrder (.group number (alternation words) :: .one (.single '.') :: ps)).run
        ⟨.between front back, groups⟩ next =
      (inTryingOrder words).findSome? fun word =>
        if word ++ ['.'] <+: back then
          (Pattern.inOrder ps).run ⟨.between (front ++ word ++ ['.'])
            (back.drop (word.length + 1)), (number, word) :: groups⟩ next
        else none := by
  rw [run_inOrder_cons, Pattern.run, run_alternation _ _ hne]
  apply findSome_congr
  intro word _
  by_cases hpre : word <+: back
  · obtain ⟨rest, rfl⟩ := hpre
    have hpoint : word ++ ['.'] <+: word ++ rest ↔ rest.head? = some '.' := by
      rw [List.prefix_append_right_inj]
      cases rest <;> simp [eq_comm]
    have hdrop : (word ++ rest).drop (word.length + 1) = rest.tail := by
      rw [← List.drop_drop, List.drop_left, List.drop_one]
    rw [if_pos (List.prefix_append word rest), List.drop_left, Cursor.upTo_between,
      run_inOrder_cons, run_single, hdrop]
    simp only [hpoint]
  · have hpoint : ¬ word ++ ['.'] <+: back := fun h => hpre ((List.prefix_append word _).trans h)
    rw [if_neg hpre, if_neg hpoint]

/-- Whether a piece is an owner, ended by a point, and the piece behind the point a property. -/
def IsAccess (table : AbbreviationTable) (first : Text) (s : Stretch) : Prop :=
  first ∈ table.owners ∧ s.mark = '.' ∧ s.word ∈ table.properties

instance (first : Text) (s : Stretch) : Decidable (table.IsAccess first s) :=
  inferInstanceAs (Decidable (_ ∧ _ ∧ _))

def accessMatch (front owner property back : Text) : Match :=
  ⟨.between front (owner ++ '.' :: (property ++ back)),
    .between (front ++ owner ++ ['.'] ++ property) back, [(2, property), (1, owner)]⟩

/-- The match of an owner, a point and a property at a place, if they stand there and end at a word
boundary. -/
def pairAt (front back owner property : Text) : Option Match :=
  if owner ++ '.' :: property <+: back ∧ isBoundary (front ++ (owner ++ '.' :: property))
      (back.drop (owner ++ '.' :: property).length) then
    some (accessMatch front owner property (back.drop (owner ++ '.' :: property).length))
  else none

theorem pairAt_append (front owner property rest : Text) :
    pairAt front (owner ++ '.' :: (property ++ rest)) owner property =
      if isBoundary (front ++ (owner ++ '.' :: property)) rest then
        some (accessMatch front owner property rest)
      else none := by
  have hback : owner ++ '.' :: (property ++ rest) = owner ++ '.' :: property ++ rest := by simp
  rw [pairAt, hback, List.drop_left]
  simp only [List.prefix_append, true_and]

/-- The pattern for accesses at a place, whatever the owners and properties are. -/
theorem matchAt_access_eq (table : AbbreviationTable) (nonEmpty : Bool) (front back : Text) :
    table.accessRegex.pattern.matchAt nonEmpty (.between front back) =
      if isBoundary front back then
        (inTryingOrder (choices table.owners)).findSome? fun owner =>
          (inTryingOrder (choices table.properties)).findSome? fun property =>
            pairAt front back owner property
      else none := by
  unfold Pattern.matchAt accessRegex
  rw [← alternation_choices table.owners, ← alternation_choices table.properties,
    run_inOrder_cons, run_wordBoundary, run_pointedGroup _ _ 1 (choices_ne_nil _)]
  congr 1
  apply findSome_congr
  intro owner _
  by_cases hpointed : owner ++ ['.'] <+: back
  · obtain ⟨behind, rfl⟩ := hpointed
    have hback : owner ++ ['.'] ++ behind = owner ++ '.' :: behind := by simp
    have hdrop : (owner ++ ['.'] ++ behind).drop (owner.length + 1) = behind :=
      List.drop_left' (by simp)
    rw [if_pos (List.prefix_append _ behind), hdrop, run_wordGroup _ _ 2 (choices_ne_nil _)]
    apply findSome_congr
    intro property _
    by_cases hproperty : property <+: behind
    · obtain ⟨rest, rfl⟩ := hproperty
      have hlonger : rest.length ≠ (owner ++ '.' :: (property ++ rest)).length := by
        rw [List.length_append, List.length_cons, List.length_append]
        omega
      have hplace : front ++ owner ++ ['.'] ++ property = front ++ (owner ++ '.' :: property) := by
        simp
      rw [List.drop_left, hback, pairAt_append, hplace]
      simp only [List.prefix_append, true_and, Cursor.left_between, hlonger, decide_false,
        Bool.and_false, Bool.false_eq_true, if_false, accessMatch, hplace]
    · rw [if_neg fun h => hproperty h.1, pairAt, if_neg]
      rintro ⟨hpre, -⟩
      rw [hback, List.prefix_append_right_inj, List.cons_prefix_cons] at hpre
      exact hproperty hpre.2
  · rw [if_neg hpointed, eq_comm, List.findSome?_eq_none_iff]
    intro property _
    rw [pairAt, if_neg]
    rintro ⟨⟨rest, rfl⟩, -⟩
    exact hpointed ⟨property ++ rest, by simp⟩

/-- A match is an owner, a point and a property between word boundaries. -/
theorem exists_of_matchAt_access {nonEmpty : Bool} {front back : Text} {m : Match}
    (h : table.accessRegex.pattern.matchAt nonEmpty (.between front back) = some m) :
    ∃ owner property rest, owner ∈ choices table.owners ∧ property ∈ choices table.properties ∧
      back = owner ++ '.' :: (property ++ rest) ∧ isBoundary front back ∧
      isBoundary (front ++ (owner ++ '.' :: property)) rest ∧
      m = accessMatch front owner property rest := by
  rw [matchAt_access_eq] at h
  split at h
  · next hstart =>
    obtain ⟨owner, howner, hfound⟩ := List.exists_of_findSome?_eq_some h
    obtain ⟨property, hproperty, hpair⟩ := List.exists_of_findSome?_eq_some hfound
    have hfits := hpair
    unfold pairAt at hfits
    split at hfits
    · next hboth =>
      obtain ⟨rest, rfl⟩ := hboth.1
      rw [List.drop_left] at hboth hfits
      exact ⟨owner, property, rest, mem_inTryingOrder.1 howner, mem_inTryingOrder.1 hproperty,
        by simp, hstart, hboth.2, (Option.some.inj hfits).symm⟩
    · cases hfits
  · cases h

/-- Where an owner, a point and a property stand between word boundaries, something matches. -/
theorem exists_matchAt_access (nonEmpty : Bool) {front owner property rest : Text}
    (howner : owner ∈ choices table.owners) (hproperty : property ∈ choices table.properties)
    (hstart : isBoundary front (owner ++ '.' :: (property ++ rest)))
    (hend : isBoundary (front ++ (owner ++ '.' :: property)) rest) :
    ∃ m, table.accessRegex.pattern.matchAt nonEmpty
      (.between front (owner ++ '.' :: (property ++ rest))) = some m := by
  rw [← Option.ne_none_iff_exists', matchAt_access_eq, if_pos hstart]
  intro hnone
  rw [List.findSome?_eq_none_iff] at hnone
  have howned := hnone owner (mem_inTryingOrder.2 howner)
  rw [List.findSome?_eq_none_iff] at howned
  have hpair := howned property (mem_inTryingOrder.2 hproperty)
  rw [pairAt_append, if_pos hend] at hpair
  cases hpair

/-- If the properties are words, what is taken behind the point is one of them, as a whole word. -/
theorem exists_property_of_matchAt
    (hwords : ∀ property ∈ table.properties, property ≠ [] ∧ ∀ c ∈ property, isWord c = true)
    (hproperties : table.properties ≠ []) {nonEmpty : Bool} {front back : Text} {m : Match}
    (h : table.accessRegex.pattern.matchAt nonEmpty (.between front back) = some m) :
    ∃ owner property rest, owner ∈ choices table.owners ∧ property ∈ table.properties ∧
      isBoundary front back ∧ rest.head?.any isWord = false ∧
      back = owner ++ '.' :: (property ++ rest) ∧ m = accessMatch front owner property rest := by
  obtain ⟨owner, property, rest, howner, hproperty, hback, hstart, hend, hm⟩ :=
    exists_of_matchAt_access h
  rw [choices_of_ne_nil hproperties] at hproperty
  obtain ⟨hne, hword⟩ := hwords property hproperty
  have hplace : front ++ (owner ++ '.' :: property) = front ++ owner ++ ['.'] ++ property := by simp
  rw [hplace, isBoundary, any_getLast hne hword] at hend
  exact ⟨owner, property, rest, howner, hproperty, hstart, by simpa using hend, hback, hm⟩

/-- The access that starts at a place, if one does. -/
def accessAt (table : AbbreviationTable) (front first : Text) : List Stretch → Option Match
  | [] => none
  | s :: later =>
    if table.IsAccess first s then
      some (accessMatch front first s.word (later.flatMap Stretch.text))
    else none

/-- An owner, a point and a property, with no word character behind them, are the first two pieces
of the text. -/
theorem eq_cons_of_access (h : table.WordAccess) {first owner property rest : Text}
    {later : List Stretch} (hfirst : ∀ c ∈ first, isWord c = true) (howner : owner ∈ table.owners)
    (hproperty : property ∈ table.properties) (hrest : rest.head?.any isWord = false)
    (hback : glue first later = owner ++ '.' :: (property ++ rest)) :
    ∃ s others, later = s :: others ∧ table.IsAccess first s ∧ first = owner ∧
      s.word = property ∧ others.flatMap Stretch.text = rest := by
  obtain ⟨hsame, hbehind⟩ := word_append_inj hfirst (h.owners owner howner).2 hback
    (head_flatMap_text later) isWord_point
  subst hsame
  cases later with
  | nil => cases hbehind
  | cons s others =>
    obtain ⟨hmark, hpiece⟩ := List.cons.inj hbehind
    obtain ⟨rfl, hothers⟩ := word_append_inj s.isWord_word
      (h.properties property hproperty).2 hpiece (head_flatMap_text others) hrest
    exact ⟨s, others, rfl, ⟨howner, hmark, hproperty⟩, rfl, rfl, hothers⟩

theorem matchAt_access (h : table.WordAccess) (nonEmpty : Bool) {front first : Text}
    (hfirst : ∀ c ∈ first, isWord c = true)
    (hfront : first ≠ [] → front.getLast?.any isWord = false) (later : List Stretch) :
    table.accessRegex.pattern.matchAt nonEmpty (.between front (glue first later)) =
      table.accessAt front first later := by
  cases hmatch : table.accessRegex.pattern.matchAt nonEmpty (.between front (glue first later)) with
  | some m =>
    obtain ⟨owner, property, rest, howner, hproperty, -, hrest, hback, rfl⟩ :=
      exists_property_of_matchAt h.properties h.properties_ne_nil hmatch
    rw [choices_of_ne_nil h.owners_ne_nil] at howner
    obtain ⟨s, others, rfl, haccess, rfl, rfl, rfl⟩ :=
      eq_cons_of_access h hfirst howner hproperty hrest hback
    rw [accessAt, if_pos haccess]
  | none =>
    cases later with
    | nil => rfl
    | cons s later =>
      rw [accessAt, if_neg]
      rintro ⟨howner, hmark, hproperty⟩
      obtain ⟨hne, hword⟩ := h.properties s.word hproperty
      have hstart : isBoundary front (first ++ '.' :: (s.word ++ later.flatMap Stretch.text)) := by
        have hfirstne := (h.owners first howner).1
        rw [isBoundary, hfront hfirstne, any_head hfirstne hfirst]
        rfl
      have hend : isBoundary (front ++ (first ++ '.' :: s.word)) (later.flatMap Stretch.text) := by
        rw [List.append_cons, ← List.append_assoc, isBoundary, any_getLast hne hword,
          head_flatMap_text]
        rfl
      obtain ⟨m, hm⟩ := exists_matchAt_access nonEmpty (mem_choices howner)
        (mem_choices hproperty) hstart hend
      rw [glue_cons, hmark] at hmatch
      exact Option.some_ne_none m (hm.symm.trans hmatch)

theorem matchAt_access_inside (h : table.WordAccess) (nonEmpty : Bool) {front back : Text}
    (hback : back.head?.any isWord = false ∨ front.getLast?.any isWord = true) :
    table.accessRegex.pattern.matchAt nonEmpty (.between front back) = none := by
  rw [Option.eq_none_iff_forall_ne_some]
  intro m hm
  obtain ⟨owner, property, rest, howner, -, rfl, hstart, -⟩ := exists_of_matchAt_access hm
  rw [choices_of_ne_nil h.owners_ne_nil] at howner
  obtain ⟨hne, hword⟩ := h.owners owner howner
  have hhead := any_head hne hword ('.' :: (property ++ rest))
  -- an owner starts with a word character, so the place cannot be the end of a word
  rcases hback with hnot | hfront
  · rw [hhead] at hnot
    cases hnot
  · rw [isBoundary, hhead, hfront] at hstart
    cases hstart

/-! ### From piece to piece -/

/-- A text with its accesses shortened, from its pieces. A property that has been replaced is
passed, so the search goes on with an empty piece. -/
def accessed (table : AbbreviationTable) (first : Text) : List Stretch → Text
  | [] => first
  | s :: later =>
    if table.IsAccess first s then
      first ++ s.mark :: (table.abbreviate s.word ++ table.accessed [] later)
    else first ++ s.mark :: table.accessed s.word later

/-- The text behind `front` when `kept` has been passed without an access and the search goes on in
front of `back`. -/
def accessedFrom (table : AbbreviationTable) (n : Nat) (nonEmpty : Bool) (front kept back : Text) :
    Except SubstitutionError Text :=
  table.accessRegex.pattern.replacedFrom
    (fun m => do return m.taken 1 ++ ['.'] ++ (← table.code (m.taken 2))) n nonEmpty front kept back

theorem accessedFrom_mark (h : table.WordAccess) (n : Nat) (nonEmpty : Bool) (front kept : Text)
    {c : Char} (hc : isWord c = false) (back : Text) :
    table.accessedFrom (n + 1) nonEmpty front kept (c :: back) =
      table.accessedFrom (n + 1) false front (kept ++ [c]) back :=
  Pattern.replacedFrom_kept (matchAt_access_inside h nonEmpty (Or.inl hc))

/-- A piece at which no access starts is passed. -/
theorem accessedFrom_piece (h : table.WordAccess) {n : Nat} {front kept first result : Text}
    {later : List Stretch} (hfirst : ∀ c ∈ first, isWord c = true)
    (hfront : first ≠ [] → (front ++ kept).getLast?.any isWord = false)
    (hnone : table.accessAt (front ++ kept) first later = none)
    (hresult : ∀ nonEmpty, table.accessedFrom (n + 1) nonEmpty front (kept ++ first)
      (later.flatMap Stretch.text) = .ok result) (nonEmpty : Bool) :
    table.accessedFrom (n + 1) nonEmpty front kept (glue first later) = .ok result := by
  by_cases hne : first = []
  · have hhere := hresult nonEmpty
    rw [hne, List.append_nil] at hhere
    rw [hne]
    exact hhere
  · rw [← hresult false]
    apply Pattern.replacedFrom_skip hne
    intro passed c ahead he nonEmpty
    cases passed with
    | nil =>
      have hhere := matchAt_access h nonEmpty hfirst hfront later
      rw [hnone, glue, he] at hhere
      rw [List.append_nil]
      exact hhere
    | cons d passed =>
      have hpassed : ∀ e ∈ d :: passed, isWord e = true := by
        intro e hmem
        exact hfirst e (by rw [he]; exact List.mem_append_left _ hmem)
      exact matchAt_access_inside h nonEmpty (Or.inr (any_getLast (by simp) hpassed _))

theorem accessedFrom_glue (h : table.WordAccess) {n : Nat} {later : List Stretch} (hn : later.length ≤ n)
    (nonEmpty : Bool) {front kept first : Text} (hfirst : ∀ c ∈ first, isWord c = true)
    (hfront : first ≠ [] → (front ++ kept).getLast?.any isWord = false) :
    table.accessedFrom (n + 1) nonEmpty front kept (glue first later) =
      .ok (kept ++ table.accessed first later) := by
  induction later generalizing n nonEmpty front kept first with
  | nil =>
    apply accessedFrom_piece h hfirst hfront rfl
    intro nonEmpty
    exact Pattern.replacedFrom_end (matchAt_access_inside h nonEmpty (Or.inl rfl))
  | cons s later ih =>
    rw [List.length_cons] at hn
    by_cases haccess : table.IsAccess first s
    · have hmark : s.mark = '.' := haccess.2.1
      have hcode := table.code_of_mem (table.covered s.word haccess.2.2)
      have hmatch := matchAt_access h nonEmpty hfirst hfront (s :: later)
      rw [accessAt, if_pos haccess] at hmatch
      obtain ⟨n, rfl⟩ : ∃ m, n = m + 1 := ⟨n - 1, by omega⟩
      have hlater : ∀ nonEmpty, table.accessedFrom (n + 1) nonEmpty
          (front ++ kept ++ first ++ ['.'] ++ s.word) [] (later.flatMap Stretch.text) =
            .ok (table.accessed [] later) :=
        fun nonEmpty => ih (by omega) nonEmpty (by simp) fun hne => absurd rfl hne
      have hshape : kept ++ table.accessed first (s :: later) =
          kept ++ (first ++ ['.'] ++ table.abbreviate s.word) ++ table.accessed [] later := by
        rw [accessed, if_pos haccess, hmark]
        simp
      rw [hshape]
      apply Pattern.replacedFrom_match hmatch _ rfl _ hlater
      · rw [glue_cons, hmark]
        rfl
      · have howner : (accessMatch (front ++ kept) first s.word
            (later.flatMap Stretch.text)).taken 1 = first := rfl
        have hproperty : (accessMatch (front ++ kept) first s.word
            (later.flatMap Stretch.text)).taken 2 = s.word := rfl
        rw [howner, hproperty, hcode]
        rfl
    · have hnone : table.accessAt (front ++ kept) first (s :: later) = none := by
        rw [accessAt, if_neg haccess]
      have hmark : (front ++ (kept ++ first ++ [s.mark])).getLast?.any isWord = false := by
        rw [← List.append_assoc]
        exact any_getLast (by simp) (by simp [s.isWord_mark]) _
      have hnext : table.accessedFrom (n + 1) false front (kept ++ first ++ [s.mark])
          (glue s.word later) = .ok (kept ++ first ++ [s.mark] ++ table.accessed s.word later) :=
        ih (by omega) false s.isWord_word fun _ => hmark
      have hshape : kept ++ table.accessed first (s :: later) =
          kept ++ first ++ [s.mark] ++ table.accessed s.word later := by
        rw [accessed, if_neg haccess]
        simp
      apply accessedFrom_piece h hfirst hfront hnone
      intro nonEmpty
      rw [List.flatMap_cons, Stretch.text, List.cons_append,
        accessedFrom_mark h n nonEmpty front _ s.isWord_mark, hshape]
      exact hnext

theorem apply_shortenAccess (h : table.WordAccess) {first : Text} (hfirst : ∀ c ∈ first, isWord c = true)
    (later : List Stretch) :
    (Rule.shortenAccess table).apply (glue first later) = .ok (table.accessed first later) := by
  have hbound : later.length ≤ 2 * (glue first later).length + 1 := by
    have hle := length_le_glue first later
    omega
  have hall : table.accessedFrom (2 * (glue first later).length + 2) false [] []
      (glue first later) = .ok ([] ++ table.accessed first later) :=
    accessedFrom_glue h hbound false hfirst fun _ => rfl
  exact hall

end GrammarKit.AbbreviationTable
