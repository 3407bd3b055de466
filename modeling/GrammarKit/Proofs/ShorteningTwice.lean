import GrammarKit.Proofs.AccessShortening
import GrammarKit.Proofs.MapEntries

/-!
# Shortening a text that is short already

That no code is a name does not keep shortening from changing its own result: a code may hold a name
among its pieces, and a code that ends in an owner makes an access with what follows it. For tables
of words these two are all that can go wrong, and a table that has neither leaves its results alone.
-/

namespace GrammarKit.AbbreviationTable

open Text

variable {table : AbbreviationTable}

/-- A change that can be made to a text, and that changes nothing when it is made again. -/
def Settles (change : Text → Except SubstitutionError Text) (t : Text) : Prop :=
  ∃ u, change t = .ok u ∧ change u = .ok u

theorem Settles.again {change : Text → Except SubstitutionError Text} {t u : Text}
    (h : Settles change t) (hu : change t = .ok u) : change u = .ok u := by
  obtain ⟨v, hv, hagain⟩ := h
  rw [hu, Except.ok.injEq] at hv
  rw [hv]
  exact hagain

def CodesHoldNoNames (table : AbbreviationTable) : Prop :=
  ∀ code ∈ table.codes.values, ∀ piece ∈ wordPieces code, piece ∉ table.codes.keys

def CodesEndInNoOwner (table : AbbreviationTable) : Prop :=
  ∀ property ∈ table.properties, ∀ owner ∈ table.owners,
    (wordPieces (table.abbreviate property)).getLast? ≠ some owner

/-! ### Codes -/

theorem abbreviate_mem_values {name : Text} (h : name ∈ table.codes.keys) :
    table.abbreviate name ∈ table.codes.values := by
  obtain ⟨code, hcode⟩ := Option.isSome_iff_exists.1 ((OrderedMap.mem_keys_iff _ _).1 h)
  rw [abbreviate, hcode]
  exact (OrderedMap.mem_values_iff _ _).2 ⟨name, hcode⟩

theorem exists_name_of_code {code : Text} (h : code ∈ table.codes.values) :
    ∃ name ∈ table.codes.keys, table.abbreviate name = code := by
  obtain ⟨name, hname⟩ := (OrderedMap.mem_values_iff _ _).1 h
  refine ⟨name, (OrderedMap.mem_keys_iff _ _).2 (by rw [hname]; rfl), ?_⟩
  rw [abbreviate, hname, Option.getD_some]

theorem not_mem_keys_of_abbreviate_eq {name : Text} (h : table.abbreviate name = name) :
    name ∉ table.codes.keys := by
  intro hname
  have hcode := table.disjoint _ (abbreviate_mem_values hname)
  rw [h] at hcode
  exact hcode hname

theorem CodesHoldNoNames.not_mem_keys (h : table.CodesHoldNoNames) {word : Text}
    (hword : ∀ c ∈ word, isWord c = true) :
    ∀ piece ∈ wordPieces (table.abbreviate word), piece ∉ table.codes.keys := by
  by_cases hname : word ∈ table.codes.keys
  · exact h _ (abbreviate_mem_values hname)
  · rw [table.abbreviate_of_not_mem hname, wordPieces_of_word hword]
    intro piece hpiece
    rw [List.mem_singleton.1 hpiece]
    exact hname

/-- Codes that are words hold no names, since none is one. -/
theorem codesHoldNoNames_of_words
    (h : ∀ code ∈ table.codes.values, ∀ c ∈ code, isWord c = true) : table.CodesHoldNoNames := by
  intro code hcode piece hpiece
  rw [wordPieces_of_word (h code hcode)] at hpiece
  rw [List.mem_singleton.1 hpiece]
  exact table.disjoint code hcode

theorem codesEndInNoOwner_of_words
    (h : ∀ code ∈ table.codes.values, ∀ c ∈ code, isWord c = true)
    (howners : ∀ property ∈ table.properties, table.abbreviate property ∉ table.owners) :
    table.CodesEndInNoOwner := by
  intro property hproperty owner howner hlast
  have hcode := abbreviate_mem_values (table.covered property hproperty)
  rw [wordPieces_of_word (h _ hcode), List.getLast?_singleton, Option.some.injEq] at hlast
  rw [← hlast] at howner
  exact howners property hproperty howner

/-! ### Names, from piece to piece -/

/-- A text with its names shortened, from its pieces. -/
def shortened (table : AbbreviationTable) (first : Text) (later : List Stretch) : Text :=
  table.abbreviate first ++ later.flatMap fun s => s.mark :: table.abbreviate s.word

theorem shortened_nil (first : Text) : table.shortened first [] = table.abbreviate first :=
  List.append_nil _

theorem shortened_cons (first : Text) (s : Stretch) (later : List Stretch) :
    table.shortened first (s :: later) =
      table.abbreviate first ++ s.mark :: table.shortened s.word later := rfl

theorem flatMap_shortenedRun_mark {c : Char} (hc : isWord c = false) (t : Text) :
    (wordRuns (c :: t)).flatMap table.shortenedRun =
      c :: (wordRuns t).flatMap table.shortenedRun := by
  have hmark : table.shortenedRun [c] = [c] :=
    table.shortenedRun_of_not_word fun d hd => by rw [List.mem_singleton.1 hd, hc]
  unfold wordRuns
  rw [runs]
  split
  · next d more later hruns =>
    rw [hruns]
    split
    · next hsame =>
      have hall : ∀ e ∈ d :: more, isWord e = false := by
        intro e he
        have hrun : d :: more ∈ runs isWord t := hruns ▸ List.mem_cons_self
        rw [(runs_uniform hrun).2 e he d List.mem_cons_self, ← hsame, hc]
      have hmore : ∀ e ∈ c :: d :: more, isWord e = false := by
        intro e he
        rcases List.mem_cons.1 he with rfl | he
        · exact hc
        · exact hall e he
      rw [List.flatMap_cons, List.flatMap_cons, table.shortenedRun_of_not_word hall,
        table.shortenedRun_of_not_word hmore]
      rfl
    · rw [List.flatMap_cons, hmark]
      rfl
  · rw [List.flatMap_cons, hmark]
    rfl

theorem abbreviate_nil (hnames : table.NamesAreWords) : table.abbreviate [] = [] :=
  table.abbreviate_of_not_mem fun hmem => (hnames [] hmem).1 rfl

theorem flatMap_shortenedRun_word (hnames : table.NamesAreWords) {word t : Text}
    (hword : ∀ c ∈ word, isWord c = true) (ht : t.head?.any isWord = false) :
    (wordRuns (word ++ t)).flatMap table.shortenedRun =
      table.abbreviate word ++ (wordRuns t).flatMap table.shortenedRun := by
  by_cases hne : word = []
  · rw [hne, abbreviate_nil hnames]
    rfl
  · have hnext : ∀ c ∈ t.head?, isWord c ≠ true := by
      intro c hc
      rw [hc] at ht
      simpa using ht
    have hruns : wordRuns (word ++ t) = word :: wordRuns t := runs_append hne hword hnext
    rw [hruns, List.flatMap_cons, table.shortenedRun_of_word hne hword]

theorem flatMap_shortenedRun_glue (hnames : table.NamesAreWords) {first : Text}
    (hfirst : ∀ c ∈ first, isWord c = true) (later : List Stretch) :
    (wordRuns (glue first later)).flatMap table.shortenedRun = table.shortened first later := by
  induction later generalizing first with
  | nil => exact flatMap_shortenedRun_word hnames hfirst rfl
  | cons s later ih =>
    have hhead : (s.mark :: glue s.word later).head?.any isWord = false := s.isWord_mark
    rw [glue_cons, flatMap_shortenedRun_word hnames hfirst hhead,
      flatMap_shortenedRun_mark s.isWord_mark, ih s.isWord_word, shortened_cons]

theorem apply_shortenNames (hnames : table.NamesAreWords) {first : Text}
    (hfirst : ∀ c ∈ first, isWord c = true) (later : List Stretch) :
    (Rule.shortenNames table).apply (glue first later) = .ok (table.shortened first later) := by
  obtain ⟨kind, hruns⟩ := alternating_runs isWord (glue first later)
  have hflat : (runs isWord (glue first later)).flatten = glue first later := runs_flatten isWord _
  have hbound : (runs isWord (glue first later)).length < 2 * (glue first later).length + 2 := by
    have hle := hruns.length_le
    rw [hflat] at hle
    omega
  have hall := table.shortenedFrom_runs hnames hruns hbound false [] [] fun _ => rfl
  rw [hflat, List.nil_append, ← wordRuns, flatMap_shortenedRun_glue hnames hfirst] at hall
  exact hall

theorem wordPieces_shortened (first : Text) (later : List Stretch) :
    wordPieces (table.shortened first later) =
      (first :: later.map Stretch.word).flatMap fun word => wordPieces (table.abbreviate word) := by
  induction later generalizing first with
  | nil => simp [shortened]
  | cons s later ih =>
    rw [shortened_cons, wordPieces_append_cons s.isWord_mark, ih]
    conv_rhs => rw [List.map_cons, List.flatMap_cons]

theorem shortened_of_no_names {first : Text} {later : List Stretch}
    (h : ∀ piece ∈ first :: later.map Stretch.word, piece ∉ table.codes.keys) :
    table.shortened first later = glue first later := by
  induction later generalizing first with
  | nil =>
    have hfirst := table.abbreviate_of_not_mem (h first List.mem_cons_self)
    rw [shortened_nil, hfirst, glue_nil]
  | cons s later ih =>
    have hfirst := table.abbreviate_of_not_mem (h first List.mem_cons_self)
    rw [shortened_cons, hfirst, ih fun piece hpiece => h piece (List.mem_cons_of_mem _ hpiece),
      glue_cons]

/-! ### Accesses, from piece to piece -/

/-- No two neighbouring pieces are an access. -/
def AccessFree (table : AbbreviationTable) (first : Text) : List Stretch → Prop
  | [] => True
  | s :: later => ¬ table.IsAccess first s ∧ table.AccessFree s.word later

theorem accessed_of_accessFree {first : Text} {later : List Stretch}
    (h : table.AccessFree first later) : table.accessed first later = glue first later := by
  induction later generalizing first with
  | nil => exact (List.append_nil first).symm
  | cons s later ih => rw [accessed, if_neg h.1, ih h.2, glue_cons]

theorem accessFree_append {first : Text} {front back : List Stretch} :
    table.AccessFree first (front ++ back) ↔
      table.AccessFree first front ∧ table.AccessFree (lastPiece first front) back := by
  induction front generalizing first with
  | nil => simp [AccessFree, lastPiece]
  | cons s front ih => rw [List.cons_append, AccessFree, AccessFree, lastPiece, ih, and_assoc]

theorem accessFree_of_no_names {first : Text} {later : List Stretch}
    (h : ∀ s ∈ later, s.word ∉ table.codes.keys) : table.AccessFree first later := by
  induction later generalizing first with
  | nil => trivial
  | cons s later ih =>
    have hword := h s List.mem_cons_self
    refine ⟨fun haccess => hword (table.covered _ haccess.2.2), ?_⟩
    exact ih fun other hother => h other (List.mem_cons_of_mem _ hother)

/-- A piece that is no owner can stand in front of any text. -/
theorem accessFree_of_not_owner {first other : Text} {later : List Stretch}
    (hfirst : first ∉ table.owners) (h : table.AccessFree other later) :
    table.AccessFree first later := by
  cases later with
  | nil => trivial
  | cons s later => exact ⟨fun haccess => hfirst haccess.1, h.2⟩

/-- What an access becomes: the pieces of its code between the owner and what follows. -/
theorem exists_accessFree (hcodes : table.CodesHoldNoNames) (hends : table.CodesEndInNoOwner)
    (first : Text) (later : List Stretch) :
    ∃ pieces, table.accessed first later = glue first pieces ∧ table.AccessFree first pieces := by
  induction later generalizing first with
  | nil => exact ⟨[], (List.append_nil first).symm, trivial⟩
  | cons s later ih =>
    by_cases haccess : table.IsAccess first s
    · obtain ⟨rest, hrest, hfree⟩ := ih []
      obtain ⟨start, inside, hstart, hcode⟩ := exists_glue (table.abbreviate s.word)
      have hpieces : wordPieces (table.abbreviate s.word) = start :: inside.map Stretch.word := by
        rw [← hcode, wordPieces_glue hstart]
      have hnames := hcodes _ (abbreviate_mem_values (table.covered _ haccess.2.2))
      rw [hpieces] at hnames
      have hlast : lastPiece start inside ∉ table.owners := by
        intro howner
        apply hends s.word haccess.2.2 _ howner
        rw [← hcode, getLast?_wordPieces_glue hstart]
      refine ⟨⟨s.mark, start, s.isWord_mark, hstart⟩ :: (inside ++ rest), ?_, ?_, ?_⟩
      · rw [accessed, if_pos haccess, hrest, ← hcode, glue_cons, glue_append]
        rfl
      · intro hagain
        exact hnames start List.mem_cons_self (table.covered _ hagain.2.2)
      · rw [accessFree_append]
        refine ⟨accessFree_of_no_names ?_, accessFree_of_not_owner hlast hfree⟩
        intro piece hpiece
        exact hnames piece.word (List.mem_cons_of_mem _ (List.mem_map_of_mem hpiece))
    · obtain ⟨rest, hrest, hfree⟩ := ih s.word
      refine ⟨s :: rest, ?_, haccess, hfree⟩
      rw [accessed, if_neg haccess, hrest, glue_cons]

/-! ### Nothing left to shorten -/

theorem shortenNames_of_no_names (hnames : table.NamesAreWords) {t : Text}
    (ht : ∀ piece ∈ wordPieces t, piece ∉ table.codes.keys) :
    (Rule.shortenNames table).apply t = .ok t := by
  obtain ⟨first, later, hfirst, rfl⟩ := exists_glue t
  rw [wordPieces_glue hfirst] at ht
  rw [apply_shortenNames hnames hfirst, shortened_of_no_names ht]

/-- An access has a property in it, whatever the owners are. -/
theorem shortenAccess_of_no_names (hnames : table.NamesAreWords)
    (hproperties : table.properties ≠ []) {t : Text}
    (ht : ∀ piece ∈ wordPieces t, piece ∉ table.codes.keys) :
    (Rule.shortenAccess table).apply t = .ok t := by
  apply Regex.Pattern.replaceAll_of_forall_none
  rintro nonEmpty front back rfl
  rw [Option.eq_none_iff_forall_ne_some]
  intro m hm
  obtain ⟨owner, property, rest, -, hproperty, -, hrest, rfl, -⟩ :=
    exists_property_of_matchAt hnames.properties hproperties hm
  have hname := table.covered property hproperty
  refine ht property ?_ hname
  rw [← List.append_assoc, wordPieces_append_cons isWord_point]
  exact List.mem_append_right _ (mem_wordPieces_append (hnames property hname).2 hrest)

/-- Names are replaced by codes that hold none, so none is left. -/
theorem exists_shortenNames (hnames : table.NamesAreWords) (hcodes : table.CodesHoldNoNames) (t : Text) :
    ∃ u, (Rule.shortenNames table).apply t = .ok u ∧
      ∀ piece ∈ wordPieces u, piece ∉ table.codes.keys := by
  obtain ⟨first, later, hfirst, rfl⟩ := exists_glue t
  refine ⟨table.shortened first later, apply_shortenNames hnames hfirst later, ?_⟩
  intro piece hpiece
  rw [wordPieces_shortened, List.mem_flatMap] at hpiece
  obtain ⟨word, hword, hpiece⟩ := hpiece
  rcases List.mem_cons.1 hword with rfl | hword
  · exact hcodes.not_mem_keys hfirst piece hpiece
  · obtain ⟨s, -, rfl⟩ := List.mem_map.1 hword
    exact hcodes.not_mem_keys s.isWord_word piece hpiece

theorem settles_shortenNames (h : table.Plain) (hcodes : table.CodesHoldNoNames) (t : Text) :
    Settles (Rule.shortenNames table).apply t := by
  obtain ⟨u, hu, hnames⟩ := exists_shortenNames h.names hcodes t
  exact ⟨u, hu, shortenNames_of_no_names h.names hnames⟩

theorem settles_shortenAccess (h : table.Plain) (hcodes : table.CodesHoldNoNames)
    (hends : table.CodesEndInNoOwner) (t : Text) :
    Settles (Rule.shortenAccess table).apply t := by
  obtain ⟨first, later, hfirst, rfl⟩ := exists_glue t
  obtain ⟨pieces, hpieces, hfree⟩ := exists_accessFree hcodes hends first later
  refine ⟨glue first pieces, ?_, ?_⟩
  · rw [apply_shortenAccess h.wordAccess hfirst, hpieces]
  · rw [apply_shortenAccess h.wordAccess hfirst, accessed_of_accessFree hfree]

/-- Once the names are gone there are no accesses either. -/
theorem settles_shortening (h : table.Plain) (hcodes : table.CodesHoldNoNames) (t : Text) :
    Settles (Rule.applyAll (Rule.shortening table)) t := by
  obtain ⟨first, later, hfirst, rfl⟩ := exists_glue t
  have haccess := apply_shortenAccess h.wordAccess hfirst later
  obtain ⟨u, hu, hnames⟩ := exists_shortenNames h.names hcodes (table.accessed first later)
  refine ⟨u, ?_, ?_⟩
  · simp only [Rule.shortening, Rule.applyAll, haccess, hu]
  · simp only [Rule.shortening, Rule.applyAll, shortenAccess_of_no_names h.names h.properties_ne_nil
        hnames,
      shortenNames_of_no_names h.names hnames]

/-! ### Why both conditions are needed -/

theorem eq_singleton_of_flatMap_eq_self {α : Type} {f : α → List α} {l : List α}
    (hne : ∀ x, f x ≠ []) (h : l.flatMap f = l) : ∀ x ∈ l, f x = [x] := by
  have hlength : ∀ l : List α, l.length ≤ (l.flatMap f).length := by
    intro l
    induction l with
    | nil => exact Nat.le_refl 0
    | cons x l ih =>
      have hx : 0 < (f x).length := List.length_pos_iff.2 (hne x)
      rw [List.flatMap_cons, List.length_append, List.length_cons]
      omega
  induction l with
  | nil => simp
  | cons x l ih =>
    rw [List.flatMap_cons] at h
    cases hx : f x with
    | nil => exact absurd hx (hne x)
    | cons y more =>
      rw [hx, List.cons_append] at h
      obtain ⟨rfl, hrest⟩ := List.cons.inj h
      -- what one member gives beyond itself would be too much for the rest
      have hmore : more = [] := by
        have hsum := congrArg List.length hrest
        have hle := hlength l
        rw [List.length_append] at hsum
        exact List.length_eq_zero_iff.1 (by omega)
      subst hmore
      intro z hz
      rcases List.mem_cons.1 hz with rfl | hz
      · exact hx
      · exact ih hrest z hz

theorem no_names_of_shortenNames (hnames : table.NamesAreWords) {t : Text}
    (ht : (Rule.shortenNames table).apply t = .ok t) :
    ∀ piece ∈ wordPieces t, piece ∉ table.codes.keys := by
  obtain ⟨first, later, hfirst, rfl⟩ := exists_glue t
  rw [apply_shortenNames hnames hfirst, Except.ok.injEq] at ht
  have hpieces := congrArg wordPieces ht
  rw [wordPieces_shortened, wordPieces_glue hfirst] at hpieces
  intro piece hpiece
  rw [wordPieces_glue hfirst] at hpiece
  have hself := eq_singleton_of_flatMap_eq_self
    (fun word => wordPieces_ne_nil (table.abbreviate word)) hpieces piece hpiece
  exact not_mem_keys_of_abbreviate_eq (eq_of_wordPieces_eq_singleton hself)

theorem codesHoldNoNames_of_settles (h : table.Plain)
    (hsettles : ∀ t, Settles (Rule.shortenNames table).apply t) : table.CodesHoldNoNames := by
  intro code hcode
  obtain ⟨name, hname, rfl⟩ := exists_name_of_code hcode
  have honce : (Rule.shortenNames table).apply (glue name []) = .ok (table.abbreviate name) := by
    rw [apply_shortenNames h.names (h.names name hname).2, shortened_nil]
  exact no_names_of_shortenNames h.names ((hsettles (glue name [])).again honce)

/-- What follows an access does not reach into the code of its property. -/
theorem exists_wordPieces_append (code : Text) (later : List Stretch) :
    ∃ more, wordPieces (code ++ table.accessed [] later) = wordPieces code ++ more := by
  cases later with
  | nil => exact ⟨[], by rw [accessed, List.append_nil, List.append_nil]⟩
  | cons s later =>
    obtain ⟨t, ht⟩ : ∃ t, table.accessed [] (s :: later) = s.mark :: t := by
      rw [accessed]
      split
      · exact ⟨_, rfl⟩
      · exact ⟨_, rfl⟩
    exact ⟨wordPieces t, by rw [ht, wordPieces_append_cons s.isWord_mark]⟩

theorem accessFree_of_accessed (hcodes : table.CodesHoldNoNames) {first : Text}
    {later : List Stretch} (h : table.accessed first later = glue first later) :
    table.AccessFree first later := by
  induction later generalizing first with
  | nil => trivial
  | cons s later ih =>
    by_cases haccess : table.IsAccess first s
    · have hname := table.covered s.word haccess.2.2
      rw [accessed, if_pos haccess, glue_cons] at h
      have hrest := congrArg wordPieces (List.cons.inj (List.append_cancel_left h)).2
      obtain ⟨more, hmore⟩ := exists_wordPieces_append (table.abbreviate s.word) later
      have hcode := hcodes _ (abbreviate_mem_values hname)
      rw [hmore, wordPieces_glue s.isWord_word] at hrest
      cases hpieces : wordPieces (table.abbreviate s.word) with
      | nil => exact absurd hpieces (wordPieces_ne_nil _)
      | cons piece pieces =>
        rw [hpieces] at hrest hcode
        have hpiece : piece ∉ table.codes.keys := hcode piece List.mem_cons_self
        rw [(List.cons.inj hrest).1] at hpiece
        exact absurd hname hpiece
    · rw [accessed, if_neg haccess, glue_cons] at h
      exact ⟨haccess, ih (List.cons.inj (List.append_cancel_left h)).2⟩

theorem codesEndInNoOwner_of_settles (h : table.Plain) (hcodes : table.CodesHoldNoNames)
    (hsettles : ∀ t, Settles (Rule.shortenAccess table).apply t) : table.CodesEndInNoOwner := by
  intro property hproperty owner howner hlast
  obtain ⟨point, hmark, rfl⟩ : ∃ s : Stretch, s.mark = '.' ∧ s.word = property :=
    ⟨⟨'.', property, isWord_point, (h.names.properties property hproperty).2⟩, rfl, rfl⟩
  obtain ⟨start, inside, hstart, hcode⟩ := exists_glue (table.abbreviate point.word)
  have hword := (h.owners owner howner).2
  have haccess : table.IsAccess owner point := ⟨howner, hmark, hproperty⟩
  have hpassed : ¬ table.IsAccess [] point := fun he => h.wordAccess.not_mem_owners he.1
  -- the code is put between the owner and a second point and property
  have honce : (Rule.shortenAccess table).apply (glue owner [point, point]) =
      .ok (glue owner (⟨point.mark, start, point.isWord_mark, hstart⟩ :: (inside ++ [point]))) := by
    rw [apply_shortenAccess h.wordAccess hword, accessed, if_pos haccess, accessed, if_neg hpassed, accessed,
      ← hcode, glue_cons, glue_append, List.flatMap_singleton]
    rfl
  have hagain := (hsettles (glue owner [point, point])).again honce
  rw [apply_shortenAccess h.wordAccess hword, Except.ok.injEq] at hagain
  have hfree := accessFree_of_accessed hcodes hagain
  have hbehind := (accessFree_append.1 hfree.2).2
  rw [← hcode, getLast?_wordPieces_glue hstart] at hlast
  apply hbehind.1
  rw [Option.some.inj hlast]
  exact haccess

/-- For a table of words, shortening twice comes to shortening once exactly if no code has a name
among its pieces and no code of a property ends in an owner. -/
theorem shortening_settles_iff (h : table.Plain) :
    (∀ t, Settles (Rule.shortenNames table).apply t ∧ Settles (Rule.shortenAccess table).apply t ∧
        Settles (Rule.applyAll (Rule.shortening table)) t) ↔
      table.CodesHoldNoNames ∧ table.CodesEndInNoOwner := by
  constructor
  · intro hall
    have hcodes := codesHoldNoNames_of_settles h fun t => (hall t).1
    exact ⟨hcodes, codesEndInNoOwner_of_settles h hcodes fun t => (hall t).2.1⟩
  · rintro ⟨hcodes, hends⟩ t
    exact ⟨settles_shortenNames h hcodes t, settles_shortenAccess h hcodes hends t,
      settles_shortening h hcodes t⟩

theorem shortening_settles_standard :
    standard.Plain ∧ standard.CodesHoldNoNames ∧ standard.CodesEndInNoOwner ∧
      ∀ t, Settles (Rule.shortenNames standard).apply t ∧
        Settles (Rule.shortenAccess standard).apply t ∧
        Settles (Rule.applyAll (Rule.shortening standard)) t := by
  have howners : ∀ owner ∈ standard.owners, owner ≠ [] ∧ owner.all isWord = true := by
    decide +kernel
  have hwords : ∀ code ∈ standard.codes.values, code.all isWord = true := by decide +kernel
  have hplain : standard.Plain := by
    refine ⟨by decide +kernel, ?_, by decide +kernel, by decide +kernel⟩
    intro owner howner
    obtain ⟨hne, hall⟩ := howners owner howner
    exact ⟨hne, List.all_eq_true.1 hall⟩
  have hcodes := codesHoldNoNames_of_words fun code hcode => List.all_eq_true.1 (hwords code hcode)
  have hends := codesEndInNoOwner_of_words
    (fun code hcode => List.all_eq_true.1 (hwords code hcode)) (by decide +kernel)
  exact ⟨hplain, hcodes, hends, (shortening_settles_iff hplain).2 ⟨hcodes, hends⟩⟩

/-- A code with its own name behind a point in it. -/
def dottedTable : AbbreviationTable where
  codes := .ofList [("a".toList, "b.a".toList)]
  owners := defaultOwners
  properties := ["a".toList]
  nonempty := by decide
  disjoint := by decide
  covered := by decide

/-- A code that is an owner. -/
def ownedTable : AbbreviationTable where
  codes := .ofList [("b".toList, "x".toList)]
  owners := ["a".toList, "x".toList]
  properties := ["b".toList]
  nonempty := by decide
  disjoint := by decide
  covered := by decide

/-- That no code is a name is not enough. -/
theorem not_settles_dotted_owned :
    ¬ (∀ table : AbbreviationTable, table.properties ≠ [] → ∀ t,
        Settles (Rule.shortenNames table).apply t) ∧
      ¬ (∀ table : AbbreviationTable, table.properties ≠ [] → ∀ t,
        Settles (Rule.shortenAccess table).apply t) ∧
      ¬ ∀ table : AbbreviationTable, table.properties ≠ [] → ∀ t,
        Settles (Rule.applyAll (Rule.shortening table)) t := by
  have hnames : (Rule.shortenNames dottedTable).apply "a".toList = .ok "b.a".toList := by
    decide +kernel
  have hnames' : (Rule.shortenNames dottedTable).apply "b.a".toList = .ok "b.b.a".toList := by
    decide +kernel
  have haccess : (Rule.shortenAccess ownedTable).apply "a.b.b".toList = .ok "a.x.b".toList := by
    decide +kernel
  have haccess' : (Rule.shortenAccess ownedTable).apply "a.x.b".toList = .ok "a.x.x".toList := by
    decide +kernel
  have hall : Rule.applyAll (Rule.shortening dottedTable) "a".toList = .ok "b.a".toList := by
    decide +kernel
  have hall' : Rule.applyAll (Rule.shortening dottedTable) "b.a".toList = .ok "b.b.a".toList := by
    decide +kernel
  refine ⟨?_, ?_, ?_⟩
  · intro h
    have hagain := (h dottedTable (by decide) "a".toList).again hnames
    rw [hnames', Except.ok.injEq] at hagain
    exact absurd hagain (by decide)
  · intro h
    have hagain := (h ownedTable (by decide) "a.b.b".toList).again haccess
    rw [haccess', Except.ok.injEq] at hagain
    exact absurd hagain (by decide)
  · intro h
    have hagain := (h dottedTable (by decide) "a".toList).again hall
    rw [hall', Except.ok.injEq] at hagain
    exact absurd hagain (by decide)

end GrammarKit.AbbreviationTable
