import GrammarKit.Abbreviation.Standard
import GrammarKit.Proofs.Replacing
import GrammarKit.Proofs.WordRuns
import GrammarKit.Substitution.Rule

/-!
# Shortening is whole-word replacement

Where names are words, the pattern of a table fits at a place only if a whole word run starts there
that is one of the names, whatever the order in which names are tried. So replacing all its matches
is the same as looking up every word run of the text.
-/

namespace GrammarKit.AbbreviationTable

open Regex Text

variable (table : AbbreviationTable)

/-- The match of a name that stands between two parts of a text. -/
def nameMatch (front name back : Text) : Match :=
  ⟨.between front (name ++ back), .between (front ++ name) back, [(1, name)]⟩

/-- The match of a name at a place, if the name stands there and ends at a word boundary. -/
def nameAt (front back name : Text) : Option Match :=
  if name <+: back ∧ isBoundary (front ++ name) (back.drop name.length) then
    some (nameMatch front name (back.drop name.length))
  else none

theorem keys_ne_nil : table.codes.keys ≠ [] := by
  intro h
  exact table.nonempty (List.map_eq_nil_iff.1 h)

theorem mem_inTryingOrder {name : Text} {names : List Text} :
    name ∈ inTryingOrder names ↔ name ∈ names := (sortBy_perm longerFirst names).mem_iff

theorem findSome_congr {α β : Type} {f g : α → Option β} {l : List α} (h : ∀ x ∈ l, f x = g x) :
    l.findSome? f = l.findSome? g := by
  induction l with
  | nil => rfl
  | cons x l ih =>
    have hl := ih fun y hy => h y (List.mem_cons_of_mem _ hy)
    rw [List.findSome?_cons, List.findSome?_cons, h x List.mem_cons_self, hl]

theorem findSome_of_unique {α β : Type} [DecidableEq α] {f : α → Option β} {l : List α} {a : α}
    (h : ∀ x ∈ l, x ≠ a → f x = none) : l.findSome? f = if a ∈ l then f a else none := by
  induction l with
  | nil => rfl
  | cons x l ih =>
    have hl := ih fun y hy => h y (List.mem_cons_of_mem _ hy)
    rw [List.findSome?_cons, hl]
    by_cases hx : x = a
    · rw [hx]
      cases f a <;> simp
    · rw [h x List.mem_cons_self hx]
      have hax : a ≠ x := fun he => hx he.symm
      simp [hax]

/-! ### The pattern at a place -/

/-- One of several words as a group, in front of a word boundary: the first that fits, in trying
order. -/
theorem run_wordGroup {α : Type} (next : State → Option α) (groups : List (Nat × Text))
    {words : List Text} (number : Nat) (hne : words ≠ []) (front back : Text) :
    (Pattern.inOrder [.group number (alternation words), .anchor .wordBoundary]).run
        ⟨.between front back, groups⟩ next =
      (inTryingOrder words).findSome? fun word =>
        if word <+: back ∧ isBoundary (front ++ word) (back.drop word.length) then
          next ⟨.between (front ++ word) (back.drop word.length), (number, word) :: groups⟩
        else none := by
  have hend : Pattern.inOrder [.anchor .wordBoundary] = .anchor .wordBoundary := rfl
  rw [run_inOrder_cons, Pattern.run, run_alternation _ _ hne, hend]
  apply findSome_congr
  intro word _
  by_cases hpre : word <+: back
  · obtain ⟨rest, rfl⟩ := hpre
    rw [if_pos (List.prefix_append word rest), List.drop_left, Cursor.upTo_between,
      run_wordBoundary]
    simp
  · rw [if_neg hpre, if_neg fun h => hpre h.1]

theorem matchAt_names (hnames : ∀ name ∈ table.codes.keys, name ≠ []) (nonEmpty : Bool)
    (front back : Text) :
    table.namesRegex.pattern.matchAt nonEmpty (.between front back) =
      if isBoundary front back then
        (inTryingOrder table.codes.keys).findSome? (nameAt front back)
      else none := by
  unfold Pattern.matchAt namesRegex
  rw [run_inOrder_cons, run_wordBoundary, run_wordGroup _ _ 1 table.keys_ne_nil]
  congr 1
  apply findSome_congr
  intro name hname
  have hne : name ≠ [] := hnames name (mem_inTryingOrder.1 hname)
  rw [nameAt]
  by_cases hfits : name <+: back ∧ isBoundary (front ++ name) (back.drop name.length)
  · rw [if_pos hfits, if_pos hfits]
    obtain ⟨⟨rest, rfl⟩, -⟩ := hfits
    simp [nameMatch, hne]
  · rw [if_neg hfits, if_neg hfits]

/-- Every name of the table is a word. -/
def NamesAreWords : Prop := ∀ name ∈ table.codes.keys, name ≠ [] ∧ ∀ c ∈ name, isWord c = true

instance : Decidable table.NamesAreWords :=
  letI (name : Text) : Decidable (∀ c ∈ name, isWord c = true) := List.decidableBAll _ name
  inferInstanceAs (Decidable (∀ name ∈ table.codes.keys, name ≠ [] ∧ ∀ c ∈ name, isWord c = true))

theorem nameAt_self {front run rest : Text} (hne : run ≠ []) (hrun : ∀ c ∈ run, isWord c = true)
    (hrest : rest.head?.any isWord = false) :
    nameAt front (run ++ rest) run = some (nameMatch front run rest) := by
  have hbound : isBoundary (front ++ run) rest = true := by
    rw [isBoundary, any_getLast hne hrun, hrest]
    rfl
  rw [nameAt, List.drop_left, if_pos ⟨List.prefix_append run rest, hbound⟩]

theorem nameAt_of_ne {front run rest name : Text} (hname : name ≠ [])
    (hword : ∀ c ∈ name, isWord c = true) (hrun : ∀ c ∈ run, isWord c = true)
    (hrest : rest.head?.any isWord = false) (hne : name ≠ run) :
    nameAt front (run ++ rest) name = none := by
  rw [nameAt, if_neg]
  rintro ⟨hpre, hbound⟩
  rcases List.prefix_or_prefix_of_prefix hpre (List.prefix_append run rest) with hin | hin
  -- a name that ends inside of the run is followed by a word character
  · obtain ⟨more, rfl⟩ := hin
    have hmore : more ≠ [] := by
      rintro rfl
      exact hne (List.append_nil name).symm
    have hmorew : ∀ c ∈ more, isWord c = true := fun c hc => hrun c (List.mem_append_right _ hc)
    rw [List.append_assoc, List.drop_left, isBoundary, any_getLast hname hword,
      any_head hmore hmorew] at hbound
    exact absurd hbound (by decide)
  -- a name that goes beyond the run has the character behind the run in it
  · obtain ⟨more, rfl⟩ := hin
    have hmore : more ≠ [] := by
      rintro rfl
      exact hne (List.append_nil run)
    have hmorew : ∀ c ∈ more, isWord c = true := fun c hc => hword c (List.mem_append_right _ hc)
    obtain ⟨after, hafter⟩ := (List.prefix_append_right_inj run).1 hpre
    rw [← hafter, any_head hmore hmorew] at hrest
    cases hrest

theorem matchAt_run (hnames : table.NamesAreWords) (nonEmpty : Bool) {front run rest : Text}
    (hfront : front.getLast?.any isWord = false) (hne : run ≠ [])
    (hrun : ∀ c ∈ run, isWord c = true) (hrest : rest.head?.any isWord = false) :
    table.namesRegex.pattern.matchAt nonEmpty (.between front (run ++ rest)) =
      if run ∈ table.codes.keys then some (nameMatch front run rest) else none := by
  have hbound : isBoundary front (run ++ rest) = true := by
    rw [isBoundary, hfront, any_head hne hrun]
    rfl
  have hother : ∀ name ∈ inTryingOrder table.codes.keys, name ≠ run →
      nameAt front (run ++ rest) name = none := by
    intro name hname hdiff
    obtain ⟨hnil, hword⟩ := hnames name (mem_inTryingOrder.1 hname)
    exact nameAt_of_ne hnil hword hrun hrest hdiff
  rw [matchAt_names table (fun name hname => (hnames name hname).1), if_pos hbound,
    findSome_of_unique hother, nameAt_self hne hrun hrest]
  simp only [mem_inTryingOrder]

theorem matchAt_inside (hnames : table.NamesAreWords) (nonEmpty : Bool) {front back : Text}
    (hback : back.head?.any isWord = false ∨ front.getLast?.any isWord = true) :
    table.namesRegex.pattern.matchAt nonEmpty (.between front back) = none := by
  rw [matchAt_names table (fun name hname => (hnames name hname).1)]
  split
  · next hbound =>
    -- the place is at the end of a word, so no name starts there
    have hhead : back.head?.any isWord = false := by
      rcases hback with hback | hfront
      · exact hback
      · simpa [isBoundary, hfront] using hbound
    rw [List.findSome?_eq_none_iff]
    intro name hname
    obtain ⟨hnil, hword⟩ := hnames name (mem_inTryingOrder.1 hname)
    rw [nameAt, if_neg]
    rintro ⟨⟨after, rfl⟩, -⟩
    rw [any_head hnil hword] at hhead
    cases hhead
  · rfl

/-! ### From run to run -/

/-- What stands in the shortened text for a run: the code of a name, and any other run itself. -/
def shortenedRun (run : Text) : Text := if run.any isWord then table.abbreviate run else run

theorem shortenedRun_of_word {run : Text} (hne : run ≠ []) (hrun : ∀ c ∈ run, isWord c = true) :
    table.shortenedRun run = table.abbreviate run := by
  have hany : run.any isWord = true := by
    rw [List.any_eq_true]
    exact ⟨run.head hne, List.head_mem hne, hrun _ (List.head_mem hne)⟩
  rw [shortenedRun, if_pos hany]

theorem shortenedRun_of_not_word {run : Text} (hrun : ∀ c ∈ run, isWord c = false) :
    table.shortenedRun run = run := by
  have hany : run.any isWord = false := List.any_eq_false.2 fun c hc => by simp [hrun c hc]
  rw [shortenedRun, hany]
  rfl

theorem abbreviate_of_not_mem {name : Text} (h : name ∉ table.codes.keys) :
    table.abbreviate name = name := by
  rw [OrderedMap.mem_keys_iff, Option.not_isSome_iff_eq_none] at h
  rw [abbreviate, h, Option.getD_none]

theorem code_of_mem {name : Text} (h : name ∈ table.codes.keys) :
    table.code name = .ok (table.abbreviate name) := by
  obtain ⟨short, hshort⟩ := Option.isSome_iff_exists.1 ((OrderedMap.mem_keys_iff _ _).1 h)
  rw [AbbreviationTable.code, abbreviate, hshort]
  rfl

/-- The text behind `front` when `kept` has been passed without a match and the search goes on in
front of `back`. -/
def shortenedFrom (n : Nat) (nonEmpty : Bool) (front kept back : Text) :
    Except SubstitutionError Text :=
  Pattern.stitch (fun m => table.code (m.taken 1)) (.between front (kept ++ back))
    (table.namesRegex.pattern.matchesFrom n nonEmpty (.between (front ++ kept) back))

theorem shortenedFrom_nil (hnames : table.NamesAreWords) (n : Nat) (nonEmpty : Bool)
    (front kept : Text) : table.shortenedFrom (n + 1) nonEmpty front kept [] = .ok kept := by
  have hend : table.namesRegex.pattern.matchAt nonEmpty (.between (front ++ kept) []) = none :=
    table.matchAt_inside hnames nonEmpty (Or.inl rfl)
  exact Pattern.replacedFrom_end hend

theorem shortenedFrom_skip {n : Nat} {nonEmpty : Bool} {front kept run rest : Text} (hne : run ≠ [])
    (h : ∀ passed c ahead, run = passed ++ c :: ahead → ∀ nonEmpty,
      table.namesRegex.pattern.matchAt nonEmpty
        (.between (front ++ kept ++ passed) (c :: (ahead ++ rest))) = none) :
    table.shortenedFrom (n + 1) nonEmpty front kept (run ++ rest) =
      table.shortenedFrom (n + 1) false front (kept ++ run) rest :=
  Pattern.replacedFrom_skip hne h

theorem shortenedFrom_other_run (hnames : table.NamesAreWords) (n : Nat) (nonEmpty : Bool)
    {front kept run rest : Text} (hne : run ≠ []) (hrun : ∀ c ∈ run, isWord c = false) :
    table.shortenedFrom (n + 1) nonEmpty front kept (run ++ rest) =
      table.shortenedFrom (n + 1) false front (kept ++ run) rest := by
  apply table.shortenedFrom_skip hne
  intro passed c ahead he nonEmpty
  have hc : isWord c = false := hrun c (by simp [he])
  exact table.matchAt_inside hnames nonEmpty (Or.inl hc)

theorem shortenedFrom_unknown_word (hnames : table.NamesAreWords) (n : Nat) (nonEmpty : Bool)
    {front kept run rest : Text} (hfront : (front ++ kept).getLast?.any isWord = false)
    (hne : run ≠ []) (hrun : ∀ c ∈ run, isWord c = true) (hrest : rest.head?.any isWord = false)
    (hkey : run ∉ table.codes.keys) :
    table.shortenedFrom (n + 1) nonEmpty front kept (run ++ rest) =
      table.shortenedFrom (n + 1) false front (kept ++ run) rest := by
  apply table.shortenedFrom_skip hne
  intro passed c ahead he nonEmpty
  cases passed with
  | nil =>
    have hhere := table.matchAt_run hnames nonEmpty hfront hne hrun hrest
    rw [if_neg hkey, he] at hhere
    rw [List.append_nil]
    exact hhere
  | cons d passed =>
    have hpassed : ∀ e ∈ d :: passed, isWord e = true := by
      intro e hmem
      exact hrun e (by rw [he]; exact List.mem_append_left _ hmem)
    exact table.matchAt_inside hnames nonEmpty (Or.inr (any_getLast (by simp) hpassed _))

theorem shortenedFrom_name (hnames : table.NamesAreWords) {n : Nat} {nonEmpty : Bool}
    {front kept run rest result : Text} (hfront : (front ++ kept).getLast?.any isWord = false)
    (hne : run ≠ []) (hrun : ∀ c ∈ run, isWord c = true) (hrest : rest.head?.any isWord = false)
    (hkey : run ∈ table.codes.keys)
    (hlater : ∀ nonEmpty, table.shortenedFrom n nonEmpty (front ++ kept ++ run) [] rest =
      .ok result) :
    table.shortenedFrom (n + 1) nonEmpty front kept (run ++ rest) =
      .ok (kept ++ table.abbreviate run ++ result) := by
  have hmatch := table.matchAt_run hnames nonEmpty hfront hne hrun hrest
  rw [if_pos hkey] at hmatch
  have htaken : (nameMatch (front ++ kept) run rest).taken 1 = run := rfl
  have hcode := table.code_of_mem hkey
  apply Pattern.replacedFrom_match hmatch rfl rfl
  · rw [htaken, hcode]
  · exact hlater

theorem shortenedFrom_runs (hnames : table.NamesAreWords) {kind : Bool} {rs : List Text}
    (hrs : Alternating isWord kind rs) {n : Nat} (hn : rs.length < n) (nonEmpty : Bool)
    (front kept : Text) (hfront : kind = true → (front ++ kept).getLast?.any isWord = false) :
    table.shortenedFrom n nonEmpty front kept rs.flatten =
      .ok (kept ++ rs.flatMap table.shortenedRun) := by
  obtain ⟨n, rfl⟩ : ∃ m, n = m + 1 := ⟨n - 1, by omega⟩
  induction rs generalizing kind n nonEmpty front kept with
  | nil =>
    rw [List.flatten_nil, List.flatMap_nil, List.append_nil]
    exact table.shortenedFrom_nil hnames n nonEmpty front kept
  | cons run later ih =>
    obtain ⟨⟨hne, hrun⟩, hlater⟩ := hrs
    rw [List.length_cons] at hn
    -- what follows a run is a run of the other kind, so a word can only follow a run that is none
    have hnext : ∀ passed, (!kind) = true → (passed ++ run).getLast?.any isWord = false := by
      intro passed hkind
      rw [any_getLast hne hrun]
      simpa using hkind
    have hkept := ih hlater false front (kept ++ run)
      (by rw [← List.append_assoc]; exact hnext (front ++ kept)) n (by omega)
    rw [List.flatten_cons, List.flatMap_cons]
    cases kind with
    | false =>
      rw [table.shortenedFrom_other_run hnames n nonEmpty hne hrun, hkept,
        table.shortenedRun_of_not_word hrun, List.append_assoc]
    | true =>
      have hend : later.flatten.head?.any isWord = false := hlater.head_flatten
      rw [table.shortenedRun_of_word hne hrun]
      by_cases hkey : run ∈ table.codes.keys
      · have hbehind : ∀ nonEmpty, table.shortenedFrom n nonEmpty (front ++ kept ++ run) []
            later.flatten = .ok (later.flatMap table.shortenedRun) := by
          intro ne
          obtain ⟨m, rfl⟩ : ∃ m, n = m + 1 := ⟨n - 1, by omega⟩
          have hrest := ih hlater ne (front ++ kept ++ run) []
            (by rw [List.append_nil]; exact hnext (front ++ kept)) m (by omega)
          rw [List.nil_append] at hrest
          exact hrest
        rw [table.shortenedFrom_name hnames (hfront rfl) hne hrun hend hkey hbehind,
          List.append_assoc]
      · rw [table.shortenedFrom_unknown_word hnames n nonEmpty (hfront rfl) hne hrun hend hkey,
          hkept, table.abbreviate_of_not_mem hkey, List.append_assoc]

/-- A text falls into runs of word characters and runs of others, one kind after the other, and the
shortened text is made of the same runs, except that a word run that is a name has become its
code. -/
theorem shortenNames_runs (hnames : table.NamesAreWords) (t : Text) :
    (∃ kind, Alternating isWord kind (wordRuns t)) ∧ (wordRuns t).flatten = t ∧
      (Rule.shortenNames table).apply t = .ok ((wordRuns t).flatMap table.shortenedRun) := by
  obtain ⟨kind, hrs⟩ := alternating_runs isWord t
  have hflat : (wordRuns t).flatten = t := runs_flatten isWord t
  have hbound : (wordRuns t).length < 2 * t.length + 2 := by
    have hle := hrs.length_le
    rw [show (runs isWord t).flatten = t from hflat] at hle
    rw [wordRuns]
    omega
  have hall := table.shortenedFrom_runs hnames hrs hbound false [] [] (fun _ => rfl)
  rw [show (runs isWord t).flatten = t from hflat, List.nil_append] at hall
  exact ⟨⟨kind, hrs⟩, hflat, hall⟩

theorem shortenNames_runs_standard :
    standard.NamesAreWords ∧
      (Rule.shortenNames standard).apply "beginKeywords:begin,xbegin é_begin beginRe.end\n".toList =
        .ok "bK:b,xbegin é_begin bR.e\n".toList := by
  have hnames : standard.NamesAreWords := by decide +kernel
  have hall := shortenNames_runs standard hnames
    "beginKeywords:begin,xbegin é_begin beginRe.end\n".toList
  refine ⟨hnames, hall.2.2.trans (congrArg Except.ok ?_)⟩
  decide +kernel

end GrammarKit.AbbreviationTable
