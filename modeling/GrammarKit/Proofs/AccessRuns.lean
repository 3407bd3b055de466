import GrammarKit.Proofs.AccessShortening

/-!
# Accesses from run to run

Where no owner is a property, a property that is replaced owns nothing anyway. So whether a word is
replaced can be read off the two runs before it, and every other run of the text stays as it is.
-/

namespace GrammarKit.AbbreviationTable

open Text

variable {table : AbbreviationTable}

/-- A run is a property, and of the runs before it, last one first, the last is a single point and
the one before that an owner. -/
def IsOwned (table : AbbreviationTable) (before : List Text) (run : Text) : Prop :=
  before.head? = some ['.'] ∧ (∃ owner ∈ before[1]?, owner ∈ table.owners) ∧
    run ∈ table.properties

instance (before : List Text) (run : Text) : Decidable (table.IsOwned before run) :=
  inferInstanceAs (Decidable (_ ∧ _ ∧ _))

/-- What stands in the shortened text for a run with other runs before it, last one first. -/
def accessedRun (table : AbbreviationTable) (before : List Text) (run : Text) : Text :=
  if table.IsOwned before run then table.abbreviate run else run

/-- What stands in the shortened text for several runs, with others before them. -/
def accessedRuns (table : AbbreviationTable) : List Text → List Text → List Text
  | _, [] => []
  | before, run :: later => table.accessedRun before run :: table.accessedRuns (run :: before) later

/-! ### From piece to piece -/

/-- What stands in the shortened text for what follows a piece. -/
def accessedBehind (table : AbbreviationTable) (first : Text) : List Stretch → Text
  | [] => []
  | s :: later =>
    s.mark :: ((if table.IsAccess first s then table.abbreviate s.word else s.word) ++
      table.accessedBehind s.word later)

/-- Of what stands before, it only counts whether it is an owner. -/
theorem accessedBehind_of_not_owner {first other : Text} (hfirst : first ∉ table.owners)
    (hother : other ∉ table.owners) (later : List Stretch) :
    table.accessedBehind first later = table.accessedBehind other later := by
  cases later with
  | nil => rfl
  | cons s later =>
    rw [accessedBehind, accessedBehind, if_neg fun haccess => hfirst haccess.1,
      if_neg fun haccess => hother haccess.1]

theorem accessed_eq_append (h : table.WordAccess)
    (hapart : ∀ owner ∈ table.owners, owner ∉ table.properties) (first : Text)
    (later : List Stretch) :
    table.accessed first later = first ++ table.accessedBehind first later := by
  induction later generalizing first with
  | nil => exact (List.append_nil first).symm
  | cons s later ih =>
    rw [accessed, accessedBehind]
    split
    · next haccess =>
      have hword : s.word ∉ table.owners := fun howner => hapart _ howner haccess.2.2
      rw [ih, List.nil_append, accessedBehind_of_not_owner h.not_mem_owners hword]
    · rw [ih]

/-! ### Runs of marks -/

/-- A run of marks and the word behind it are stretches, and only if the run is a single point can
the word be replaced. -/
theorem exists_stretches_of_marks (h : table.WordAccess) {marks word : Text} (hne : marks ≠ [])
    (hmarks : ∀ c ∈ marks, isWord c = false) (hword : ∀ c ∈ word, isWord c = true)
    (later : List Stretch) :
    ∃ ss : List Stretch,
      ss.flatMap Stretch.text = marks ++ (word ++ later.flatMap Stretch.text) ∧
      ∀ first, table.accessedBehind first ss =
        marks ++ ((if (marks = ['.'] ∧ first ∈ table.owners) ∧ word ∈ table.properties then
          table.abbreviate word else word) ++ table.accessedBehind word later) := by
  induction marks with
  | nil => exact absurd rfl hne
  | cons c marks ih =>
    have hc : isWord c = false := hmarks c List.mem_cons_self
    cases marks with
    | nil =>
      refine ⟨⟨c, word, hc, hword⟩ :: later, rfl, fun first => ?_⟩
      have haccess : table.IsAccess first ⟨c, word, hc, hword⟩ ↔
          ([c] = ['.'] ∧ first ∈ table.owners) ∧ word ∈ table.properties := by
        rw [IsAccess, List.singleton_inj, and_assoc, and_left_comm]
      rw [accessedBehind]
      simp only [haccess, List.singleton_append]
    | cons d marks =>
      obtain ⟨ss, htext, hbehind⟩ :=
        ih (List.cons_ne_nil d marks) fun e he => hmarks e (List.mem_cons_of_mem c he)
      refine ⟨⟨c, [], hc, by simp⟩ :: ss, ?_, fun first => ?_⟩
      · rw [List.flatMap_cons, htext]
        rfl
      · have hnone : ¬ table.IsAccess first ⟨c, [], hc, by simp⟩ :=
          fun haccess => h.not_mem_properties haccess.2.2
        have hlonger : ¬ ((c :: d :: marks = ['.'] ∧ first ∈ table.owners) ∧
            word ∈ table.properties) := fun hall => by cases hall.1.1
        have hnil : ¬ ((d :: marks = ['.'] ∧ [] ∈ table.owners) ∧ word ∈ table.properties) :=
          fun hall => h.not_mem_owners hall.1.2
        rw [accessedBehind, if_neg hnone, hbehind, if_neg hnil, if_neg hlonger]
        rfl

theorem isOwned_cons (h : table.WordAccess) (mark : Text) (before : List Text) (run : Text) :
    table.IsOwned (mark :: before) run ↔
      (mark = ['.'] ∧ before.headD [] ∈ table.owners) ∧ run ∈ table.properties := by
  cases before with
  | nil => simp [IsOwned, h.not_mem_owners]
  | cons owner before => simp [IsOwned, and_assoc]

theorem accessedRun_of_marks (h : table.WordAccess) {marks : Text} (hne : marks ≠ [])
    (hmarks : ∀ c ∈ marks, isWord c = false) (before : List Text) :
    table.accessedRun before marks = marks := by
  apply if_neg
  rintro ⟨-, -, hproperty⟩
  have hword := (h.properties marks hproperty).2 _ (List.head_mem hne)
  rw [hmarks _ (List.head_mem hne)] at hword
  cases hword

/-! ### From run to run -/

/-- Runs that begin with marks are stretches. With them, what stands for the runs depends on the run
before them only, which is no owner at the start of the text. -/
theorem exists_stretches_of_runs (h : table.WordAccess) :
    ∀ rs : List Text, Alternating isWord false rs →
      ∃ ss : List Stretch, ss.flatMap Stretch.text = rs.flatten ∧
        ∀ before, (table.accessedRuns before rs).flatten =
          table.accessedBehind (before.headD []) ss
  | [], _ => ⟨[], rfl, fun _ => rfl⟩
  | [marks], hrs => by
    obtain ⟨⟨hne, hmarks⟩, -⟩ := hrs
    have hempty : ∀ c ∈ ([] : Text), isWord c = true := by simp
    obtain ⟨ss, htext, hbehind⟩ := exists_stretches_of_marks h hne hmarks hempty []
    refine ⟨ss, ?_, fun before => ?_⟩
    · rw [htext]
      rfl
    · rw [hbehind, if_neg fun hall => h.not_mem_properties hall.2, accessedRuns, accessedRuns,
        accessedRun_of_marks h hne hmarks]
      rfl
  | marks :: word :: rs, hrs => by
    obtain ⟨⟨hne, hmarks⟩, ⟨-, hword⟩, hlater⟩ := hrs
    obtain ⟨later, hlaterText, hlaterRuns⟩ := exists_stretches_of_runs h rs hlater
    obtain ⟨ss, htext, hbehind⟩ := exists_stretches_of_marks h hne hmarks hword later
    refine ⟨ss, ?_, fun before => ?_⟩
    · rw [htext, hlaterText, List.flatten_cons, List.flatten_cons]
    · have hrest := hlaterRuns (word :: marks :: before)
      rw [List.headD_cons] at hrest
      rw [hbehind, accessedRuns, accessedRuns, accessedRun_of_marks h hne hmarks,
        List.flatten_cons, List.flatten_cons, hrest, accessedRun]
      simp only [isOwned_cons h]

/-- The text is cut into runs of word characters and runs of others. Of these, the shortened text has
the code of each property that a single point and an owner stand before, and every other run as it
is. -/
theorem shortenAccess_runs (h : table.WordAccess)
    (hapart : ∀ owner ∈ table.owners, owner ∉ table.properties) (t : Text) :
    (∃ kind, Alternating isWord kind (wordRuns t)) ∧ (wordRuns t).flatten = t ∧
      (Rule.shortenAccess table).apply t = .ok (table.accessedRuns [] (wordRuns t)).flatten := by
  have hempty : ∀ c ∈ ([] : Text), isWord c = true := by simp
  obtain ⟨kind, hruns⟩ := alternating_runs isWord t
  have hflat : (wordRuns t).flatten = t := runs_flatten isWord t
  refine ⟨⟨kind, hruns⟩, hflat, ?_⟩
  cases hcut : wordRuns t with
  | nil =>
    rw [hcut] at hflat
    rw [← hflat]
    exact apply_shortenAccess h hempty []
  | cons run rs =>
    have hrun : Alternating isWord kind (run :: rs) := hcut ▸ hruns
    rw [hcut] at hflat
    cases kind with
    | false =>
      obtain ⟨ss, htext, hbehind⟩ := exists_stretches_of_runs h (run :: rs) hrun
      have hall := apply_shortenAccess h hempty ss
      have hglue : glue [] ss = t := by rw [← hflat, ← htext]; rfl
      rw [hglue, accessed_eq_append h hapart] at hall
      rw [hall, hbehind]
      rfl
    | true =>
      obtain ⟨⟨-, hword⟩, hlater⟩ := hrun
      obtain ⟨ss, htext, hbehind⟩ := exists_stretches_of_runs h rs hlater
      have hall := apply_shortenAccess h hword ss
      have hglue : glue run ss = t := by rw [← hflat, List.flatten_cons, ← htext]; rfl
      have hstart : ¬ table.IsOwned [] run := fun howned => by cases howned.1
      rw [hglue, accessed_eq_append h hapart] at hall
      rw [hall, accessedRuns, accessedRun, if_neg hstart, List.flatten_cons, hbehind,
        List.headD_cons]

/-- An owner that is a name, and a name that is no word. -/
def nodeTable : AbbreviationTable where
  codes := .ofList [("className".toList, "cN".toList), ("id".toList, "i".toList),
    ("block".toList, "b".toList), ("a-b".toList, "id.c".toList)]
  owners := ["block".toList, "node".toList]
  properties := ["className".toList, "id".toList]
  nonempty := by decide
  disjoint := by decide
  covered := by decide

theorem shortenAccess_runs_nodeTable :
    nodeTable.WordAccess ∧ (∀ owner ∈ nodeTable.owners, owner ∉ nodeTable.properties) ∧
      (Rule.shortenAccess nodeTable).apply
          "block.className.id myblock.id block..id node.ids node.id.className a-b block .id".toList =
        .ok "block.cN.id myblock.id block..id node.ids node.i.className a-b block .id".toList := by
  have howners : ∀ owner ∈ nodeTable.owners, owner ≠ [] ∧ owner.all isWord = true := by
    decide +kernel
  have hproperties : ∀ property ∈ nodeTable.properties,
      property ≠ [] ∧ property.all isWord = true := by decide +kernel
  have hwords : nodeTable.WordAccess :=
    ⟨fun owner howner => (howners owner howner).imp_right List.all_eq_true.1,
      fun property hproperty => (hproperties property hproperty).imp_right List.all_eq_true.1,
      by decide, by decide⟩
  have hapart : ∀ owner ∈ nodeTable.owners, owner ∉ nodeTable.properties := by decide
  have hall := shortenAccess_runs hwords hapart
    "block.className.id myblock.id block..id node.ids node.id.className a-b block .id".toList
  refine ⟨hwords, hapart, hall.2.2.trans (congrArg Except.ok ?_)⟩
  decide +kernel

end GrammarKit.AbbreviationTable
