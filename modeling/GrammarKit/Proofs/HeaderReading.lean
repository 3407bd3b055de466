import GrammarKit.Proofs.CommaLists
import GrammarKit.Proofs.HeaderRoundTrip

/-!
# What a header says

A text has a header if a comment starts it, white space set aside, and is closed. What is read
depends on the inside of that comment alone: every line of it that is not blank says one field, and
of the fields with one key the last one counts. A pattern that takes the comment and a pattern that
cuts lists at commas find the same header.
-/

namespace GrammarKit.Header

open Text Regex

/-! ### The comment -/

theorem leadingComment_eq_some_iff {t inside after : Text} :
    leadingComment? t = some (inside, after) ↔
      trimStart t = "/*".toList ++ inside ++ "*/".toList ++ after ∧ ¬ "*/".toList <:+: inside := by
  constructor
  · intro h
    exact ⟨append_of_leadingComment h, not_infix_of_leadingComment h⟩
  · rintro ⟨happend, hinside⟩
    rw [← leadingComment_trimStart, happend, List.append_assoc, List.append_assoc,
      leadingComment_opened]
    exact splitFirst_pair (by decide) hinside after

theorem leadingComment_eq_none_iff {t : Text} :
    leadingComment? t = none ↔
      ¬ ∃ inside after, trimStart t = "/*".toList ++ inside ++ "*/".toList ++ after := by
  constructor
  · rintro hnone ⟨inside, after, happend⟩
    have hclosed : "*/".toList <:+: inside ++ ("*/".toList ++ after) :=
      ⟨inside, after, List.append_assoc _ _ _⟩
    obtain ⟨front, behind, hsplit⟩ := exists_splitFirst_of_infix hclosed
    rw [← leadingComment_trimStart, happend, List.append_assoc, List.append_assoc,
      leadingComment_opened, hsplit] at hnone
    cases hnone
  · intro hno
    cases hcomment : leadingComment? t with
    | none => rfl
    | some parts => exact absurd ⟨parts.1, parts.2, append_of_leadingComment hcomment⟩ hno

theorem leadingComment_closed {inside : Text} (h : ¬ "*/".toList <:+: inside) :
    leadingComment? ("/*".toList ++ inside ++ "*/".toList) = some (inside, []) := by
  rw [List.append_assoc, leadingComment_opened]
  exact splitFirst_pair (by decide) h []

/-- The pattern for white space and a comment at the start of a text. -/
def commentRegex : Regex where
  source := "^\\s*/\\*(.*?)\\*/".toList
  pattern := .inOrder [
    .anchor .textStart,
    .many (.one (.ofClass .blank)),
    .one (.single '/'), .one (.single '*'),
    .group 1 (.repeated false 0 none (.one .anything)),
    .one (.single '*'), .one (.single '/')]
  groups := 1

theorem read_commentRegex_source :
    (Regex.read commentRegex.source { dotAll := true }).toOption = some commentRegex := by
  decide +kernel

section

variable {α : Type} {next : State → Option α} (groups : List (Nat × Text))

theorem run_inside (hfits : AlwaysFits next) (front back : Text) :
    (Pattern.inOrder [.group 1 (.repeated false 0 none (.one .anything)),
        .one (.single '*'), .one (.single '/')]).run ⟨.between front back, groups⟩ next =
      (splitFirst "*/".toList back).bind fun parts =>
        next ⟨.between (front ++ parts.1 ++ "*/".toList) parts.2, (1, parts.1) :: groups⟩ := by
  have hlazy : (Pattern.inOrder [.group 1 (.repeated false 0 none (.one .anything)),
        .one (.single '*'), .one (.single '/')]).run ⟨.between front back, groups⟩ next =
      Matcher.atMost (Pattern.one .anything).run false (back.length + 1) none
        ⟨.between front back, groups⟩ fun s => (Pattern.literal "*/".toList).run
          { s with groups := (1, (Cursor.between front back).upTo s.cursor) :: s.groups } next := rfl
  have hmark : "*/".toList ≠ [] := by simp
  rw [hlazy, atMost_anything_lazy_of_mark groups hmark (Nat.lt_succ_self _) (by simp)]
  · cases hsplit : splitFirst "*/".toList back with
    | none => rfl
    | some parts =>
      obtain ⟨inside, after⟩ := parts
      rw [Option.bind_some, Option.bind_some, run_literal_append]
      dsimp only
      rw [append_of_splitFirst hsplit, Cursor.upTo_between]
  · intro front back hno
    exact run_literal_of_not_prefix next _ hno front
  · intro inside after _
    rw [run_literal_append]
    exact hfits _ _ _

end

/-- The pattern takes what the reader takes for the comment, and its group what stands inside. -/
theorem matchAt_commentRegex (t : Text) :
    commentRegex.pattern.matchAt false (Cursor.start t) =
      (leadingComment? t).map fun parts =>
        ⟨Cursor.start t,
          .between (t.takeWhile isBlank ++ "/*".toList ++ parts.1 ++ "*/".toList) parts.2,
          [(1, parts.1)]⟩ := by
  have hblanks : commentRegex.pattern.matchAt false (Cursor.start t) =
      (Pattern.many (.one (.ofClass .blank))).run ⟨.between [] t, []⟩ fun s =>
        (Pattern.inOrder [.one (.single '/'), .one (.single '*'),
          .group 1 (.repeated false 0 none (.one .anything)),
          .one (.single '*'), .one (.single '/')]).run s fun s =>
            some (Match.mk (Cursor.start t) s.cursor s.groups) := rfl
  have hrest : t.dropWhile isBlank = trimStart t := rfl
  rw [hblanks, run_many_one_of_stop, covers_blank, hrest, run_opening, leadingComment_eq,
    List.nil_append]
  · split
    · rw [run_inside _ fun _ _ _ => rfl, Option.map_eq_bind]
      rfl
    · rfl
  · -- without a comment nothing fits behind the white space; then nothing fits behind less of it
    intro front c back hc
    have hopen : ¬ "/*".toList <+: c :: back := by
      intro h
      obtain ⟨hfirst, -⟩ := pair_prefix_iff.1 h
      rw [covers_blank, Option.some.inj hfirst] at hc
      exact absurd hc (by decide)
    rw [run_opening, if_neg hopen]

/-! ### Reading by patterns -/

/-- The field on a line, unless the line is blank, with its items as the pattern for commas cuts
them. -/
def fieldByPattern? (line : Text) : Option (Text × FieldValue) :=
  match trim line with
  | [] => none
  | trimmed =>
    let (key, value) := splitLine trimmed
    some (key, if isScalar key then .text value else .items (commaRegex.pattern.cut value))

/-- The header of a text, in the comment that the pattern for comments finds. -/
def readByPatterns? (t : Text) : Option Header :=
  (commentRegex.pattern.matchAt false (Cursor.start t)).map fun m =>
    OrderedMap.ofList ((lines ((m.group? 1).getD [])).filterMap fieldByPattern?)

theorem fieldByPattern_eq (line : Text) : fieldByPattern? line = fieldOf? line := by
  cases hline : trim line with
  | nil => rw [fieldByPattern?, fieldOf?, hline]
  | cons c rest =>
    rw [fieldByPattern?, fieldOf?, hline]
    dsimp only
    rw [fieldValue, cut_comma (trim_splitLine _)]

theorem readByPatterns_eq (t : Text) : readByPatterns? t = read? t := by
  rw [readByPatterns?, matchAt_commentRegex, Option.map_map, read?, funext fieldByPattern_eq]
  rfl

/-! ### What the lines say -/

/-- The lines of a text that are not blank, trimmed. -/
def filledLines (t : Text) : List Text := ((lines t).map trim).filter (!·.isEmpty)

/-- A line is divided at its first colon with a space behind it; without one, all of it is key. -/
def Divides (line key rest : Text) : Prop :=
  ¬ ": ".toList <:+: key ∧ (line = key ++ ": ".toList ++ rest ∨ line = key ∧ rest = [])

/-- The value that a key has from what comes behind it on its line: that text trimmed, or its pieces
between commas, each of them trimmed. -/
def ValueFrom (key rest : Text) : FieldValue → Prop
  | .text value => isScalar key = true ∧ value = trim rest
  | .items values => isScalar key = false ∧ ∃ pieces, pieces ≠ [] ∧ (∀ piece ∈ pieces, ',' ∉ piece) ∧
      join [','] pieces = trim rest ∧ values = pieces.map trim

/-- What a line says if it is not blank. -/
def Says (line : Text) (field : Text × FieldValue) : Prop :=
  ∃ rest, Divides line field.1 rest ∧ ValueFrom field.1 rest field.2

theorem exists_divides (line : Text) :
    ∃ rest, Divides line (splitLine line).1 rest ∧ (splitLine line).2 = trim rest := by
  unfold splitLine
  split
  · next key rest hsplit =>
    have hkey : ¬ ": ".toList <:+: key := not_infix_of_splitFirst (by simp) hsplit
    have hline := append_of_splitFirst hsplit
    rw [← List.append_assoc] at hline
    exact ⟨rest, ⟨hkey, Or.inl hline⟩, rfl⟩
  · next hsplit => exact ⟨[], ⟨not_infix_of_splitFirst_eq_none hsplit, Or.inr ⟨rfl, rfl⟩⟩, rfl⟩

theorem valueFrom_fieldValue (key rest : Text) :
    ValueFrom key rest (fieldValue key (trim rest)) := by
  unfold fieldValue
  split
  · next hkey => exact ⟨hkey, rfl⟩
  · next hkey =>
    refine ⟨Bool.eq_false_iff.2 hkey, splitOn ',' (trim rest), splitWhen_ne_nil _ _, ?_,
      join_splitOn ',' (trim rest), rfl⟩
    intro piece hpiece hcomma
    exact absurd rfl (of_decide_eq_false (eq_false_of_mem_splitWhen hpiece hcomma))

theorem Divides.splitLine_eq {line key rest : Text} (h : Divides line key rest) :
    splitLine line = (key, trim rest) := by
  obtain ⟨hkey, rfl | ⟨rfl, rfl⟩⟩ := h
  · have hfirst := splitFirst_pair (by decide : ':' ≠ ' ') hkey rest
    rw [List.append_assoc, splitLine]
    simp only [String.reduceToList, List.cons_append, List.nil_append, hfirst]
  · rw [splitLine]
    split
    · next front after hsplit =>
      refine absurd ⟨front, after, ?_⟩ hkey
      rw [append_of_splitFirst hsplit, List.append_assoc]
    · rfl

theorem ValueFrom.eq_fieldValue {key rest : Text} {value : FieldValue}
    (h : ValueFrom key rest value) : value = fieldValue key (trim rest) := by
  cases value with
  | text t =>
    obtain ⟨hkey, rfl⟩ := h
    rw [fieldValue, if_pos hkey]
  | items ts =>
    obtain ⟨hkey, pieces, hne, hcommas, hjoin, rfl⟩ := h
    obtain ⟨piece, pieces, rfl⟩ := List.exists_cons_of_ne_nil hne
    have hgap : ',' ∉ ([] : Text) := List.not_mem_nil
    rw [fieldValue, if_neg (by simp [hkey]), ← hjoin, splitOn_join hgap piece hcommas]
    simp

/-- A line that is not blank says exactly the field that the reader takes from it. -/
theorem says_iff_fieldOf {line : Text} (hline : trim line ≠ []) (field : Text × FieldValue) :
    Says (trim line) field ↔ fieldOf? line = some field := by
  rw [fieldOf_eq hline, Option.some.injEq]
  constructor
  · rintro ⟨rest, hdivides, hvalue⟩
    rw [hdivides.splitLine_eq, ← hvalue.eq_fieldValue]
  · rintro rfl
    obtain ⟨rest, hdivides, hvalue⟩ := exists_divides (trim line)
    refine ⟨rest, hdivides, ?_⟩
    rw [hvalue]
    exact valueFrom_fieldValue _ rest

theorem forall₂_says (ls : List Text) :
    List.Forall₂ Says ((ls.map trim).filter (!·.isEmpty)) (ls.filterMap fieldOf?) := by
  induction ls with
  | nil => exact .nil
  | cons line ls ih =>
    by_cases hline : trim line = []
    · have hnone : fieldOf? line = none := by
        simp [fieldOf?, hline]
      rw [List.filterMap_cons_none hnone, List.map_cons, List.filter_cons_of_neg (by simp [hline])]
      exact ih
    · have hsome := fieldOf_eq hline
      rw [List.filterMap_cons_some hsome, List.map_cons, List.filter_cons_of_pos (by simp [hline])]
      exact .cons ((says_iff_fieldOf hline _).2 hsome) ih

/-! ### Whole headers -/

theorem read_eq_none_iff {t : Text} : read? t = none ↔ leadingComment? t = none :=
  Option.map_eq_none_iff

theorem read_of_leadingComment {t inside after : Text}
    (h : leadingComment? t = some (inside, after)) :
    read? t = some (.ofList ((lines inside).filterMap fieldOf?)) := by
  rw [read?, h, Option.map_some]

/-- A text without a closed comment at its start has no header. Otherwise its header depends on what
is inside of the comment: each line that is not blank says a field, the keys come in the order of
their first fields, and the last field of a key gives its value. -/
theorem read_leadingComment (t : Text) :
    readByPatterns? t = read? t ∧
      ((read? t = none ∧
          ¬ ∃ inside after, trimStart t = "/*".toList ++ inside ++ "*/".toList ++ after) ∨
        ∃ inside after h fields,
          trimStart t = "/*".toList ++ inside ++ "*/".toList ++ after ∧
          ¬ "*/".toList <:+: inside ∧
          read? t = some h ∧ read? ("/*".toList ++ inside ++ "*/".toList) = some h ∧
          List.Forall₂ Says (filledLines inside) fields ∧
          h.keys = (fields.map (·.1)).eraseDups ∧
          ∀ key value, h.get? key = some value ↔
            ∃ before later, fields = before ++ (key, value) :: later ∧
              key ∉ later.map (·.1)) := by
  refine ⟨readByPatterns_eq t, ?_⟩
  cases hcomment : leadingComment? t with
  | none => exact Or.inl ⟨read_eq_none_iff.2 hcomment, leadingComment_eq_none_iff.1 hcomment⟩
  | some parts =>
    obtain ⟨inside, after⟩ := parts
    obtain ⟨happend, hinside⟩ := leadingComment_eq_some_iff.1 hcomment
    exact Or.inr ⟨inside, after, _, _, happend, hinside, read_of_leadingComment hcomment,
      read_of_leadingComment (leadingComment_closed hinside), forall₂_says (lines inside),
      OrderedMap.keys_ofList _, OrderedMap.get?_ofList_eq_some_iff _⟩

example : (read? "\n/*/ a, b\nLanguage\nx: a ,, b \nx: c ,\n*/ /*y: */".toList).map (·.entries) =
    some [("/ a, b".toList, .items [[]]), ("Language".toList, .text []),
      ("x".toList, .items ["c".toList, []])] := by decide +kernel

end GrammarKit.Header
