import GrammarKit.Proofs.Repetition
import GrammarKit.Proofs.Replacing
import GrammarKit.Proofs.Trimming
import GrammarKit.Substitution.Rule

/-!
# Removing a header by its pattern

The pattern for white space, perhaps a comment, and white space at the start of a text takes as much
of each as there is, since nothing has to fit behind it. It fits once, and what it leaves is the
text without its header.
-/

namespace GrammarKit.Header

open Regex Text

/-! ### The comment at the start -/

theorem append_of_leadingComment {t inside after : Text}
    (h : leadingComment? t = some (inside, after)) :
    trimStart t = "/*".toList ++ inside ++ "*/".toList ++ after := by
  unfold leadingComment? at h
  split at h
  · next rest hopen =>
    rw [append_of_stripped hopen, append_of_splitFirst h]
    simp
  · cases h

theorem leadingComment_trimStart (t : Text) : leadingComment? (trimStart t) = leadingComment? t := by
  rw [leadingComment?, trimStart_trimStart, leadingComment?]

/-- A comment starts behind its two first characters, and ends at the first place that closes it. -/
theorem leadingComment_eq (t : Text) :
    leadingComment? t = if "/*".toList <+: trimStart t then
      splitFirst "*/".toList (trimStart t).tail.tail else none := by
  unfold leadingComment?
  split
  · next rest hopen =>
    rw [append_of_stripped hopen, if_pos (List.prefix_append _ rest)]
    rfl
  · next hopen => rw [if_neg (stripped_eq_none_iff.1 hopen)]

/-- The part of the pattern that takes a comment. -/
def commentPattern : Pattern :=
  .group 1 (.inOrder [.one (.single '/'), .one (.single '*'),
    .repeated false 0 none (.one .anything), .one (.single '*'), .one (.single '/')])

theorem stripPattern_eq :
    stripPattern.pattern = .inOrder [.anchor .textStart, .many (.one (.ofClass .blank)),
      .optional commentPattern, .many (.one (.ofClass .blank))] := rfl

section

variable {α : Type} {next : State → Option α} (groups : List (Nat × Text))

/-- What has to fit behind a comment that starts here, once the first group has its text. -/
def behindComment (start : Cursor) (next : State → Option α) : State → Option α :=
  fun s => next { s with groups := (1, start.upTo s.cursor) :: s.groups }

theorem run_opening (ps : List Pattern) (front back : Text) :
    (Pattern.inOrder (.one (.single '/') :: .one (.single '*') :: ps)).run
        ⟨.between front back, groups⟩ next =
      if "/*".toList <+: back then
        (Pattern.inOrder ps).run ⟨.between (front ++ "/*".toList) back.tail.tail, groups⟩ next
      else none := by
  have hopen : "/*".toList <+: back ↔ back.head? = some '/' ∧ back.tail.head? = some '*' :=
    pair_prefix_iff
  have hfront : front ++ "/*".toList = front ++ ['/'] ++ ['*'] :=
    (List.append_assoc front ['/'] ['*']).symm
  rw [run_inOrder_cons, run_single, run_inOrder_cons, run_single, hfront]
  simp only [hopen, ite_and]

theorem run_commentPattern (front back : Text) :
    commentPattern.run ⟨.between front back, groups⟩ next =
      if "/*".toList <+: back then
        Matcher.atMost (Pattern.one .anything).run false (back.tail.tail.length + 1) none
          ⟨.between (front ++ "/*".toList) back.tail.tail, groups⟩
          (fun s => (Pattern.literal "*/".toList).run s
            (behindComment (.between front back) next))
      else none := by
  have hgroup : commentPattern.run ⟨.between front back, groups⟩ next =
      (Pattern.inOrder [.one (.single '/'), .one (.single '*'),
        .repeated false 0 none (.one .anything), .one (.single '*'), .one (.single '/')]).run
          ⟨.between front back, groups⟩ (behindComment (.between front back) next) := rfl
  rw [hgroup, run_opening]
  rfl

theorem run_comment {front back : Text} (hback : trimStart back = back)
    (hfits : ∀ inside after, leadingComment? back = some (inside, after) → ∀ groups,
      (next ⟨.between (front ++ ("/*".toList ++ inside ++ "*/".toList)) after, groups⟩).isSome =
        true) :
    commentPattern.run ⟨.between front back, groups⟩ next =
      (leadingComment? back).bind fun parts =>
        next ⟨.between (front ++ ("/*".toList ++ parts.1 ++ "*/".toList)) parts.2,
          (1, "/*".toList ++ parts.1 ++ "*/".toList) :: groups⟩ := by
  rw [run_commentPattern]
  split
  · next hopen =>
    obtain ⟨rest, rfl⟩ := hopen
    have hcomment : leadingComment? ("/*".toList ++ rest) = splitFirst "*/".toList rest := by
      rw [leadingComment?, hback, List.isPrefixOf?_eq_some_iff_append_eq.2 rfl]
    have hbehind : ("/*".toList ++ rest).tail.tail = rest := rfl
    have hplace : ∀ inside : Text, front ++ "/*".toList ++ inside ++ "*/".toList =
        front ++ ("/*".toList ++ inside ++ "*/".toList) := fun inside => by
      rw [List.append_assoc, List.append_assoc, List.append_assoc]
    have hlater : ∀ inside after, splitFirst "*/".toList rest = some (inside, after) →
        (behindComment (.between front ("/*".toList ++ rest)) next
          ⟨.between (front ++ "/*".toList ++ inside ++ "*/".toList) after, groups⟩).isSome =
            true := by
      intro inside after hsplit
      rw [hplace]
      exact hfits inside after (hcomment.trans hsplit) _
    rw [hbehind, hcomment, atMost_anything_lazy groups (by simp) (Nat.lt_succ_self _) (by simp) hlater]
    cases hsplit : splitFirst "*/".toList rest with
    | none => rfl
    | some parts =>
      obtain ⟨inside, after⟩ := parts
      have hwhole : "/*".toList ++ rest = "/*".toList ++ inside ++ "*/".toList ++ after := by
        rw [append_of_splitFirst hsplit]
        simp
      rw [Option.bind_some, Option.bind_some, behindComment]
      dsimp only
      rw [hplace, hwhole, Cursor.upTo_between]
  · next hopen =>
    have hcomment : leadingComment? back = none := by
      rw [leadingComment?, hback, stripped_eq_none_iff.2 hopen]
    rw [hcomment, Option.bind_none]

end

/-! ### The whole pattern -/

section

variable {α : Type} {next : State → Option α}

theorem covers_blank : (CharSet.ofClass .blank).covers = isBlank :=
  funext fun c => CharSet.covers_ofClass .blank c

theorem run_blanks (hfits : AlwaysFits next) (groups : List (Nat × Text)) (front back : Text) :
    (Pattern.many (.one (.ofClass .blank))).run ⟨.between front back, groups⟩ next =
      next ⟨.between (front ++ back.takeWhile isBlank) (trimStart back), groups⟩ := by
  rw [run_many_one groups _ hfits, covers_blank]
  rfl

theorem takeWhile_append_trimStart (t : Text) : t.takeWhile isBlank ++ trimStart t = t :=
  List.takeWhile_append_dropWhile

/-- What has to fit behind the second stretch of white space. -/
def behindBlanks (next : State → Option α) : State → Option α :=
  fun s => (Pattern.many (.one (.ofClass .blank))).run s next

theorem alwaysFits_behindBlanks (hfits : AlwaysFits next) : AlwaysFits (behindBlanks next) := by
  intro front back groups
  rw [behindBlanks, run_blanks hfits]
  exact hfits _ _ _

theorem alwaysFits_optional (p : Pattern) (hfits : AlwaysFits next) :
    AlwaysFits fun s => (Pattern.optional p).run s next := by
  intro front back groups
  dsimp only
  rw [run_optional, Option.isSome_or, hfits, Bool.or_true]

end

/-- The pattern takes a text up to where the text without its header starts. -/
theorem run_stripPattern {α : Type} (next : State → Option α) (hfits : AlwaysFits next) (t : Text) :
    ∃ taken groups, taken ++ strip t = t ∧
      stripPattern.pattern.run ⟨.between [] t, []⟩ next = next ⟨.between taken (strip t), groups⟩ := by
  have hblanks := alwaysFits_behindBlanks hfits
  have hstart : stripPattern.pattern.run ⟨.between [] t, []⟩ next =
      (Pattern.many (.one (.ofClass .blank))).run ⟨.between [] t, []⟩ fun s =>
        (Pattern.optional commentPattern).run s (behindBlanks next) := rfl
  have hcomment := @run_comment α (behindBlanks next) [] (t.takeWhile isBlank) (trimStart t)
    (trimStart_trimStart t) fun _ _ _ _ => hblanks _ _ _
  rw [hstart, run_blanks (alwaysFits_optional commentPattern hblanks), run_optional, List.nil_append,
    hcomment, leadingComment_trimStart, strip]
  cases hleading : leadingComment? t with
  | none =>
    refine ⟨t.takeWhile isBlank ++ (trimStart t).takeWhile isBlank, [], ?_, ?_⟩
    · have hrest := takeWhile_append_trimStart (trimStart t)
      rw [trimStart_trimStart] at hrest
      rw [List.append_assoc, hrest, takeWhile_append_trimStart]
    · rw [Option.bind_none, Option.none_or, behindBlanks, run_blanks hfits, trimStart_trimStart]
  | some parts =>
    obtain ⟨inside, after⟩ := parts
    refine ⟨t.takeWhile isBlank ++ ("/*".toList ++ inside ++ "*/".toList) ++ after.takeWhile isBlank,
      [(1, "/*".toList ++ inside ++ "*/".toList)], ?_, ?_⟩
    · rw [List.append_assoc, takeWhile_append_trimStart, List.append_assoc,
        ← append_of_leadingComment hleading, takeWhile_append_trimStart]
    · rw [Option.bind_some, Option.or_of_isSome (hblanks _ _ _), behindBlanks, run_blanks hfits]

/-! ### One match and no other -/

theorem length_after_lt {t inside after : Text} (h : leadingComment? t = some (inside, after)) :
    after.length < t.length := by
  have hwhole := congrArg List.length (append_of_leadingComment h)
  have hstart := (trimStart_suffix t).length_le
  simp only [List.length_append, String.reduceToList, List.length_cons] at hwhole
  omega

theorem of_strip_eq_self {t : Text} (h : strip t = t) :
    trimStart t = t ∧ leadingComment? t = none := by
  unfold strip at h
  split at h
  · next inside after hcomment =>
    have hshorter := length_after_lt hcomment
    have hle := (trimStart_suffix after).length_le
    rw [h] at hle
    omega
  · next hcomment => exact ⟨h, hcomment⟩

theorem matchAt_stripPattern (t : Text) :
    ∃ taken groups, taken ++ strip t = t ∧ stripPattern.pattern.matchAt false (.between [] t) =
      some ⟨.between [] t, .between taken (strip t), groups⟩ :=
  run_stripPattern (fun s => some (Match.mk (.between [] t) s.cursor s.groups)) (fun _ _ _ => rfl) t

theorem strip_suffix (t : Text) : strip t <:+ t := by
  obtain ⟨taken, -, happend, -⟩ := matchAt_stripPattern t
  exact ⟨taken, happend⟩

theorem matchAt_stripPattern_behind (nonEmpty : Bool) {front : Text} (hfront : front ≠ [])
    (back : Text) : stripPattern.pattern.matchAt nonEmpty (.between front back) = none := by
  have hstart : Anchor.textStart.holds (.between front back) = false := by
    cases hreverse : front.reverse with
    | nil => exact absurd (List.reverse_eq_nil_iff.1 hreverse) hfront
    | cons c rest => simp [Anchor.holds, Cursor.between, hreverse]
  rw [Pattern.matchAt, stripPattern_eq, run_inOrder_cons, Pattern.run, hstart]
  rfl

/-- In a text that starts with neither white space nor a comment the pattern takes nothing. -/
theorem matchAt_stripPattern_nonEmpty {t : Text} (h : strip t = t) :
    stripPattern.pattern.matchAt true (.between [] t) = none := by
  obtain ⟨htrim, hcomment⟩ := of_strip_eq_self h
  have hhead : ∀ c ∈ t.head?, (CharSet.ofClass .blank).covers c = false := by
    intro c hc
    cases t with
    | nil => cases hc
    | cons d t =>
      rw [← Option.some.inj hc, covers_blank]
      exact not_blank_of_trimStart htrim
  have hstart : Anchor.textStart.holds (.between [] t) = true := rfl
  have hnone : ∀ α (next : State → Option α),
      commentPattern.run ⟨.between [] t, []⟩ next = none := by
    intro α next
    rw [run_comment [] htrim (by simp [hcomment]), hcomment, Option.bind_none]
  rw [Pattern.matchAt, stripPattern_eq, run_inOrder_cons, Pattern.run, if_pos hstart,
    run_inOrder_cons, run_many_one_of_not [] _ hhead, run_inOrder_cons, run_optional, hnone,
    Option.none_or]
  refine (run_many_one_of_not [] _ hhead).trans ?_
  simp

theorem matchesFrom_stripPattern_behind {front : Text} (hfront : front ≠ []) (n : Nat)
    (nonEmpty : Bool) (back : Text) :
    stripPattern.pattern.matchesFrom n nonEmpty (.between front back) = [] := by
  cases n with
  | zero => rfl
  | succ n =>
    induction back generalizing front nonEmpty with
    | nil => exact Pattern.matchesFrom_end (matchAt_stripPattern_behind nonEmpty hfront [])
    | cons c back ih =>
      rw [Pattern.matchesFrom_of_none (matchAt_stripPattern_behind nonEmpty hfront _)]
      exact ih (by simp) false

theorem matchesFrom_stripPattern_nonEmpty {t : Text} (h : strip t = t) (n : Nat) :
    stripPattern.pattern.matchesFrom n true (.between [] t) = [] := by
  have hnone := matchAt_stripPattern_nonEmpty h
  cases n with
  | zero => rfl
  | succ n =>
    cases t with
    | nil => exact Pattern.matchesFrom_end hnone
    | cons c t =>
      rw [Pattern.matchesFrom_of_none hnone]
      exact matchesFrom_stripPattern_behind (by simp) _ _ _

theorem allMatches_stripPattern (t : Text) :
    ∃ taken groups, taken ++ strip t = t ∧ stripPattern.pattern.allMatches t =
      [⟨.between [] t, .between taken (strip t), groups⟩] := by
  obtain ⟨taken, groups, happend, hmatch⟩ := matchAt_stripPattern t
  refine ⟨taken, groups, happend, ?_⟩
  have hall : stripPattern.pattern.allMatches t =
      stripPattern.pattern.matchesFrom (2 * t.length + 1 + 1) false (.between [] t) := rfl
  rw [hall, Pattern.matchesFrom_of_some hmatch]
  congr 1
  by_cases htaken : taken = []
  · have hsame : strip t = t := by
      rw [htaken] at happend
      exact happend
    have hempty : Match.isEmpty ⟨.between [] t, .between taken (strip t), groups⟩ = true := by
      simp [Match.isEmpty, hsame]
    rw [hempty, htaken, hsame]
    exact matchesFrom_stripPattern_nonEmpty hsame _
  · exact matchesFrom_stripPattern_behind htaken _ _ _

/-- The rule for headers gives the text without its header, whatever the text is. -/
theorem apply_stripHeader (t : Text) : Rule.stripHeader.apply t = .ok (strip t) := by
  obtain ⟨taken, groups, -, hall⟩ := allMatches_stripPattern t
  have hrule : Rule.stripHeader.apply t =
      stripPattern.pattern.replaceAll (fun m => .ok (Template.expand [] m)) t := rfl
  rw [hrule, Pattern.replaceAll, hall]
  exact @Pattern.stitch_cons _ _ [] [] t [] (strip t) _ [] rfl rfl rfl

end GrammarKit.Header
