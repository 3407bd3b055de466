import GrammarKit.Proofs.HeaderReading
import GrammarKit.Proofs.TransformedText

/-!
# Reading and removing headers

A header is read from a comment if and only if the comment is removed, although the two patterns
differ: one has to find a comment, the other takes nothing if there is none. The pattern for removal
matches once, so it makes no difference whether one match is replaced or every match.
-/

namespace GrammarKit

open Text Regex

namespace Regex.Pattern

variable {ε : Type}

/-- A text with the first match of a pattern replaced. -/
def replaceFirst (p : Pattern) (replacement : Match → Except ε Text) (t : Text) : Except ε Text :=
  stitch replacement (Cursor.start t) ((p.allMatches t).take 1)

theorem replaceFirst_eq_replaceAll {p : Pattern} {t : Text} (h : (p.allMatches t).length ≤ 1)
    (replacement : Match → Except ε Text) :
    p.replaceFirst replacement t = p.replaceAll replacement t := by
  rw [replaceFirst, List.take_of_length_le h, replaceAll]

end Regex.Pattern

namespace Header

theorem replaceFirst_stripPattern (t : Text) :
    stripPattern.pattern.replaceFirst (fun _ => (.ok [] : Except SubstitutionError Text)) t =
      .ok (strip t) := by
  obtain ⟨taken, groups, -, hall⟩ := allMatches_stripPattern t
  have honce : (stripPattern.pattern.allMatches t).length = 1 := by rw [hall, List.length_singleton]
  rw [Pattern.replaceFirst_eq_replaceAll (Nat.le_of_eq honce)]
  exact apply_stripHeader t

/-- What is removed is the match of the pattern for comments, if there is one, and white space. -/
theorem strip_eq_behind_comment (t : Text) :
    strip t = trimStart (((commentRegex.pattern.matchAt false (Cursor.start t)).map
      (·.stop.after)).getD t) := by
  rw [strip, matchAt_commentRegex, Option.map_map]
  cases leadingComment? t <;> rfl

/-- A text without a header only loses the white space at its start. A header is removed with the
comment from which it is read, up to the first place that closes it; by one replacement, or by all
that the rules of a build make. -/
theorem strip_leadingComment (t : Text) (table : AbbreviationTable) :
    ((read? t = none ∧ strip t = trimStart t) ∨
        ∃ inside after h, trimStart t = "/*".toList ++ inside ++ "*/".toList ++ after ∧
          ¬ "*/".toList <:+: inside ∧
          read? t = some h ∧ read? ("/*".toList ++ inside ++ "*/".toList) = some h ∧
          strip t = trimStart after) ∧
      strip t = trimStart (((commentRegex.pattern.matchAt false (Cursor.start t)).map
        (·.stop.after)).getD t) ∧
      stripPattern.pattern.replaceFirst (fun _ => (.ok [] : Except SubstitutionError Text)) t =
        .ok (strip t) ∧
      Rule.applyAll (Rule.ofBuild true false table) t = .ok (strip t) := by
  refine ⟨?_, strip_eq_behind_comment t, replaceFirst_stripPattern t, transform_eq true false table t⟩
  cases hcomment : leadingComment? t with
  | none => exact Or.inl ⟨read_eq_none_iff.2 hcomment, by rw [strip, hcomment]⟩
  | some parts =>
    obtain ⟨inside, after⟩ := parts
    obtain ⟨happend, hinside⟩ := leadingComment_eq_some_iff.1 hcomment
    exact Or.inr ⟨inside, after, _, happend, hinside, read_of_leadingComment hcomment,
      read_of_leadingComment (leadingComment_closed hinside), by rw [strip, hcomment]⟩

end Header

end GrammarKit
