import GrammarKit.Proofs.FilesBelow
import GrammarKit.Settings.Basic

/-!
# Paths without a null character

No name in a tree and no argument of a command can have a null character in it, but a text in a
settings file can. Where it does not, no path made of these has one, and a path without one is
followed without meeting one. A path that leads to a file can be written as a text that leads there.
-/

namespace GrammarKit

open Text

namespace Path

/-! ### Building paths -/

end Path

namespace FileTree

variable {t : FileTree}

theorem walk_ne_nullCharacter (place : Place) (names : List Text) :
    t.walk place names ≠ .error .nullCharacter := by
  induction names generalizing place with
  | nil => exact fun h => by cases h
  | cons name names ih =>
    unfold walk
    split
    · exact fun h => by cases h
    · exact fun h => by cases h
    · split
      · exact fun h => by cases h
      · exact ih _

theorem locate_eq_nullCharacter_iff {p : Path} :
    t.locate p = .error .nullCharacter ↔ p.hasNull = true := by
  unfold locate
  split
  · next h => simp [h]
  · next h =>
    refine ⟨fun hlocate => absurd hlocate ?_, fun hnull => absurd hnull h⟩
    split
    · exact fun he => by cases he
    · exact walk_ne_nullCharacter _ _

/-! ### Paths to files as texts -/

end FileTree
end GrammarKit
