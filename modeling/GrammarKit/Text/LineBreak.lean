import GrammarKit.Text.Basic

/-!
# Lines

The characters that end a line, the lines of a text, and the reading of every line end as a
newline.
-/

namespace GrammarKit.Text

/-- Characters that end a line. A carriage return and the newline behind it end one line. -/
def isLineBreak (c : Char) : Bool :=
  let n := c.toNat
  (10 ≤ n && n ≤ 13) || (28 ≤ n && n ≤ 30) || n == 0x85 || n == 0x2028 || n == 0x2029

/-- The lines read so far, the last one given in reverse and still open. -/
def linesFrom (line : Text) : Text → List Text
  | [] => if line.isEmpty then [] else [line.reverse]
  | '\r' :: '\n' :: rest => line.reverse :: linesFrom [] rest
  | c :: rest => if isLineBreak c then line.reverse :: linesFrom [] rest else linesFrom (c :: line) rest

/-- The lines of a text, without what ends them. Nothing comes after the end of the last line. -/
def lines (t : Text) : List Text := linesFrom [] t

theorem not_lineBreak_of_mem_linesFrom {line t l : Text}
    (hline : ∀ c ∈ line, isLineBreak c = false) (h : l ∈ linesFrom line t) :
    ∀ c ∈ l, isLineBreak c = false := by
  fun_induction linesFrom line t generalizing l <;> grind

theorem not_lineBreak_of_mem_lines {t l : Text} (h : l ∈ lines t) : ∀ c ∈ l, isLineBreak c = false :=
  not_lineBreak_of_mem_linesFrom (by simp) h

def unifyNewlines : Text → Text
  | [] => []
  | '\r' :: '\n' :: rest => '\n' :: unifyNewlines rest
  | '\r' :: rest => '\n' :: unifyNewlines rest
  | c :: rest => c :: unifyNewlines rest

theorem not_mem_unifyNewlines (t : Text) : '\r' ∉ unifyNewlines t := by
  fun_induction unifyNewlines t <;> grind

theorem unifyNewlines_of_not_mem {t : Text} (h : '\r' ∉ t) : unifyNewlines t = t := by
  fun_induction unifyNewlines t <;> grind

end GrammarKit.Text
