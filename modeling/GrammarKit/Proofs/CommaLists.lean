import GrammarKit.Proofs.HeaderRemoval
import GrammarKit.Proofs.Pieces

/-!
# Lists between commas

Cut at its commas together with the white space around them, a text that has been trimmed gives the
pieces between the commas, each of them trimmed.
-/

namespace GrammarKit

open Text Regex

namespace Header

/-- The pattern for a comma and the white space around it. -/
def commaRegex : Regex where
  source := "\\s*,\\s*".toList
  pattern := .inOrder [
    .many (.one (.ofClass .blank)), .one (.single ','), .many (.one (.ofClass .blank))]

theorem read_commaRegex_source :
    (Regex.read commaRegex.source).toOption = some commaRegex := by decide +kernel

theorem matchAt_comma (front back : Text) :
    commaRegex.pattern.matchAt false (.between front back) =
      if (trimStart back).head? = some ',' then
        some ⟨.between front back,
          .between (front ++ back.takeWhile isBlank ++ [','] ++
            (trimStart back).tail.takeWhile isBlank) (trimStart (trimStart back).tail), []⟩
      else none := by
  have hshape : commaRegex.pattern = .inOrder [
    .many (.one (.ofClass .blank)), .one (.single ','), .many (.one (.ofClass .blank))] := rfl
  have hrest : back.dropWhile isBlank = trimStart back := rfl
  have hfits : AlwaysFits fun s => some (Match.mk (.between front back) s.cursor s.groups) :=
    fun _ _ _ => rfl
  rw [Pattern.matchAt, hshape, run_inOrder_cons, run_many_one_of_stop, covers_blank, hrest,
    run_inOrder_cons, run_single]
  · by_cases hcomma : (trimStart back).head? = some ','
    · rw [if_pos hcomma, if_pos hcomma]
      exact run_blanks hfits [] _ _
    · rw [if_neg hcomma, if_neg hcomma]
  · intro front c back hc
    have hne : ¬ (c :: back).head? = some ',' := by
      intro he
      rw [covers_blank, Option.some.inj he] at hc
      exact absurd hc (by decide)
    rw [run_inOrder_cons, run_single, if_neg hne]

section

variable {n : Nat} {front kept back : Text}

theorem length_trimStart_lt {rest : Text} (h : trimStart back = ',' :: rest) :
    (trimStart rest).length < back.length := by
  have hafter := (trimStart_suffix rest).length_le
  have hbefore := (trimStart_suffix back).length_le
  rw [h, List.length_cons] at hbefore
  omega

theorem cutFrom_comma (n : Nat) (front kept : Text) {rest : Text}
    (h : trimStart back = ',' :: rest) :
    ∃ front', commaRegex.pattern.cutFrom (n + 1) front kept back =
      kept :: commaRegex.pattern.cutFrom n front' [] (trimStart rest) := by
  have hmatch := matchAt_comma (front ++ kept) back
  rw [h, List.head?_cons, if_pos rfl, List.tail_cons] at hmatch
  exact ⟨_, Pattern.cutFrom_match hmatch rfl rfl (decide_eq_false (Nat.ne_of_gt (length_trimStart_lt h)))⟩

theorem cutFrom_of_no_comma {c : Char} (h : (trimStart (c :: back)).head? ≠ some ',') :
    commaRegex.pattern.cutFrom (n + 1) front kept (c :: back) =
      commaRegex.pattern.cutFrom (n + 1) front (kept ++ [c]) back :=
  Pattern.cutFrom_kept (by rw [matchAt_comma, if_neg h])

theorem cutFrom_comma_end : commaRegex.pattern.cutFrom (n + 1) front kept [] = [kept] :=
  Pattern.cutFrom_end (by rw [matchAt_comma]; rfl)

theorem splitOn_comma_of_not_mem {t : Text} (h : ',' ∉ t) : splitOn ',' t = [t] :=
  splitWhen_of_forall fun _ hc => decide_eq_false fun he => h (he ▸ hc)

theorem splitOn_comma_append {rest : Text} (hkept : ',' ∉ kept) (h : trimStart back = ',' :: rest) :
    splitOn ',' (kept ++ back) = (kept ++ back.takeWhile isBlank) :: splitOn ',' rest := by
  have hfirst : ',' ∉ kept ++ back.takeWhile isBlank := by
    rw [List.mem_append, not_or]
    refine ⟨hkept, fun hc => ?_⟩
    have hblank : isBlank ',' = true := List.all_eq_true.1 List.all_takeWhile ',' hc
    exact absurd hblank (by decide)
  have hback : kept ++ back = kept ++ back.takeWhile isBlank ++ ',' :: rest := by
    rw [← h, List.append_assoc, takeWhile_append_trimStart]
  rw [hback, splitOn, splitWhen_append_cons (decide_eq_true rfl), ← splitOn,
    splitOn_comma_of_not_mem hfirst, splitOn]
  rfl

/-- What was passed must not end in white space in front of a comma: a cut that takes the comma would
have started at this white space. -/
theorem cutFrom_comma_eq (hn : back.length < n) (hkept : ',' ∉ kept)
    (hstart : trimStart (kept ++ back) = kept ++ back) (hend : trimEnd (kept ++ back) = kept ++ back)
    (hseam : ∀ c ∈ kept.getLast?, isBlank c = true → (trimStart back).head? ≠ some ',') :
    commaRegex.pattern.cutFrom n front kept back = (splitOn ',' (kept ++ back)).map trim := by
  -- on the length of what is ahead, since a match may take many characters off it
  induction hlength : back.length using Nat.strongRecOn generalizing n front kept back with
  | _ length ih =>
    obtain ⟨n, rfl⟩ : ∃ m, n = m + 1 := ⟨n - 1, by omega⟩
    by_cases hcomma : (trimStart back).head? = some ','
    · obtain ⟨rest, hrest⟩ := List.head?_eq_some_iff.1 hcomma
      have hshorter := length_trimStart_lt hrest
      obtain ⟨front', hcut⟩ := cutFrom_comma n front kept hrest
      have hlast : ∀ c ∈ kept.getLast?, isBlank c = false := by
        intro c hc
        cases hblank : isBlank c with
        | false => rfl
        | true => exact absurd hcomma (hseam c hc hblank)
      have hfirst : trim (kept ++ back.takeWhile isBlank) = kept := by
        rw [trim_append_of_blank kept (List.all_eq_true.1 List.all_takeWhile), trim,
          trimStart_of_isPrefix (List.prefix_append kept back) hstart, trimEnd_of_getLast hlast]
      have hsuffix : trimStart rest <:+ kept ++ back :=
        ((trimStart_suffix rest).trans (List.suffix_cons ',' rest)).trans
          ((hrest ▸ trimStart_suffix back).trans (List.suffix_append kept back))
      have hlater : commaRegex.pattern.cutFrom n front' [] (trimStart rest) =
          (splitOn ',' ([] ++ trimStart rest)).map trim :=
        ih _ (hlength ▸ hshorter) (by omega) List.not_mem_nil (trimStart_trimStart rest)
          (trimEnd_of_isSuffix hsuffix hend) (by simp) rfl
      rw [hcut, splitOn_comma_append hkept hrest, List.map_cons, hfirst, hlater, List.nil_append,
        map_trim_splitOn_trimStart (by decide)]
    · cases back with
      | nil =>
        rw [List.append_nil] at hstart hend ⊢
        rw [cutFrom_comma_end, splitOn_comma_of_not_mem hkept, List.map_singleton, trim, hstart, hend]
      | cons c back =>
        rw [List.length_cons] at hn hlength
        have hc : ',' ≠ c := by
          rintro rfl
          exact hcomma rfl
        have hshift : kept ++ [c] ++ back = kept ++ c :: back := by simp
        rw [cutFrom_of_no_comma hcomma, ← hshift]
        refine ih _ (by omega) (by omega) (by simp [hkept, hc]) (hshift ▸ hstart) (hshift ▸ hend) ?_ rfl
        intro d hd hblank
        rw [List.getLast?_concat] at hd
        obtain rfl : c = d := Option.some.inj hd
        rwa [trimStart_cons_of_blank hblank] at hcomma

end

/-- Cut at commas with the white space around them, a trimmed text gives the trimmed pieces between
its commas. -/
theorem cut_comma {t : Text} (h : trim t = t) :
    commaRegex.pattern.cut t = (splitOn ',' t).map trim := by
  have hcut : commaRegex.pattern.cut t =
      commaRegex.pattern.cutFrom (2 * t.length + 2) [] [] t := rfl
  have hstart : trimStart ([] ++ t) = [] ++ t := by
    rw [List.nil_append, ← h, trimStart_trim]
  have hend : trimEnd ([] ++ t) = [] ++ t := by
    rw [List.nil_append, ← h, trimEnd_trim]
  rw [hcut, cutFrom_comma_eq (by omega) List.not_mem_nil hstart hend (by simp), List.nil_append]

end Header

end GrammarKit
