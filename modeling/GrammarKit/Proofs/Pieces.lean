import GrammarKit.Proofs.Trimming
import GrammarKit.Text.LineBreak

/-!
# Pieces and lines

Every piece and every line of a text is a stretch of it. Pieces that do not hold the separator, and
lines that do not hold a line break, are read back from the text in which they are written one after
the other; white space around pieces makes no difference once they are trimmed.
-/

namespace GrammarKit.Text

/-! ### Pieces -/

theorem splitWhen_cons_of_neg {p : Char → Bool} {c : Char} (hc : p c = false) {t piece : Text}
    {pieces : List Text} (ht : splitWhen p t = piece :: pieces) :
    splitWhen p (c :: t) = (c :: piece) :: pieces := by
  simp [splitWhen, hc, ht]

/-- The first piece is at the front, and every other one behind a separating character. Each goes on
to the next such character, if there is one. -/
theorem exists_places_of_splitWhen (p : Char → Bool) (t : Text) :
    ∃ first more, splitWhen p t = first :: more ∧
      (∃ back, t = first ++ back ∧ ∀ c ∈ back.head?, p c = true) ∧
      ∀ piece ∈ more, ∃ front c back, t = front ++ c :: (piece ++ back) ∧ p c = true ∧
        ∀ d ∈ back.head?, p d = true := by
  induction t with
  | nil => exact ⟨[], [], rfl, ⟨[], rfl, nofun⟩, nofun⟩
  | cons c rest ih =>
    obtain ⟨first, more, he, ⟨back, hfirst, hback⟩, hmore⟩ := ih
    have hlater : ∀ piece ∈ more, ∃ front d back, c :: rest = front ++ d :: (piece ++ back) ∧
        p d = true ∧ ∀ e ∈ back.head?, p e = true := by
      intro piece hpiece
      obtain ⟨front, d, back, hrest, hd, hback⟩ := hmore piece hpiece
      exact ⟨c :: front, d, back, by rw [hrest, List.cons_append], hd, hback⟩
    cases hc : p c with
    | true =>
      refine ⟨[], first :: more, by simp [splitWhen, hc, he], ⟨c :: rest, rfl, ?_⟩, ?_⟩
      · rintro d ⟨rfl⟩
        exact hc
      · intro piece hpiece
        rcases List.mem_cons.1 hpiece with rfl | hpiece
        · exact ⟨[], c, back, by rw [hfirst, List.nil_append], hc, hback⟩
        · exact hlater piece hpiece
    | false =>
      exact ⟨c :: first, more, splitWhen_cons_of_neg hc he, ⟨back, by rw [hfirst]; rfl, hback⟩, hlater⟩

/-- Next to a piece, on either side, there is a separating character or nothing. -/
theorem exists_place_of_mem_splitWhen {p : Char → Bool} {t piece : Text}
    (h : piece ∈ splitWhen p t) : ∃ front back, t = front ++ piece ++ back ∧
      (∀ c ∈ front.getLast?, p c = true) ∧ ∀ c ∈ back.head?, p c = true := by
  obtain ⟨first, more, he, ⟨back, hfirst, hback⟩, hmore⟩ := exists_places_of_splitWhen p t
  rw [he] at h
  rcases List.mem_cons.1 h with rfl | h
  · exact ⟨[], back, hfirst, nofun, hback⟩
  · obtain ⟨front, c, back, ht, hc, hback⟩ := hmore piece h
    refine ⟨front ++ [c], back, by simp [ht], ?_, hback⟩
    rw [List.getLast?_concat]
    rintro d ⟨rfl⟩
    exact hc

theorem infix_of_mem_splitWhen {p : Char → Bool} {t piece : Text} (h : piece ∈ splitWhen p t) :
    piece <:+: t := by
  obtain ⟨front, back, ht, -⟩ := exists_place_of_mem_splitWhen h
  exact ⟨front, back, ht.symm⟩

theorem splitWhen_append_of_forall {p : Char → Bool} {w : Text} (hw : ∀ c ∈ w, p c = false)
    (t : Text) : ∃ front last, splitWhen p t = front ++ [last] ∧
      splitWhen p (t ++ w) = front ++ [last ++ w] := by
  induction t with
  | nil => exact ⟨[], [], rfl, splitWhen_of_forall hw⟩
  | cons c rest ih =>
    obtain ⟨front, last, ht, htw⟩ := ih
    cases hc : p c with
    | true => exact ⟨[] :: front, last, by simp [splitWhen, hc, ht], by simp [splitWhen, hc, htw]⟩
    | false =>
      cases front with
      | nil =>
        refine ⟨[], c :: last, ?_, ?_⟩
        · exact splitWhen_cons_of_neg hc ht
        · exact splitWhen_cons_of_neg hc htw
      | cons first front =>
        refine ⟨(c :: first) :: front, last, ?_, ?_⟩
        · exact splitWhen_cons_of_neg hc ht
        · exact splitWhen_cons_of_neg hc htw

theorem splitOn_join {sep : Char} {gap : Text} (hgap : sep ∉ gap) (t : Text) {ts : List Text}
    (h : ∀ u ∈ t :: ts, sep ∉ u) :
    splitOn sep (join (sep :: gap) (t :: ts)) = t :: ts.map (gap ++ ·) := by
  have plain : ∀ u : Text, sep ∉ u → ∀ c ∈ u, decide (c = sep) = false := by
    intro u hu c hc
    exact decide_eq_false fun he => hu (he ▸ hc)
  induction ts generalizing t with
  | nil =>
    have ht := plain t (h t List.mem_cons_self)
    rw [join, List.intercalate_singleton, splitOn, splitWhen_of_forall ht, List.map_nil]
  | cons u us ih =>
    have ht := plain t (h t List.mem_cons_self)
    -- the gap is a part of the next piece, so the rest is a join that starts with `gap ++ u`
    have hrest : sep :: gap ++ join (sep :: gap) (u :: us) =
        sep :: join (sep :: gap) ((gap ++ u) :: us) := by
      cases us with
      | nil => simp [join]
      | cons v vs => simp [join_cons_cons]
    have hlater : ∀ v ∈ (gap ++ u) :: us, sep ∉ v := by
      intro v hv
      rcases List.mem_cons.1 hv with rfl | hv
      · have hu : sep ∉ u := h u (by simp)
        simp [hgap, hu]
      · exact h v (by simp [hv])
    rw [join_cons_cons, hrest, splitOn, splitWhen_append_cons (by simp), splitWhen_of_forall ht,
      ← splitOn, ih (gap ++ u) hlater]
    rfl

theorem join_sublist (sep : Text) {ts us : List Text} (h : ts.Sublist us) :
    (join sep ts).Sublist (join sep us) := by
  induction h with
  | slnil => exact List.Sublist.refl _
  | @cons ts us u h ih =>
    cases us with
    | nil =>
      rw [List.sublist_nil.1 h]
      exact List.nil_sublist _
    | cons v us =>
      rw [join_cons_cons]
      exact (ih.trans (List.sublist_append_right sep _)).trans (List.sublist_append_right u _)
  | @cons_cons ts us u h ih =>
    cases us with
    | nil =>
      obtain rfl := List.sublist_nil.1 h
      exact List.Sublist.refl _
    | cons v us =>
      cases ts with
      | nil =>
        rw [join_singleton, join_cons_cons]
        exact List.sublist_append_left u _
      | cons t ts =>
        rw [join_cons_cons, join_cons_cons]
        exact (ih.append_left sep).append_left u

theorem join_concat (sep t : Text) (ts : List Text) :
    join sep (ts ++ [t]) = ts.flatMap (· ++ sep) ++ t := by
  induction ts with
  | nil => exact join_singleton sep t
  | cons first ts ih =>
    have hstep : join sep (first :: (ts ++ [t])) = first ++ (sep ++ join sep (ts ++ [t])) := by
      cases ts with
      | nil => exact join_cons_cons sep first t []
      | cons second ts => exact join_cons_cons sep first second (ts ++ [t])
    rw [List.cons_append, hstep, ih, List.flatMap_cons, List.append_assoc, List.append_assoc]

/-! ### Trimmed pieces -/

theorem not_sep_of_blank {sep c : Char} (hsep : isBlank sep = false) (hc : isBlank c = true) :
    decide (c = sep) = false := by
  apply decide_eq_false
  rintro rfl
  rw [hc] at hsep
  cases hsep

theorem map_trim_splitOn_trimStart {sep : Char} (hsep : isBlank sep = false) (t : Text) :
    (splitOn sep (trimStart t)).map trim = (splitOn sep t).map trim := by
  induction t with
  | nil => rfl
  | cons c rest ih =>
    cases hc : isBlank c with
    | false => rw [trimStart_cons_of_not_blank hc]
    | true =>
      have hne : decide (c = sep) = false := not_sep_of_blank hsep hc
      rw [trimStart_cons_of_blank hc, ih, splitOn, splitOn]
      cases hrest : splitWhen (fun d => decide (d = sep)) rest with
      | nil => exact absurd hrest (splitWhen_ne_nil _ rest)
      | cons piece pieces =>
        rw [splitWhen_cons_of_neg hne hrest, List.map_cons, List.map_cons, trim_cons_of_blank hc]

theorem map_trim_splitOn_trimEnd {sep : Char} (hsep : isBlank sep = false) (t : Text) :
    (splitOn sep (trimEnd t)).map trim = (splitOn sep t).map trim := by
  obtain ⟨w, hw, he⟩ := exists_blank_tail t
  have hwsep : ∀ c ∈ w, decide (c = sep) = false :=
    fun c hc => not_sep_of_blank hsep (hw c hc)
  obtain ⟨front, last, hend, hall⟩ := splitWhen_append_of_forall hwsep (trimEnd t)
  rw [← he] at hall
  rw [splitOn, splitOn, hend, hall, List.map_append, List.map_append, List.map_singleton,
    List.map_singleton, trim_append_of_blank last hw]

theorem map_trim_splitOn_trim {sep : Char} (hsep : isBlank sep = false) (t : Text) :
    (splitOn sep (trim t)).map trim = (splitOn sep t).map trim := by
  rw [trim, map_trim_splitOn_trimEnd hsep, map_trim_splitOn_trimStart hsep]

/-! ### Lines -/

theorem linesFrom_append {line : Text} (h : ∀ c ∈ line, isLineBreak c = false) (acc t : Text) :
    linesFrom acc (line ++ t) = linesFrom (line.reverse ++ acc) t := by
  induction line generalizing acc with
  | nil => rfl
  | cons c rest ih =>
    have hc : isLineBreak c = false := h c List.mem_cons_self
    have hcr : c ≠ '\r' := by
      rintro rfl
      exact absurd hc (by decide)
    rw [List.cons_append, linesFrom, if_neg (by simp [hc]),
      ih (fun d hd => h d (List.mem_cons_of_mem _ hd))]
    · simp
    · intro rest' he
      exact absurd he hcr

theorem lines_newline (t : Text) : lines ('\n' :: t) = [] :: lines t := by
  rw [lines, linesFrom, if_pos (by decide)]
  · rfl
  · intro rest he
    exact absurd he (by decide)

theorem lines_append_newline {line : Text} (h : ∀ c ∈ line, isLineBreak c = false) (t : Text) :
    lines (line ++ '\n' :: t) = line :: lines t := by
  rw [lines, linesFrom_append h, linesFrom, if_pos (by decide)]
  · simp [lines]
  · intro rest he
    exact absurd he (by decide)

theorem lines_flatMap_newline {ls : List Text} (h : ∀ l ∈ ls, ∀ c ∈ l, isLineBreak c = false) :
    lines (ls.flatMap (· ++ ['\n'])) = ls := by
  induction ls with
  | nil => rfl
  | cons l ls ih =>
    have hl := h l List.mem_cons_self
    have hls := ih fun m hm => h m (List.mem_cons_of_mem _ hm)
    rw [List.flatMap_cons, List.append_assoc, List.singleton_append, lines_append_newline hl, hls]

theorem infix_of_mem_linesFrom {acc t l : Text} (h : l ∈ linesFrom acc t) :
    l <:+: acc.reverse ++ t := by
  have skip : ∀ (front mid back : Text), l <:+: back → l <:+: front ++ (mid ++ back) := by
    intro front mid back hl
    exact hl.trans ((List.suffix_append mid back).isInfix.trans
      (List.suffix_append front (mid ++ back)).isInfix)
  fun_induction linesFrom acc t with
  | case1 acc hempty => simp at h
  | case2 acc hempty =>
    rw [List.mem_singleton.1 h]
    exact (List.prefix_append _ _).isInfix
  | case3 acc rest ih =>
    rcases List.mem_cons.1 h with rfl | h
    · exact (List.prefix_append _ _).isInfix
    · exact skip acc.reverse ['\r', '\n'] rest (ih h)
  | case4 acc c rest _ hc ih =>
    rcases List.mem_cons.1 h with rfl | h
    · exact (List.prefix_append _ _).isInfix
    · exact skip acc.reverse [c] rest (ih h)
  | case5 acc c rest _ hc ih =>
    have hrest := ih h
    rw [List.reverse_cons, List.append_assoc, List.singleton_append] at hrest
    exact hrest

theorem infix_of_mem_lines {t l : Text} (h : l ∈ lines t) : l <:+: t := infix_of_mem_linesFrom h

end GrammarKit.Text
