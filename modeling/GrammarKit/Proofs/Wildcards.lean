import GrammarKit.Glob.Basic
import GrammarKit.Proofs.Repetition
import GrammarKit.Proofs.Trimming

/-!
# Globs without brackets

A name that a glob spells is made of the glob's own characters, with any run of characters in the
place of a star and any single one in the place of a question mark. A glob of one name behind a
slash takes the paths whose first name it spells, with all that lies below it, and takes a name that
it spells with a newline behind it too.
-/

namespace GrammarKit.Glob

open Regex Text

/-! ### Names that a glob spells -/

/-- What stands between two slashes of a path is spelled by what stands there in a glob. -/
inductive Spells : Text → Text → Prop
  | nil : Spells [] []
  | anyRun {glob taken name : Text} :
    '/' ∉ taken → Spells glob name → Spells ('*' :: glob) (taken ++ name)
  | anyOne {glob name : Text} {c : Char} :
    c ≠ '/' → Spells glob name → Spells ('?' :: glob) (c :: name)
  | char {glob name : Text} {c : Char} :
    c ≠ '*' → c ≠ '?' → Spells glob name → Spells (c :: glob) (c :: name)

theorem spells_self {glob : Text} (hslash : '/' ∉ glob) : Spells glob glob := by
  induction glob with
  | nil => exact .nil
  | cons c glob ih =>
    rw [List.mem_cons, not_or] at hslash
    have hrest := ih hslash.2
    by_cases hrun : c = '*'
    · subst hrun
      have hstar : '/' ∉ ['*'] := by decide
      exact .anyRun hstar hrest
    · by_cases hone : c = '?'
      · subst hone
        exact .anyOne (by decide) hrest
      · exact .char hrun hone hrest

/-- A text that means itself in a glob. -/
def IsLiteral (glob : Text) : Prop := ∀ c ∈ glob, c ≠ '*' ∧ c ≠ '?'

theorem spells_literal_iff {glob name : Text} (h : IsLiteral glob) :
    Spells glob name ↔ name = glob := by
  induction glob generalizing name with
  | nil =>
    constructor
    · rintro ⟨⟩
      rfl
    · rintro rfl
      exact .nil
  | cons c glob ih =>
    obtain ⟨⟨hrun, hone⟩, hrest⟩ := List.forall_mem_cons.1 h
    constructor
    · intro hspells
      cases hspells with
      | anyRun => exact absurd rfl hrun
      | anyOne => exact absurd rfl hone
      | char _ _ hlater => rw [(ih hrest).1 hlater]
    · rintro rfl
      exact .char hrun hone ((ih hrest).2 rfl)

theorem spells_star_iff {glob name : Text} (h : IsLiteral glob) :
    Spells ('*' :: glob) name ↔ ∃ taken, name = taken ++ glob ∧ '/' ∉ taken := by
  constructor
  · intro hspells
    cases hspells with
    | anyRun htaken hlater => exact ⟨_, by rw [(spells_literal_iff h).1 hlater], htaken⟩
    | char hrun => exact absurd rfl hrun
  · rintro ⟨taken, rfl, htaken⟩
    exact .anyRun htaken ((spells_literal_iff h).2 rfl)

/-! ### The pattern of a name -/

/-- The piece that a character of a glob without brackets stands for. -/
def pieceOf (c : Char) : Piece :=
  if c = '*' then .anyRun else if c = '?' then .anyOne else .char c

def patternOfChar (c : Char) : Pattern :=
  if c = '*' then .many notSlash else if c = '?' then notSlash else .one (.single c)

theorem pattern_pieceOf (c : Char) : (pieceOf c).pattern = .ok (patternOfChar c) := by
  unfold pieceOf patternOfChar
  split
  · rfl
  · split <;> rfl

theorem mapM_pattern_pieceOf (glob : Text) :
    (glob.map pieceOf).mapM Piece.pattern = .ok (glob.map patternOfChar) := by
  induction glob with
  | nil => rfl
  | cons c glob ih =>
    rw [List.map_cons, List.mapM_cons, pattern_pieceOf, ih]
    rfl

theorem pieces_eq {glob : Text} (h : ∀ c ∈ glob, c ≠ '\\' ∧ c ≠ '[') :
    pieces glob = .ok (glob.map pieceOf) := by
  induction glob with
  | nil => rw [pieces, List.map_nil]
  | cons c glob ih =>
    obtain ⟨⟨hback, hopen⟩, hrest⟩ := List.forall_mem_cons.1 h
    have hlater := ih hrest
    by_cases hrun : c = '*'
    · subst hrun
      rw [pieces, hlater]
      rfl
    · by_cases hone : c = '?'
      · subst hone
        rw [pieces, hlater]
        rfl
      · have hpiece : pieceOf c = .char c := by rw [pieceOf, if_neg hrun, if_neg hone]
        rw [pieces, hlater, List.map_cons, hpiece]
        · rfl
        all_goals simp_all

theorem covers_notSlash (c : Char) :
    CharSet.covers { items := [.char '/'.toNat], negated := true } c = true ↔ c ≠ '/' := by
  have hcovers : CharSet.covers { items := [.char '/'.toNat], negated := true } c =
      !(CharSet.single '/').covers c := by
    simp [CharSet.covers, CharSet.single]
  rw [hcovers, CharSet.covers_single]
  simp

section

variable {α : Type} {next : State → Option α} (groups : List (Nat × Text))

theorem isSome_run_notSlash (front back : Text) :
    (notSlash.run ⟨.between front back, groups⟩ next).isSome ↔
      ∃ c rest, back = c :: rest ∧ c ≠ '/' ∧
        (next ⟨.between (front ++ [c]) rest, groups⟩).isSome := by
  cases back with
  | nil => simp [notSlash, run_one_nil]
  | cons d back =>
    rw [notSlash, run_one_cons]
    by_cases hd : d = '/'
    · have hcovers := mt (covers_notSlash d).1 (not_not.2 hd)
      rw [if_neg hcovers]
      simp [hd]
    · rw [if_pos ((covers_notSlash d).2 hd)]
      simp [hd]

/-- The pattern of a glob finds a way to fit if one of the names that the glob spells leads to one. -/
theorem isSome_run_glob (glob front back : Text) :
    ((Pattern.inOrder (glob.map patternOfChar)).run ⟨.between front back, groups⟩ next).isSome ↔
      ∃ name rest, back = name ++ rest ∧ Spells glob name ∧
        (next ⟨.between (front ++ name) rest, groups⟩).isSome := by
  induction glob generalizing front back with
  | nil =>
    have hrun : (Pattern.inOrder (([] : Text).map patternOfChar)).run
        ⟨.between front back, groups⟩ next = next ⟨.between front back, groups⟩ := rfl
    rw [hrun]
    constructor
    · intro h
      exact ⟨[], back, rfl, .nil, by rwa [List.append_nil]⟩
    · rintro ⟨name, rest, rfl, ⟨⟩, h⟩
      rwa [List.append_nil] at h
  | cons c glob ih =>
    rw [List.map_cons, run_inOrder_cons]
    by_cases hrun : c = '*'
    · subst hrun
      have hstar : patternOfChar '*' =
          .many (.one { items := [.char '/'.toNat], negated := true }) := rfl
      rw [hstar, isSome_run_many_one]
      constructor
      · rintro ⟨taken, later, rfl, htaken, h⟩
        obtain ⟨name, rest, rfl, hname, h⟩ := (ih (front ++ taken) later).1 h
        have hslash : '/' ∉ taken := fun hmem => (covers_notSlash _).1 (htaken _ hmem) rfl
        refine ⟨taken ++ name, rest, (List.append_assoc ..).symm, .anyRun hslash hname, ?_⟩
        rwa [← List.append_assoc]
      · rintro ⟨whole, rest, rfl, hspells, h⟩
        cases hspells with
        | @anyRun _ taken name hslash hname =>
          refine ⟨taken, name ++ rest, List.append_assoc .., ?_, ?_⟩
          · exact fun d hd => (covers_notSlash d).2 fun he => hslash (he ▸ hd)
          · refine (ih (front ++ taken) _).2 ⟨name, rest, rfl, hname, ?_⟩
            rwa [List.append_assoc]
        | char hno => exact absurd rfl hno
    · by_cases hone : c = '?'
      · subst hone
        have hquestion : patternOfChar '?' = notSlash := rfl
        rw [hquestion, isSome_run_notSlash]
        constructor
        · rintro ⟨d, later, rfl, hd, h⟩
          obtain ⟨name, rest, rfl, hname, h⟩ := (ih (front ++ [d]) later).1 h
          refine ⟨d :: name, rest, rfl, .anyOne hd hname, ?_⟩
          rwa [List.append_assoc, List.singleton_append] at h
        · rintro ⟨whole, rest, rfl, hspells, h⟩
          cases hspells with
          | @anyOne _ name d hd hname =>
            refine ⟨d, name ++ rest, rfl, hd, (ih (front ++ [d]) _).2 ⟨name, rest, rfl, hname, ?_⟩⟩
            rwa [List.append_assoc, List.singleton_append]
          | char _ hno => exact absurd rfl hno
      · have hchar : patternOfChar c = .one (.single c) := by
          rw [patternOfChar, if_neg hrun, if_neg hone]
        rw [hchar, run_single]
        constructor
        · intro h
          split at h
          · next hhead =>
            obtain ⟨later, rfl⟩ := List.head?_eq_some_iff.1 hhead
            obtain ⟨name, rest, he, hname, h⟩ := (ih (front ++ [c]) later).1 h
            refine ⟨c :: name, rest, by rw [he]; rfl, .char hrun hone hname, ?_⟩
            rwa [List.append_assoc, List.singleton_append] at h
          · cases h
        · rintro ⟨whole, rest, rfl, hspells, h⟩
          cases hspells with
          | anyRun => exact absurd rfl hrun
          | anyOne => exact absurd rfl hone
          | @char _ name _ _ _ hname =>
            rw [List.cons_append, List.head?_cons, if_pos rfl, List.tail_cons]
            refine (ih (front ++ [c]) _).2 ⟨name, rest, rfl, hname, ?_⟩
            rwa [List.append_assoc, List.singleton_append]

end

/-! ### Paths that a glob takes -/

/-- What may follow a name in a path, or end the path. A newline may come behind the last name. -/
def EndsName (rest : Text) : Prop := rest = [] ∨ rest = ['\n'] ∨ rest.head? = some '/'

theorem isSome_run_end {α : Type} {next : State → Option α}
    (hnext : ∀ s, (next s).isSome = true) (groups : List (Nat × Text)) (front back : Text) :
    ((Pattern.alt slash (.anchor .lastLineEnd)).run ⟨.between front back, groups⟩ next).isSome ↔
      EndsName back := by
  have hslash : (slash.run ⟨.between front back, groups⟩ next).isSome ↔ back.head? = some '/' := by
    rw [slash, run_single]
    by_cases hback : back.head? = some '/' <;> simp [hback, hnext]
  have hholds : Anchor.lastLineEnd.holds (.between front back) = true ↔
      back = [] ∨ back = ['\n'] := by
    have hbool : Anchor.lastLineEnd.holds (.between front back) =
        (back.isEmpty || decide (back = ['\n'])) := rfl
    rw [hbool, Bool.or_eq_true, List.isEmpty_iff, decide_eq_true_eq]
  have hend : ((Pattern.anchor .lastLineEnd).run ⟨.between front back, groups⟩ next).isSome ↔
      back = [] ∨ back = ['\n'] := by
    rw [Pattern.run, ← hholds]
    by_cases hh : Anchor.lastLineEnd.holds (.between front back) = true <;> simp [hh, hnext]
  rw [run_alt, Option.isSome_or, Bool.or_eq_true, hslash, hend, EndsName, or_comm, or_assoc]

/-- A glob of one name at the start of paths. -/
def ofName (glob : Text) : Glob where
  wanted := true
  pattern := .inOrder [.anchor .textStart, .inOrder (glob.map patternOfChar),
    .alt slash (.anchor .lastLineEnd)]

theorem matchAt_inside (ps : List Pattern) (nonEmpty : Bool) {front : Text} (hfront : front ≠ [])
    (back : Text) :
    (Pattern.inOrder (.anchor .textStart :: ps)).matchAt nonEmpty (.between front back) = none := by
  have hstart : Anchor.textStart.holds (.between front back) = false := by
    simp [Anchor.holds, Cursor.between, hfront]
  rw [Pattern.matchAt, run_inOrder_cons, Pattern.run, hstart]
  rfl

theorem firstWithin_inside (ps : List Pattern) (n : Nat) (nonEmpty : Bool) {front : Text}
    (hfront : front ≠ []) (back : Text) :
    (Pattern.inOrder (.anchor .textStart :: ps)).firstWithin n nonEmpty (.between front back) =
      none := by
  induction n generalizing front back nonEmpty with
  | zero => exact matchAt_inside ps nonEmpty hfront back
  | succ n ih =>
    rw [Pattern.firstWithin, matchAt_inside ps nonEmpty hfront]
    cases back with
    | nil => rfl
    | cons c back =>
      rw [Cursor.next_between_cons]
      exact ih false (by simp) back

/-- A pattern that asks for the start of the text is found there or nowhere. -/
theorem firstWithin_start (ps : List Pattern) (n : Nat) (path : Text) :
    (Pattern.inOrder (.anchor .textStart :: ps)).firstWithin n false (.start path) =
      (Pattern.inOrder (.anchor .textStart :: ps)).matchAt false (.start path) := by
  cases n with
  | zero => rfl
  | succ n =>
    rw [Pattern.firstWithin]
    split
    · next m hm => exact hm.symm
    · next hnone =>
      rw [hnone]
      cases path with
      | nil => rfl
      | cons c path => exact firstWithin_inside ps n false (List.cons_ne_nil c []) path

theorem takes_ofName_iff (glob path : Text) :
    (ofName glob).takes path = true ↔
      ∃ name rest, path = name ++ rest ∧ Spells glob name ∧ EndsName rest := by
  let found : State → Option Match := fun s => some ⟨.start path, s.cursor, s.groups⟩
  have htakes : (ofName glob).takes path = true ↔
      ((Pattern.inOrder (glob.map patternOfChar)).run ⟨.between [] path, []⟩ fun t =>
        (Pattern.alt slash (.anchor .lastLineEnd)).run t found).isSome := by
    rw [takes, ofName, firstWithin_start, Pattern.matchAt, run_inOrder_cons]
    rfl
  have hend := isSome_run_end (fun s => (rfl : (found s).isSome = true)) []
  rw [htakes, isSome_run_glob]
  simp only [List.nil_append, hend]

/-! ### Reading a glob -/

/-- What may stand behind a slash for a glob of one name without brackets. -/
structure IsPlain (glob : Text) : Prop where
  nonempty : glob ≠ []
  plain : ∀ c ∈ glob, c ≠ '/' ∧ c ≠ '\\' ∧ c ≠ '['
  /-- White space at the end is not a part of a glob. -/
  untrimmed : ∀ c ∈ glob.getLast?, isBlank c = false

theorem trimmed_eq_self {line : Text} (h : ∀ c ∈ line.getLast?, isBlank c = false) :
    trimmed line = line := by
  unfold trimmed
  split
  · rfl
  · exact trimEnd_of_getLast h

theorem splitOn_slash {glob : Text} (h : IsPlain glob) : splitOn '/' ('/' :: glob) = [[], glob] := by
  have hslash : ∀ c ∈ glob, decide (c = '/') = false :=
    fun c hc => decide_eq_false (h.plain c hc).1
  have hcons : splitWhen (fun c => decide (c = '/')) ('/' :: glob) =
      [] :: splitWhen (fun c => decide (c = '/')) glob := by
    simp [splitWhen]
  rw [splitOn, hcons, splitWhen_of_forall hslash]

theorem segments_eq {glob : Text} (h : IsPlain glob) :
    collapsed (opened (placed [[], glob])) = [glob] := by
  have hopened : opened [glob] = [glob] := by
    simp [opened, h.nonempty]
  rw [placed, hopened, collapsed]
  simp

theorem namePattern_eq {glob : Text} (hone : glob ≠ ['*']) :
    namePattern (glob.map pieceOf) = .ok (.inOrder (glob.map patternOfChar)) := by
  rw [namePattern, mapM_pattern_pieceOf]
  · rfl
  · intro hstar
    obtain ⟨c, rfl, hc⟩ := List.map_eq_singleton_iff.1 hstar
    unfold pieceOf at hc
    split at hc
    · next hrun => exact hone (by rw [hrun])
    · split at hc <;> cases hc

/-- Behind a slash such a text is a glob of one name, unless it is made of one or two stars only. -/
theorem read_eq {glob : Text} (h : IsPlain glob) (hone : glob ≠ ['*']) (htwo : glob ≠ twoStars) :
    read ('/' :: glob) = .ok (some (ofName glob)) := by
  obtain ⟨c, rest, rfl⟩ := List.exists_cons_of_ne_nil h.nonempty
  have htrimmed : trimmed ('/' :: c :: rest) = '/' :: c :: rest := by
    apply trimmed_eq_self
    rw [List.getLast?_cons_cons]
    exact h.untrimmed
  have hread : read ('/' :: c :: rest) =
      ofBody ('/' :: c :: rest) true ('/' :: c :: rest) := by
    rw [read, htrimmed]
    simp
  have hsegment : [c :: rest].mapM segment = .ok [.name ((c :: rest).map pieceOf)] := by
    rw [List.mapM_cons, segment, if_neg htwo, pieces_eq fun d hd => (h.plain d hd).2]
    rfl
  have hpattern : patternOf false [.name ((c :: rest).map pieceOf)] =
      .ok (ofName (c :: rest)).pattern := by
    rw [patternOf, laterPatterns, namePattern_eq hone]
    · rfl
    all_goals simp
  have hlast : decide (([[], c :: rest] : List Text).getLast? = some []) = false := by simp
  rw [hread, ofBody, splitOn_slash h, segments_eq h]
  simp only [List.isEmpty_cons, Bool.false_eq_true, if_false, hsegment, hlast, hpattern]
  rfl

theorem choose_singleton (g : Glob) (hwanted : g.wanted = true) (path : Text) :
    choose [g] path = g.takes path := by
  have hchoose : choose [g] path = if g.takes path then g.wanted else false := rfl
  rw [hchoose, hwanted]
  cases g.takes path <;> rfl

/-- What is chosen by a glob of one name behind a slash. -/
theorem choose_readAll_iff {glob : Text} (h : IsPlain glob) (hone : glob ≠ ['*'])
    (htwo : glob ≠ twoStars) :
    ∃ globs, readAll ['/' :: glob] = .ok globs ∧ ∀ path, choose globs path = true ↔
      ∃ name rest, path = name ++ rest ∧ Spells glob name ∧ EndsName rest := by
  refine ⟨[ofName glob], ?_, ?_⟩
  · rw [readAll, List.mapM_cons, read_eq h hone htwo]
    rfl
  · intro path
    rw [choose_singleton _ rfl, takes_ofName_iff]

end GrammarKit.Glob
