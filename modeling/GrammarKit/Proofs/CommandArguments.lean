import GrammarKit.CommandLine.Command
import GrammarKit.Proofs.NullFreePaths

/-!
# What comes from the arguments of a command

Reading arguments brings in no characters: every word that is read is an argument, and the value of a
switch is an argument, the end of one, or empty.
-/

namespace GrammarKit.CommandLine

open Text

section

variable {σ : Type} {c : Char}

/-- Neither an argument nor the value in it, if it is a switch with one, has the character. -/
def Lacks (c : Char) (arg : Arg σ) : Prop :=
  c ∉ arg.1 ∧ ∀ s name value, arg.2 = .switch s name (some value) → c ∉ value

/-- No value of a switch and no word that was read has the character. -/
structure Reading.Lacks (c : Char) (r : Reading σ) : Prop where
  switches : ∀ found ∈ r.switches, c ∉ found.2
  words : ∀ words, r.words? = some words → ∀ word ∈ words, c ∉ word

/-! ### Telling switches from words -/

namespace Grammar

variable {g : Grammar σ} {t name value : Text} {s : Switch σ}

theorem mem_wordsOf {args : List (Arg σ)} {word : Text} (h : word ∈ wordsOf args) :
    ∃ arg ∈ args, arg.1 = word := by
  obtain ⟨⟨t, item⟩, hmem, he⟩ := List.mem_filterMap.1 h
  cases item <;> cases he
  exact ⟨_, hmem, rfl⟩

theorem skipDashes_suffix (args : List (Arg σ)) : skipDashes args <:+ args := by
  unfold skipDashes
  split
  · exact List.suffix_cons _ _
  · exact List.suffix_rfl

/-- Two dashes are left out before a word that is taken, and behind it. -/
theorem of_skipDashes {args rest : List (Arg σ)} {word : Text} {item : Item σ}
    (h : skipDashes args = (word, item) :: rest) :
    (∀ taken ∈ [word], ∃ arg ∈ args, arg.1 = taken) ∧ skipDashes rest ⊆ args := by
  have hsub : (word, item) :: rest ⊆ args := h ▸ (skipDashes_suffix args).subset
  constructor
  · intro taken htaken
    rw [List.mem_singleton.1 htaken]
    exact ⟨(word, item), hsub List.mem_cons_self, rfl⟩
  · exact List.Subset.trans (skipDashes_suffix rest).subset (List.subset_of_cons_subset hsub)

/-- Whatever the arity, words and arguments left over are among the arguments. -/
theorem of_takeWords {arity : Arity} {args left : List (Arg σ)} {words : List Text}
    (h : takeWords? arity args = some (words, left)) :
    (∀ word ∈ words, ∃ arg ∈ args, arg.1 = word) ∧ left ⊆ args := by
  have hrun : ∀ word ∈ wordsOf (args.takeWhile (·.2.isWordly)), ∃ arg ∈ args, arg.1 = word := by
    intro word hword
    obtain ⟨arg, harg, hword⟩ := mem_wordsOf hword
    exact ⟨arg, (List.takeWhile_prefix _).subset harg, hword⟩
  have hleft : args.dropWhile (·.2.isWordly) ⊆ args := (List.dropWhile_suffix _).subset
  unfold takeWords? at h
  cases arity with
  | none => cases h
  | any =>
    cases h
    exact ⟨hrun, hleft⟩
  | some =>
    dsimp only at h
    split at h
    · cases h
    · cases h
      exact ⟨hrun, hleft⟩
  | command =>
    dsimp only at h
    split at h
    · cases h
    · cases h
      exact ⟨fun word hword => List.mem_map.1 hword, List.nil_subset _⟩
  | one =>
    dsimp only at h
    split at h
    · next t rest hskip =>
      cases h
      exact of_skipDashes hskip
    · cases h
  | optional =>
    dsimp only at h
    split at h
    · next t rest hskip =>
      cases h
      exact of_skipDashes hskip
    · cases h
      exact ⟨nofun, (skipDashes_suffix args).subset⟩

end Grammar

/-! ### Reading -/

namespace Reading

variable {g : Grammar σ} {r later : Reading σ}

theorem Lacks.add {s : Switch σ} {value : Text} (hr : r.Lacks c) (hvalue : c ∉ value)
    (h : r.add s value = .ok later) : later.Lacks c := by
  unfold Reading.add at h
  split at h
  · cases h
  · cases h
    refine ⟨fun found hfound => ?_, hr.words⟩
    rcases List.mem_cons.1 hfound with rfl | hfound
    · exact hvalue
    · exact hr.switches found hfound

theorem Lacks.addAll {found : List (Switch σ × Text)} (hr : r.Lacks c)
    (hfound : ∀ x ∈ found, c ∉ x.2) (h : r.addAll found = .ok later) : later.Lacks c := by
  induction found generalizing r with
  | nil =>
    cases h
    exact hr
  | cons first found ih =>
    obtain ⟨s, value⟩ := first
    unfold Reading.addAll at h
    cases hadd : r.add s value with
    | error e =>
      rw [hadd] at h
      cases h
    | ok next =>
      rw [hadd] at h
      have hnext := hr.add (hfound (s, value) List.mem_cons_self) hadd
      exact ih hnext (fun x hx => hfound x (List.mem_cons_of_mem _ hx)) h

theorem lacks_together {s : Switch σ} {name value : Text} {found : List (Switch σ × Text)}
    (hvalue : c ∉ value) (h : together? g s name value = some found) : ∀ x ∈ found, c ∉ x.2 := by
  induction value generalizing s name found with
  | nil =>
    unfold together? at h
    split at h
    · cases h
      exact fun x hx => List.mem_singleton.1 hx ▸ List.not_mem_nil
    · cases h
  | cons d rest ih =>
    unfold together? at h
    split at h
    · cases h
      exact fun x hx => List.mem_singleton.1 hx ▸ hvalue
    · split at h
      · cases h
      · split at h
        · cases h
        · next following _ =>
          split at h
          · split at h
            · cases h
            · cases h
              simp
          · obtain ⟨others, hothers, h⟩ := Option.map_eq_some_iff.1 h
            rw [← h]
            intro x hx
            rcases List.mem_cons.1 hx with rfl | hx
            · exact List.not_mem_nil
            · exact ih (fun hc => hvalue (List.mem_cons_of_mem _ hc)) hothers x hx

theorem Lacks.leavingOver (hr : r.Lacks c) : ({ r with leftOver := true } : Reading σ).Lacks c :=
  ⟨hr.switches, hr.words⟩

theorem Lacks.readFrom {n : Nat} {args : List (Arg σ)} (hr : r.Lacks c)
    (hargs : ∀ arg ∈ args, CommandLine.Lacks c arg) (h : readFrom g n r args = .ok later) :
    later.Lacks c := by
  fun_induction Reading.readFrom g n r args
  case case1 => exact Except.ok.inj h ▸ hr
  case case2 => exact Except.ok.inj h ▸ hr
  case case3 ih => exact ih hr.leavingOver (List.forall_mem_of_forall_mem_cons hargs) h
  case case4 hfound ih =>
    obtain ⟨next, hadd, h⟩ := exists_of_bind_eq_ok h
    have hvalue := (List.forall_mem_cons.1 hargs).1.2 _ _ _ rfl
    exact ih next (hr.addAll (lacks_together hvalue hfound) hadd)
      (List.forall_mem_of_forall_mem_cons hargs) h
  case case5 => cases h
  case case6 ih =>
    obtain ⟨next, hadd, h⟩ := exists_of_bind_eq_ok h
    obtain ⟨hvalue, hrest⟩ := List.forall_mem_cons.1 (List.forall_mem_of_forall_mem_cons hargs)
    exact ih next (hr.add hvalue.1 hadd) hrest h
  case case7 => cases h
  case case8 ih =>
    obtain ⟨next, hadd, h⟩ := exists_of_bind_eq_ok h
    exact ih next (hr.add List.not_mem_nil hadd) (List.forall_mem_of_forall_mem_cons hargs) h
  case case9 ih => exact ih hr.leavingOver (List.forall_mem_of_forall_mem_cons hargs) h
  case case10 htake ih =>
    obtain ⟨hwords, hleft⟩ := Grammar.of_takeWords htake
    refine ih ⟨hr.switches, ?_⟩ (fun arg harg => hargs arg (hleft harg)) h
    rintro _ ⟨⟩ word hword
    obtain ⟨arg, harg, rfl⟩ := hwords word hword
    exact (hargs arg harg).1
  case case11 ih => exact ih hr.leavingOver (List.forall_mem_of_forall_mem_cons hargs) h

theorem Lacks.value [DecidableEq σ] (hr : r.Lacks c) {id : σ} {value : Text}
    (h : r.value? id = some value) : c ∉ value := by
  obtain ⟨front, rest, hswitches, -⟩ := List.lookup_eq_some_iff.1 h
  exact hr.switches (id, value) (by simp [hswitches])

end Reading

end

/-! ### Commands -/

/-- The paths in a command, which come from its arguments. -/
def Command.paths : Command → List Path
  | .header files => files
  | .shorten file? _ => file?.toList
  | .build _ out _ _ => [out]
  | .filter _ => []
  | .styles _ => []
  | .languages => []
  | .export _ _ _ => []

end GrammarKit.CommandLine
