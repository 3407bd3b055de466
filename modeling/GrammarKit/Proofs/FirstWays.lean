import GrammarKit.Proofs.Repetition
import GrammarKit.Proofs.WordRuns

/-!
# The first way to match

A pattern tries its ways to match in a fixed order, and the first one counts if what follows fits
behind it. What a pattern takes on its first way is put together from what its parts take on theirs;
an alternative or an option comes second where the one before it does not match at all.
-/

namespace GrammarKit.Regex

open Text

namespace Pattern

/-- In front of `taken` and `rest`, the first way to match takes `taken`: it is the one that counts if
what follows fits behind it. -/
def TakesFirst (p : Pattern) (front taken rest : Text) : Prop :=
  ∀ ⦃α : Type⦄ (next : State → Option α) (groups : List (Nat × Text)),
    (∀ later, (next ⟨.between (front ++ taken) rest, later⟩).isSome = true) →
    ∃ later, p.run ⟨.between front (taken ++ rest), groups⟩ next =
      next ⟨.between (front ++ taken) rest, later⟩

/-- There is no way to match between `front` and `back`. -/
def Refuses (p : Pattern) (front back : Text) : Prop :=
  ∀ ⦃α : Type⦄ (next : State → Option α) (groups : List (Nat × Text)),
    p.run ⟨.between front back, groups⟩ next = none

variable {p q : Pattern} {set : CharSet} {front back taken more rest : Text} {c : Char}

/-! ### Characters and places -/

theorem takesFirst_one (h : set.covers c = true) : (one set).TakesFirst front [c] rest := by
  intro α next groups _
  exact ⟨groups, by rw [List.singleton_append, run_one_cons, if_pos h]⟩

theorem refuses_one (h : ∀ c ∈ back.head?, set.covers c = false) : (one set).Refuses front back := by
  intro α next groups
  cases back with
  | nil => exact run_one_nil groups set front
  | cons c back => rw [run_one_cons, h c rfl, if_neg Bool.false_ne_true]

theorem takesFirst_wordBoundary (h : isBoundary front back = true) :
    (anchor .wordBoundary).TakesFirst front [] back := by
  intro α next groups _
  exact ⟨groups, by rw [List.nil_append, List.append_nil, run_wordBoundary, if_pos h]⟩

/-! ### Parts -/

theorem TakesFirst.seq (hp : p.TakesFirst front taken (more ++ rest))
    (hq : q.TakesFirst (front ++ taken) more rest) :
    (Pattern.seq p q).TakesFirst front (taken ++ more) rest := by
  intro α next groups hnext
  rw [← List.append_assoc] at hnext
  have hq' : ∀ later, ∃ last, q.run ⟨.between (front ++ taken) (more ++ rest), later⟩ next =
      next ⟨.between (front ++ taken ++ more) rest, last⟩ := fun later => hq next later hnext
  obtain ⟨later, hlater⟩ := hp (fun t => q.run t next) groups fun later => by
    obtain ⟨last, hlast⟩ := hq' later
    rw [hlast]
    exact hnext last
  obtain ⟨last, hlast⟩ := hq' later
  refine ⟨last, ?_⟩
  rw [Pattern.run, List.append_assoc, hlater, hlast, List.append_assoc]

theorem Refuses.seq (hp : p.Refuses front back) (q : Pattern) :
    (Pattern.seq p q).Refuses front back := by
  intro α next groups
  rw [Pattern.run, hp]

theorem refuses_one_seq
    (h : ∀ c rest, back = c :: rest → set.covers c = true → q.Refuses (front ++ [c]) rest) :
    (Pattern.seq (one set) q).Refuses front back := by
  intro α next groups
  rw [Pattern.run]
  cases back with
  | nil => exact run_one_nil groups set front
  | cons c rest =>
    rw [run_one_cons]
    split
    · next hc => exact h c rest rfl hc next groups
    · rfl

theorem TakesFirst.group (h : p.TakesFirst front taken rest) (number : Nat) :
    (Pattern.group number p).TakesFirst front taken rest := by
  intro α next groups hnext
  obtain ⟨later, hlater⟩ := h (fun t => next { t with groups :=
    (number, (Cursor.between front (taken ++ rest)).upTo t.cursor) :: t.groups }) groups
    fun later => hnext _
  exact ⟨_, hlater⟩

theorem Refuses.group (h : p.Refuses front back) (number : Nat) :
    (Pattern.group number p).Refuses front back := by
  intro α next groups
  rw [Pattern.run, h]

/-! ### Choices -/

theorem TakesFirst.alt (h : p.TakesFirst front taken rest) (q : Pattern) :
    (Pattern.alt p q).TakesFirst front taken rest := by
  intro α next groups hnext
  obtain ⟨later, hlater⟩ := h next groups hnext
  refine ⟨later, ?_⟩
  rw [run_alt, hlater]
  exact Option.or_of_isSome (hnext later)

theorem Refuses.alt (hp : p.Refuses front (taken ++ rest)) (hq : q.TakesFirst front taken rest) :
    (Pattern.alt p q).TakesFirst front taken rest := by
  intro α next groups hnext
  obtain ⟨later, hlater⟩ := hq next groups hnext
  exact ⟨later, by rw [run_alt, hp, Option.none_or, hlater]⟩

theorem TakesFirst.optional (h : p.TakesFirst front taken rest) :
    (Pattern.optional p).TakesFirst front taken rest := by
  intro α next groups hnext
  obtain ⟨later, hlater⟩ := h next groups hnext
  refine ⟨later, ?_⟩
  rw [run_optional, hlater]
  exact Option.or_of_isSome (hnext later)

theorem Refuses.optional (h : p.Refuses front back) : (Pattern.optional p).TakesFirst front [] back := by
  intro α next groups _
  exact ⟨groups, by rw [run_optional, List.nil_append, List.append_nil, h, Option.none_or]⟩

theorem refuses_optional_one_seq (hq : q.Refuses front back)
    (h : ∀ c rest, back = c :: rest → set.covers c = true → q.Refuses (front ++ [c]) rest) :
    (Pattern.seq (Pattern.optional (one set)) q).Refuses front back := by
  intro α next groups
  have hone : (one set).run ⟨.between front back, groups⟩ (fun t => q.run t next) = none :=
    refuses_one_seq h next groups
  rw [Pattern.run, run_optional, hone, Option.none_or, hq]

/-! ### Repetition -/

theorem takesFirst_many_one (h : ∀ c ∈ taken, set.covers c = true)
    (hrest : ∀ c ∈ rest.head?, set.covers c = false) :
    (many (one set)).TakesFirst front taken rest := by
  intro α next groups hnext
  have htaken : (taken ++ rest).takeWhile set.covers = taken := takeWhile_append_of_head h hrest
  have hleft : (taken ++ rest).dropWhile set.covers = rest := dropWhile_append_of_head h hrest
  refine ⟨groups, ?_⟩
  rw [run_many_one_of_fits, htaken, hleft]
  rw [htaken, hleft]
  exact hnext groups

theorem run_many1 {α : Type} (s : State) (next : State → Option α) :
    (many1 p).run s next = (Pattern.seq p (many p)).run s next := rfl

theorem takesFirst_many1_one (hne : taken ≠ []) (h : ∀ c ∈ taken, set.covers c = true)
    (hrest : ∀ c ∈ rest.head?, set.covers c = false) :
    (many1 (one set)).TakesFirst front taken rest := by
  obtain ⟨c, taken, rfl⟩ := List.exists_cons_of_ne_nil hne
  obtain ⟨hc, htaken⟩ := List.forall_mem_cons.1 h
  intro α next groups hnext
  rw [run_many1]
  exact (takesFirst_one hc).seq (takesFirst_many_one htaken hrest) next groups hnext

theorem refuses_many1_one (h : ∀ c ∈ back.head?, set.covers c = false) :
    (many1 (one set)).Refuses front back := by
  intro α next groups
  rw [run_many1]
  exact (refuses_one h).seq _ next groups

/-! ### Matches -/

theorem TakesFirst.matchAt (h : p.TakesFirst front taken rest) :
    ∃ groups, p.matchAt false (.between front (taken ++ rest)) =
      some ⟨.between front (taken ++ rest), .between (front ++ taken) rest, groups⟩ := by
  obtain ⟨groups, hmatch⟩ := h (fun s =>
    some (Match.mk (.between front (taken ++ rest)) s.cursor s.groups)) [] fun _ => rfl
  exact ⟨groups, hmatch⟩

end Pattern
end GrammarKit.Regex
