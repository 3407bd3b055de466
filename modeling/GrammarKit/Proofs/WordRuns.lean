import GrammarKit.Text.WordChar

/-!
# Cutting a text into runs

The runs of a text make up the text, none is empty, and runs of characters that pass a test
alternate with runs of characters that do not. So the neighbours of a run are of the other kind.
-/

namespace GrammarKit.Text

/-- Runs of which every second one is made of characters that pass the test, and the others of
characters that do not; `kind` says which comes first. -/
def Alternating (p : Char → Bool) : Bool → List Text → Prop
  | _, [] => True
  | kind, run :: later => (run ≠ [] ∧ ∀ c ∈ run, p c = kind) ∧ Alternating p (!kind) later

theorem Alternating.singleton {p : Char → Bool} {run : Text} {kind : Bool} (hne : run ≠ [])
    (hrun : ∀ c ∈ run, p c = kind) : Alternating p kind [run] := ⟨⟨hne, hrun⟩, trivial⟩

theorem alternating_runs_cons (p : Char → Bool) (c : Char) (t : Text) :
    Alternating p (p c) (runs p (c :: t)) := by
  have single : ∀ d ∈ [c], p d = p c := by
    intro d hd
    rw [List.mem_singleton.1 hd]
  induction t generalizing c with
  | nil => exact .singleton (by simp) single
  | cons d rest ih =>
    have hlater := ih d (by
      intro e he
      rw [List.mem_singleton.1 he])
    rw [runs]
    split
    · next e more later hr =>
      rw [hr] at hlater
      have he : p e = p d := hlater.1.2 e List.mem_cons_self
      split
      · next hc =>
        refine ⟨⟨by simp, ?_⟩, ?_⟩
        · intro x hx
          rcases List.mem_cons.1 hx with rfl | hx
          · rfl
          · rw [hlater.1.2 x hx, hc, he]
        · rw [hc, he]
          exact hlater.2
      · next hc =>
        refine ⟨⟨by simp, single⟩, ?_⟩
        have hkind : (!p c) = p d := by
          rw [he] at hc
          cases hpc : p c <;> cases hpd : p d <;> simp_all
        rw [hkind]
        exact hlater
    · next later hr =>
      cases hruns : runs p (d :: rest) with
      | nil =>
        exact .singleton (by simp) single
      | cons run later =>
        rw [hruns] at hlater
        cases run with
        | nil => exact absurd rfl hlater.1.1
        | cons e more => exact absurd hruns (hr e more later)

theorem alternating_runs (p : Char → Bool) (t : Text) : ∃ kind, Alternating p kind (runs p t) := by
  cases t with
  | nil => exact ⟨true, trivial⟩
  | cons c t => exact ⟨p c, alternating_runs_cons p c t⟩

theorem Alternating.length_le {p : Char → Bool} {kind : Bool} {rs : List Text}
    (h : Alternating p kind rs) : rs.length ≤ rs.flatten.length := by
  induction rs generalizing kind with
  | nil => exact Nat.le_refl 0
  | cons run later ih =>
    have hrun : 0 < run.length := List.length_pos_iff.2 h.1.1
    have hlater := ih h.2
    rw [List.length_cons, List.flatten_cons, List.length_append]
    omega

theorem any_getLast {p : Char → Bool} {kind : Bool} {run : Text} (hne : run ≠ [])
    (hrun : ∀ c ∈ run, p c = kind) (front : Text) :
    (front ++ run).getLast?.any p = kind := by
  rw [List.getLast?_append, List.getLast?_eq_some_getLast hne, Option.some_or, Option.any_some]
  exact hrun _ (List.getLast_mem hne)

theorem any_head {p : Char → Bool} {kind : Bool} {run : Text} (hne : run ≠ [])
    (hrun : ∀ c ∈ run, p c = kind) (back : Text) : (run ++ back).head?.any p = kind := by
  cases run with
  | nil => exact absurd rfl hne
  | cons c run => exact hrun c List.mem_cons_self

theorem Alternating.of_mem_head {p : Char → Bool} {kind : Bool} {rs : List Text}
    (h : Alternating p kind rs) : ∀ c ∈ rs.flatten.head?, p c = kind := by
  intro c hc
  cases rs with
  | nil => cases hc
  | cons run later =>
    obtain ⟨d, tail, rfl⟩ := List.exists_cons_of_ne_nil h.1.1
    rw [← Option.some.inj hc]
    exact h.1.2 d List.mem_cons_self

theorem Alternating.head_flatten {p : Char → Bool} {rs : List Text} (h : Alternating p false rs) :
    rs.flatten.head?.any p = false := (Option.any_eq_false _ _).2 h.of_mem_head

/-! ### Runs of a kind -/

theorem filter_any_cons_of_pos {p : Char → Bool} {run : Text} (hne : run ≠ [])
    (hrun : ∀ c ∈ run, p c = true) (later : List Text) :
    (run :: later).filter (fun run => run.any p) = run :: later.filter fun run => run.any p := by
  obtain ⟨c, hc⟩ := List.exists_mem_of_ne_nil run hne
  rw [List.filter_cons, if_pos (List.any_eq_true.2 ⟨c, hc, hrun c hc⟩)]

theorem filter_any_cons_of_neg {p : Char → Bool} {run : Text} (hrun : ∀ c ∈ run, p c = false)
    (later : List Text) :
    (run :: later).filter (fun run => run.any p) = later.filter fun run => run.any p := by
  have hnone : ¬ run.any p = true := by
    rw [List.any_eq_true]
    rintro ⟨c, hc, hpc⟩
    rw [hrun c hc] at hpc
    cases hpc
  rw [List.filter_cons, if_neg hnone]

/-! ### The longest front of a kind -/

theorem takeWhile_append_of_head {p : Char → Bool} {tail rest : Text}
    (htail : ∀ c ∈ tail, p c = true) (hend : ∀ c ∈ rest.head?, p c = false) : (tail ++ rest).takeWhile p = tail := by
  rw [List.takeWhile_append_of_pos htail]
  cases rest with
  | nil => exact List.append_nil tail
  | cons c rest => rw [List.takeWhile_cons_of_neg (by simp [hend c rfl]), List.append_nil]

theorem dropWhile_append_of_head {p : Char → Bool} {tail rest : Text}
    (htail : ∀ c ∈ tail, p c = true) (hend : ∀ c ∈ rest.head?, p c = false) : (tail ++ rest).dropWhile p = rest := by
  have hboth := List.takeWhile_append_dropWhile (p := p) (l := tail ++ rest)
  rw [takeWhile_append_of_head htail hend] at hboth
  exact List.append_cancel_left hboth

theorem eq_false_of_head_dropWhile {p : Char → Bool} (t : Text) :
    ∀ c ∈ (t.dropWhile p).head?, p c = false := by
  intro c hc
  have hhead := List.head?_dropWhile_not p t
  rw [hc] at hhead
  exact hhead

end GrammarKit.Text
