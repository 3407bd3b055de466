import GrammarKit.Proofs.HeaderRemoval
import GrammarKit.Proofs.ShorteningTwice

/-!
# What the rules of a build make of a text

The rules of a build take the header away and then shorten what is left. For a table of words they
make some text of every text. What holds of a text and each of its ends, of a name and its code, and
of the whole where it holds of the parts, holds of a text and of what the rules make of it: that all
characters come from the text or from a code is one such relation.
-/

namespace GrammarKit

open Text

namespace AbbreviationTable

variable {table : AbbreviationTable}

/-- A relation between a text and what is made of it that holds of the whole if it holds of the
parts, and that lets the start of the text be cut off. -/
structure Piecewise (R : Text → Text → Prop) : Prop where
  suffix : ∀ {t u}, u <:+ t → R t u
  trans : ∀ {t u v}, R t u → R u v → R t v
  append : ∀ {t u t' u'}, R t u → R t' u' → R (t ++ t') (u ++ u')

/-! ### Relations that hold part by part -/

namespace Piecewise

variable {R : Text → Text → Prop} (hR : Piecewise R)
include hR

theorem refl (t : Text) : R t t := hR.suffix (List.suffix_refl t)

theorem cons (c : Char) {t u : Text} (h : R t u) : R (c :: t) (c :: u) :=
  hR.append (t := [c]) (u := [c]) (hR.refl [c]) h

variable (hcode : ∀ name, R name (table.abbreviate name))
include hcode

theorem shortened (first : Text) (later : List Stretch) :
    R (glue first later) (table.shortened first later) := by
  induction later generalizing first with
  | nil => exact hR.append (hcode first) (hR.refl _)
  | cons s later ih =>
    rw [glue_cons, shortened_cons]
    exact hR.append (hcode first) (hR.cons s.mark (ih s.word))

theorem accessed (first : Text) (later : List Stretch) :
    R (glue first later) (table.accessed first later) := by
  induction later generalizing first with
  | nil =>
    rw [AbbreviationTable.accessed, glue, List.flatMap_nil, List.append_nil]
    exact hR.refl first
  | cons s later ih =>
    have hglue : glue s.word later = s.word ++ glue [] later := rfl
    rw [AbbreviationTable.accessed, glue_cons]
    split
    · rw [hglue]
      exact hR.append (hR.refl first) (hR.cons s.mark (hR.append (hcode s.word) (ih [])))
    · exact hR.append (hR.refl first) (hR.cons s.mark (ih s.word))

theorem exists_shortening (h : table.Plain) (t : Text) :
    ∃ u, Rule.applyAll (Rule.shortening table) t = .ok u ∧ R t u := by
  obtain ⟨first, later, hfirst, rfl⟩ := exists_glue t
  obtain ⟨start, rest, hstart, hrest⟩ := exists_glue (table.accessed first later)
  have haccess := apply_shortenAccess h.wordAccess hfirst later
  have hnames := apply_shortenNames h.names hstart rest
  rw [hrest] at hnames
  refine ⟨table.shortened start rest, ?_, ?_⟩
  · simp only [Rule.shortening, Rule.applyAll, haccess, hnames]
  · have hrelated := hR.shortened hcode start rest
    rw [hrest] at hrelated
    exact hR.trans (hR.accessed hcode first later) hrelated

end Piecewise

/-! ### Where the characters come from -/

/-- Every character of the second text is one of the first text or of a code. -/
def Draws (table : AbbreviationTable) (t u : Text) : Prop :=
  ∀ c ∈ u, c ∈ t ∨ ∃ code ∈ table.codes.values, c ∈ code

theorem Draws.of_subset {t u : Text} (h : u ⊆ t) : table.Draws t u := fun _ hc => Or.inl (h hc)

theorem Draws.trans {t u v : Text} (htu : table.Draws t u) (huv : table.Draws u v) :
    table.Draws t v := by
  intro c hc
  rcases huv c hc with hu | hcode
  · exact htu c hu
  · exact Or.inr hcode

theorem Draws.append {t u t' u' : Text} (h : table.Draws t u) (h' : table.Draws t' u') :
    table.Draws (t ++ t') (u ++ u') := by
  intro c hc
  rcases List.mem_append.1 hc with hc | hc
  · exact (h c hc).imp (List.mem_append_left _) id
  · exact (h' c hc).imp (List.mem_append_right _) id

theorem piecewise_draws : Piecewise table.Draws where
  suffix h := .of_subset h.subset
  trans := Draws.trans
  append := Draws.append

theorem draws_abbreviate (name : Text) : table.Draws name (table.abbreviate name) := by
  by_cases hname : name ∈ table.codes.keys
  · exact fun c hc => Or.inr ⟨_, abbreviate_mem_values hname, hc⟩
  · rw [table.abbreviate_of_not_mem hname]
    exact .of_subset (List.Subset.refl _)

/-- The names, owners and properties of the standard table are words. -/
theorem plain_standard : standard.Plain := by
  have howners : ∀ owner ∈ standard.owners, owner ≠ [] ∧ owner.all isWord = true := by
    decide +kernel
  refine ⟨by decide +kernel, ?_, by decide +kernel, by decide +kernel⟩
  intro owner howner
  obtain ⟨hne, hall⟩ := howners owner howner
  exact ⟨hne, List.all_eq_true.1 hall⟩

end AbbreviationTable

/-- The rules of a build take the header away first, and shorten what is left. -/
theorem transform_eq (strip shorten : Bool) (table : AbbreviationTable) (t : Text) :
    transform strip shorten table t =
      Rule.applyAll (if shorten then Rule.shortening table else [])
        (if strip then Header.strip t else t) := by
  cases strip with
  | false => rfl
  | true =>
    rw [transform, Rule.ofBuild, if_pos rfl, if_pos rfl, List.singleton_append, Rule.applyAll,
      Header.apply_stripHeader]

/-- Whatever relation holds part by part and of every name and its code holds of a text and what the
rules of a build make of it. -/
theorem AbbreviationTable.Piecewise.exists_transform {R : Text → Text → Prop}
    {table : AbbreviationTable} (hR : Piecewise R)
    (hcode : ∀ name, R name (table.abbreviate name)) (h : table.Plain) (strip shorten : Bool)
    (t : Text) : ∃ u, transform strip shorten table t = .ok u ∧ R t u := by
  have hstart : R t (if strip then Header.strip t else t) := by
    cases strip with
    | false => exact hR.refl t
    | true => exact hR.suffix (Header.strip_suffix t)
  rw [transform_eq]
  cases shorten with
  | false => exact ⟨_, rfl, hstart⟩
  | true =>
    obtain ⟨u, hu, hrelated⟩ :=
      hR.exists_shortening hcode h (if strip then Header.strip t else t)
    exact ⟨u, hu, hR.trans hstart hrelated⟩

theorem exists_transform {table : AbbreviationTable} (h : table.Plain) (strip shorten : Bool)
    (t : Text) : ∃ u, transform strip shorten table t = .ok u ∧ table.Draws t u :=
  AbbreviationTable.piecewise_draws.exists_transform AbbreviationTable.draws_abbreviate h strip
    shorten t

end GrammarKit
