import GrammarKit.FileTree.TextFile

/-!
# What changes in a file tree

Making directories and writing files leaves every directory where it is, so paths that could be
followed before lead to the same places afterwards. Each step changes nothing but the place at the
end of its path.
-/

namespace GrammarKit.FileTree

/-! ### Directories that stay -/

/-- Every directory of the first tree is one of the second, and work is done at the same place. -/
structure Extends (t u : FileTree) : Prop where
  here : u.here = t.here
  directory : ∀ place, t.node? place = some .directory → u.node? place = some .directory

theorem Extends.refl (t : FileTree) : Extends t t := ⟨rfl, fun _ h => h⟩

theorem Extends.trans {t u v : FileTree} (htu : Extends t u) (huv : Extends u v) : Extends t v :=
  ⟨huv.here.trans htu.here, fun place h => huv.directory place (htu.directory place h)⟩

/-- A walk that ends somewhere goes on from a directory, by a name that is not too long. -/
theorem walk_cons_eq_ok_iff {t : FileTree} {place last : Place} {name : Text} {names : List Text} :
    t.walk place (name :: names) = .ok last ↔ t.node? place = some .directory ∧
      ¬ longestName < nameSize name ∧
      t.walk (if name = ['.', '.'] then place.dropLast else place ++ [name]) names = .ok last := by
  rw [walk]
  cases t.node? place with
  | none => simp
  | some node =>
    cases node with
    | file content => simp
    | directory => by_cases hlong : longestName < nameSize name <;> simp [hlong]

theorem walk_of_extends {t u : FileTree} (htu : Extends t u) {place last : Place}
    {names : List Text} (h : t.walk place names = .ok last) : u.walk place names = .ok last := by
  induction names generalizing place with
  | nil => exact h
  | cons name names ih =>
    obtain ⟨hnode, hlong, hrest⟩ := walk_cons_eq_ok_iff.1 h
    exact walk_cons_eq_ok_iff.2 ⟨htu.directory place hnode, hlong, ih hrest⟩

/-- Where the parts of a path lead, its length set aside. -/
def follow (t : FileTree) (p : Path) : Except FileFault Place :=
  t.walk (if p.isAbsolute then [] else t.here) p.parts

theorem follow_of_extends {t u : FileTree} (htu : Extends t u) {p : Path} {place : Place}
    (h : t.follow p = .ok place) : u.follow p = .ok place := by
  unfold follow at h ⊢
  rw [htu.here]
  exact walk_of_extends htu h

theorem follow_of_locate {t : FileTree} {p : Path} {place : Place} (h : t.locate p = .ok place) :
    t.follow p = .ok place := by
  unfold locate at h
  split at h
  · cases h
  · split at h
    · cases h
    · exact h

theorem locate_of_extends {t u : FileTree} (htu : Extends t u) {p : Path} {place : Place}
    (h : t.locate p = .ok place) : u.locate p = .ok place := by
  have hfollow := follow_of_extends htu (follow_of_locate h)
  unfold locate at h ⊢
  split at h
  · cases h
  · next hnull =>
    split at h
    · cases h
    · next hlong =>
      rw [if_neg hnull, if_neg hlong]
      exact hfollow

theorem find_of_extends {t u : FileTree} (htu : Extends t u) {p : Path} {place : Place}
    (h : t.locate p = .ok place) (hsame : u.node? place = t.node? place) :
    u.find p = t.find p := by
  rw [find, find, locate_of_extends htu h, h]
  simp only [hsame]

/-! ### The last part of a path -/

theorem walk_append (t : FileTree) (place : Place) (names more : List Text) :
    t.walk place (names ++ more) =
      match t.walk place names with
      | .ok middle => t.walk middle more
      | .error fault => .error fault := by
  induction names generalizing place with
  | nil => rfl
  | cons name names ih =>
    rw [List.cons_append, walk, walk]
    cases t.node? place with
    | none => rfl
    | some node =>
      cases node with
      | file content => rfl
      | directory =>
        dsimp only
        split
        · rfl
        · exact ih _

theorem isName_ne_dots {name : Text} (h : isName name = true) : name ≠ ['.', '.'] := by
  rintro rfl
  exact absurd h (by decide)

theorem follow_child {t : FileTree} {p : Path} {name : Text} {place : Place}
    (hname : isName name = true) (h : t.follow (p.child name) = .ok place) :
    ∃ dir, t.follow p = .ok dir ∧ t.node? dir = some .directory ∧ place = dir ++ [name] := by
  have hwalk : t.walk (if p.isAbsolute then [] else t.here) (p.parts ++ [name]) = .ok place := h
  rw [walk_append] at hwalk
  split at hwalk
  · next dir hdir =>
    obtain ⟨hnode, -, hend⟩ := walk_cons_eq_ok_iff.1 hwalk
    rw [if_neg (isName_ne_dots hname)] at hend
    exact ⟨dir, hdir, hnode, (Except.ok.inj hend).symm⟩
  · cases hwalk

theorem all_isName_of_node {t : FileTree} {place : Place} {node : Node}
    (h : t.node? place = some node) : place.all isName = true := by
  by_cases hroot : place = []
  · rw [hroot]
    rfl
  · unfold node? nodeAt at h
    rw [if_neg hroot] at h
    have hkey : place ∈ t.nodes.keys := by
      rw [OrderedMap.mem_keys_iff, h]
      rfl
    exact (t.named place hkey).2

theorem free_child {t : FileTree} {dir : Place} {name : Text} (hname : isName name = true)
    (hdir : t.node? dir = some .directory) (hnode : t.node? (dir ++ [name]) ≠ some .directory) :
    t.Free (dir ++ [name]) := by
  refine ⟨by simp, ?_, ?_, hnode⟩
  · rw [List.all_append, all_isName_of_node hdir]
    simpa using hname
  · rw [List.dropLast_concat]
    exact hdir

theorem extends_put {t : FileTree} {place : Place} (h : t.node? place ≠ some .directory)
    (node : Node) : Extends t (t.put place node) := by
  by_cases hfree : t.Free place
  · refine ⟨?_, ?_⟩
    · rw [put, dif_pos hfree]
    · intro other hother
      rw [node?_put hfree, if_neg, hother]
      rintro rfl
      exact h hother
  · rw [put, dif_neg hfree]
    exact .refl t

/-! ### Writing files -/

/-- The file at the end of a path has the given content, and nothing else has changed. -/
structure Wrote (t : FileTree) (p : Path) (content : Bytes) (u : FileTree) : Prop where
  kept : Extends t u
  found : u.find p = .ok (.file content)
  others : ∀ place, u.locate p ≠ .ok place → u.node? place = t.node? place

theorem wrote_of_writeFile {t u : FileTree} {p : Path} {name : Text} {content : Bytes}
    (hname : isName name = true) (h : t.writeFile (p.child name) content = .ok u) :
    Wrote t (p.child name) content u := by
  unfold writeFile at h
  split at h
  · cases h
  · next place hlocate =>
    split at h
    · cases h
    · next hnode =>
      obtain ⟨dir, -, hdir, rfl⟩ := follow_child hname (follow_of_locate hlocate)
      have hplace : t.node? (dir ++ [name]) ≠ some .directory := by
        simpa [isDirectoryAt] using hnode
      have hfree := free_child hname hdir hplace
      rw [← Except.ok.inj h]
      have hkept : Extends t (t.put (dir ++ [name]) (.file content)) := extends_put hplace _
      have hend := locate_of_extends hkept hlocate
      refine ⟨hkept, ?_, ?_⟩
      · rw [find, hend]
        simp only [node?_put hfree, if_true]
      · intro other hother
        rw [node?_put hfree, if_neg]
        rintro rfl
        exact hother hend

theorem Wrote.exists_place {t u : FileTree} {p : Path} {content : Bytes} (h : Wrote t p content u) :
    ∃ place, u.locate p = .ok place := by
  have hfound := h.found
  unfold find at hfound
  split at hfound
  · cases hfound
  · next place hlocate => exact ⟨place, hlocate⟩

theorem writeFile_of_writeText {t u : FileTree} {p : Path} {encoding text : Text}
    (h : t.writeText p encoding text = (u, .ok ())) :
    ∃ bytes, encodeAs encoding text = .ok bytes ∧ t.writeFile p bytes = .ok u := by
  unfold writeText at h
  split at h
  · cases h
  · split at h
    · cases h
    · split at h
      · cases h
      · next bytes hbytes =>
        split at h
        · cases h
        · next later hwrite =>
          rw [← (Prod.mk.inj h).1]
          exact ⟨bytes, hbytes, hwrite⟩

/-! ### Making directories -/

/-- The second tree has the first one in it, and what is new are directories on the way along a
path. -/
structure MadeAlong (p : Path) (t u : FileTree) : Prop where
  here : u.here = t.here
  place : ∀ place, u.node? place = t.node? place ∨
    (t.node? place = none ∧ u.node? place = some .directory ∧ ∃ k, u.locate (p.upTo k) = .ok place)

theorem MadeAlong.refl (p : Path) (t : FileTree) : MadeAlong p t t := ⟨rfl, fun _ => Or.inl rfl⟩

theorem MadeAlong.extends {p : Path} {t u : FileTree} (h : MadeAlong p t u) : Extends t u := by
  refine ⟨h.here, ?_⟩
  intro place hdir
  rcases h.place place with hsame | ⟨-, hnew, -⟩
  · rw [hsame, hdir]
  · exact hnew

theorem MadeAlong.trans {p : Path} {t u v : FileTree} (htu : MadeAlong p t u)
    (huv : MadeAlong p u v) : MadeAlong p t v := by
  refine ⟨huv.here.trans htu.here, ?_⟩
  intro place
  rcases huv.place place with hsame | ⟨hnone, hdir, hk⟩
  · rw [hsame]
    rcases htu.place place with hold | ⟨hnone, hdir, k, hk⟩
    · exact Or.inl hold
    · exact Or.inr ⟨hnone, hdir, k, locate_of_extends huv.extends hk⟩
  · rcases htu.place place with hold | ⟨-, hmade, -⟩
    · exact Or.inr ⟨hold ▸ hnone, hdir, hk⟩
    · rw [hmade] at hnone
      cases hnone

theorem madeAlong_makeDirectory {t u : FileTree} {p : Path} {k : Nat}
    (h : t.makeDirectory (p.upTo k) = .ok u) : MadeAlong p t u := by
  unfold makeDirectory at h
  split at h
  · cases h
  · next place hlocate =>
    split at h
    · cases h
    · next hnone =>
      rw [← Except.ok.inj h]
      have hplace : t.node? place ≠ some .directory := by
        rw [hnone]
        simp
      have hend := locate_of_extends (extends_put hplace .directory) hlocate
      by_cases hfree : t.Free place
      · refine ⟨by rw [put, dif_pos hfree], ?_⟩
        intro other
        by_cases hother : other = place
        · rw [hother]
          exact Or.inr ⟨hnone, by rw [node?_put hfree, if_pos rfl], k, hend⟩
        · exact Or.inl (by rw [node?_put hfree, if_neg hother])
      · rw [put, dif_neg hfree]
        exact .refl p t

theorem madeAlong_ensureDirectory (t : FileTree) (p : Path) (k : Nat) :
    MadeAlong p t (t.ensureDirectory (p.upTo k)).1 := by
  unfold ensureDirectory
  split
  · next later hmake => exact madeAlong_makeDirectory hmake
  · exact .refl p t

theorem madeAlong_makeFirst (t : FileTree) (p : Path) (n : Nat) :
    MadeAlong p t (t.makeFirst p n).1 := by
  induction n with
  | zero => exact madeAlong_ensureDirectory t p 0
  | succ n ih =>
    unfold makeFirst
    split
    · split
      · next later hfirst =>
        rw [hfirst] at ih
        exact ih.trans (madeAlong_ensureDirectory later p (n + 1))
      · exact ih
    · exact madeAlong_ensureDirectory t p (n + 1)

theorem madeAlong_makeDirectories (t : FileTree) (p : Path) :
    MadeAlong p t (t.makeDirectories p).1 := madeAlong_makeFirst t p p.parts.length

end GrammarKit.FileTree
