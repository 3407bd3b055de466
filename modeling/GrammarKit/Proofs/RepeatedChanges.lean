import GrammarKit.Proofs.FilesBelow

/-!
# Changes that are made again

A file that has its content is left as it is when this is written once more, and a directory that
was made is there when it is made once more, so the tree does not change then, not even in its order.
-/

namespace GrammarKit

namespace OrderedMap

variable {κ α : Type} [DecidableEq κ]

theorem insertEntry_of_lookup {key : κ} {value : α} {es : List (κ × α)}
    (h : es.lookup key = some value) : insertEntry key value es = es := by
  induction es with
  | nil => cases h
  | cons e es ih =>
    obtain ⟨k, v⟩ := e
    by_cases hk : k = key
    · rw [hk, List.lookup_cons_self] at h
      rw [insertEntry, if_pos hk, Option.some.inj h]
    · rw [lookup_cons_ne (Ne.symm hk)] at h
      rw [insertEntry, if_neg hk, ih h]

theorem insert_of_get? {m : OrderedMap κ α} {key : κ} {value : α} (h : m.get? key = some value) :
    m.insert key value = m := by
  obtain ⟨es, hes⟩ := m
  simp only [insert, OrderedMap.mk.injEq]
  exact insertEntry_of_lookup h

end OrderedMap

namespace FileTree

variable {t w : FileTree} {p : Path}

/-! ### Files -/

theorem put_of_node {place : Place} {node : Node} (h : t.node? place = some node) :
    t.put place node = t := by
  unfold put
  split
  · next hfree =>
    have hentry : t.nodes.get? place = some node := by
      rw [← h, node?, nodeAt, if_neg hfree.1]
    have hnodes := OrderedMap.insert_of_get? hentry
    obtain ⟨nodes, here, named, rooted⟩ := t
    simp only [FileTree.mk.injEq, and_true]
    exact hnodes
  · rfl

theorem writeFile_of_node {place : Place} {found : Bytes} (hplace : t.locate p = .ok place)
    (hnode : t.node? place = some (.file found)) (content : Bytes) :
    t.writeFile p content = .ok (t.put place (.file content)) := by
  have hdirectory : ¬ t.isDirectoryAt place = true := by simp [isDirectoryAt, hnode]
  rw [writeFile, hplace]
  exact if_neg hdirectory

theorem writeText_of_find {encoding text : Text} {bytes : Bytes} (hnull : '\x00' ∉ encoding)
    (hbytes : encodeAs encoding text = .ok bytes) (h : t.find p = .ok (.file bytes)) :
    t.writeText p encoding text = (t, .ok ()) := by
  obtain ⟨place, hplace, hnode⟩ := find_eq_ok_iff.1 h
  have hcontains : ¬ encoding.contains '\x00' = true := by rwa [List.contains_iff_mem]
  rw [writeText, if_neg hcontains]
  simp only [writeFile_of_node hplace hnode, hbytes, put_of_node hnode]

/-! ### Directories -/

theorem ensureDirectory_of_node {place : Place} (hplace : t.locate p = .ok place)
    (hnode : t.node? place = some .directory) : t.ensureDirectory p = (t, .ok ()) := by
  have hdirectory : t.isDirectory p = true :=
    isDirectory_eq_true_iff.2 ⟨place, hplace, decide_eq_true hnode⟩
  simp only [ensureDirectory, makeDirectory, hplace, hnode, hdirectory, if_true]

theorem ensureDirectory_again (h : t.ensureDirectory p = (w, .ok ())) :
    w.ensureDirectory p = (w, .ok ()) := by
  unfold ensureDirectory at h
  split at h
  · next later hmake =>
    obtain rfl : later = w := (Prod.mk.inj h).1
    have hmade := hmake
    unfold makeDirectory at hmade
    split at hmade
    · cases hmade
    · next place hplace =>
      split at hmade
      · cases hmade
      · next hnone =>
        obtain rfl := Except.ok.inj hmade
        by_cases hfree : t.Free place
        · have hkept : Extends t (t.put place .directory) := extends_put hfree.2.2.2 _
          refine ensureDirectory_of_node (locate_of_extends hkept hplace) ?_
          rw [node?_put hfree, if_pos rfl]
        · -- nothing was put, so this is the same step in the same tree
          have hsame : t.put place .directory = t := by rw [put, dif_neg hfree]
          rw [hsame] at hmake ⊢
          rw [ensureDirectory, hmake]
  · next fault hmake =>
    obtain ⟨rfl, hresult⟩ := Prod.mk.inj h
    rw [ensureDirectory, hmake]
    simp only [hresult]

/-- Where a directory can be had in one step, none has to be made before it. -/
theorem makeFirst_eq_ensureDirectory {n : Nat} (h : t.ensureDirectory (p.upTo n) = (t, .ok ())) :
    t.makeFirst p n = (t, .ok ()) := by
  cases n with
  | zero => exact h
  | succ n =>
    unfold makeFirst
    split
    · next hmissing =>
      have hno : t.isDirectory (p.upTo (n + 1)) = false := by
        rw [← Bool.not_eq_true, isDirectory_eq_true_iff]
        rintro ⟨place, hplace, -⟩
        unfold makeDirectory at hmissing
        rw [hplace] at hmissing
        dsimp only at hmissing
        split at hmissing <;> cases hmissing
      rw [ensureDirectory, hmissing, hno] at h
      cases (Prod.mk.inj h).2
    · exact h

theorem ensureDirectory_of_makeFirst {n : Nat} (h : t.makeFirst p n = (w, .ok ())) :
    w.ensureDirectory (p.upTo n) = (w, .ok ()) := by
  cases n with
  | zero => exact ensureDirectory_again h
  | succ n =>
    unfold makeFirst at h
    split at h
    · split at h
      · exact ensureDirectory_again h
      · next failed hfailed =>
        -- the directories before it were not made
        cases hfirst : t.makeFirst p n with
        | mk later result =>
          cases result with
          | ok _ => exact absurd hfirst (hfailed later)
          | error cause =>
            rw [hfirst] at h
            cases (Prod.mk.inj h).2
    · exact ensureDirectory_again h

theorem makeDirectories_again (h : t.makeDirectories p = (w, .ok ())) :
    w.makeDirectories p = (w, .ok ()) :=
  makeFirst_eq_ensureDirectory (ensureDirectory_of_makeFirst h)

theorem makeDirectories_of_node {place : Place} (hplace : t.locate p = .ok place)
    (hnode : t.node? place = some .directory) : t.makeDirectories p = (t, .ok ()) := by
  apply makeFirst_eq_ensureDirectory
  have hwhole : p.upTo p.parts.length = p := by rw [Path.upTo, List.take_length]
  rw [hwhole]
  exact ensureDirectory_of_node hplace hnode

end FileTree
end GrammarKit
