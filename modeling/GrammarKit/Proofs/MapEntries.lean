import GrammarKit.OrderedMap
import GrammarKit.Proofs.LookUps
import Mathlib.Data.List.Induction
import Mathlib.Data.List.Nodup

/-!
# Entries of ordered maps

A map that is put together from a list holds entries of the list only, and all of them in their
order if no key comes twice. Look-up finds the entries of a map, and no others.
-/

namespace GrammarKit.OrderedMap

variable {κ α : Type} [DecidableEq κ]

theorem mem_insertEntry {key : κ} {value : α} {es : List (κ × α)} {e : κ × α}
    (h : e ∈ insertEntry key value es) : e = (key, value) ∨ e ∈ es := by
  induction es with
  | nil => exact Or.inl (List.mem_singleton.1 h)
  | cons first es ih =>
    obtain ⟨k, v⟩ := first
    unfold insertEntry at h
    split at h
    · next hk =>
      rcases List.mem_cons.1 h with rfl | h
      · exact Or.inl (by rw [hk])
      · exact Or.inr (List.mem_cons_of_mem _ h)
    · rcases List.mem_cons.1 h with rfl | h
      · exact Or.inr List.mem_cons_self
      · exact (ih h).imp id (List.mem_cons_of_mem _)

theorem insertEntry_of_not_mem {key : κ} {es : List (κ × α)} (h : key ∉ es.map (·.1)) (value : α) :
    insertEntry key value es = es ++ [(key, value)] := by
  induction es with
  | nil => rfl
  | cons first es ih =>
    obtain ⟨k, v⟩ := first
    simp only [List.map_cons, List.mem_cons, not_or] at h
    have hk : k ≠ key := fun he => h.1 he.symm
    rw [insertEntry, if_neg hk, ih h.2, List.cons_append]

/-- The entries of a list put into a map one after the other. -/
def insertAll (m : OrderedMap κ α) (es : List (κ × α)) : OrderedMap κ α :=
  es.foldl (fun m (k, v) => m.insert k v) m

theorem mem_of_mem_insertAll {m : OrderedMap κ α} {es : List (κ × α)} {e : κ × α}
    (h : e ∈ (m.insertAll es).entries) : e ∈ m.entries ∨ e ∈ es := by
  induction es generalizing m with
  | nil => exact Or.inl h
  | cons first es ih =>
    rcases ih h with hins | hlater
    · rcases mem_insertEntry hins with rfl | hold
      · exact Or.inr List.mem_cons_self
      · exact Or.inl hold
    · exact Or.inr (List.mem_cons_of_mem _ hlater)

theorem entries_insertAll {m : OrderedMap κ α} {es : List (κ × α)}
    (h : ((m.entries ++ es).map (·.1)).Nodup) : (m.insertAll es).entries = m.entries ++ es := by
  induction es generalizing m with
  | nil => exact (List.append_nil _).symm
  | cons first es ih =>
    obtain ⟨k, v⟩ := first
    have hnew : k ∉ m.entries.map (·.1) := by
      rw [List.map_append, List.nodup_append] at h
      exact fun hk => h.2.2 k hk k (by simp) rfl
    have hinsert : (m.insert k v).entries = m.entries ++ [(k, v)] :=
      insertEntry_of_not_mem hnew v
    have hrest := ih (m := m.insert k v) (by rw [hinsert]; simpa using h)
    rw [hinsert, List.append_assoc, List.singleton_append] at hrest
    exact hrest

theorem mem_of_mem_ofList {es : List (κ × α)} {e : κ × α} (h : e ∈ (ofList es).entries) :
    e ∈ es := by
  rcases mem_of_mem_insertAll (m := empty) h with hnil | hmem
  · cases hnil
  · exact hmem

theorem entries_ofList {es : List (κ × α)} (h : (es.map (·.1)).Nodup) : (ofList es).entries = es :=
  entries_insertAll (m := empty) h

theorem ofList_concat (es : List (κ × α)) (key : κ) (value : α) :
    ofList (es ++ [(key, value)]) = (ofList es).insert key value := by
  rw [ofList, List.foldl_append]
  rfl

theorem keys_insert (m : OrderedMap κ α) (key : κ) (value : α) :
    (m.insert key value).keys = if key ∈ m.keys then m.keys else m.keys ++ [key] :=
  keys_insertEntry key value m.entries

/-- The keys of a map that was put together from a list, in the order in which they first come. -/
theorem keys_ofList [BEq κ] [LawfulBEq κ] (es : List (κ × α)) :
    (ofList es).keys = (es.map (·.1)).eraseDups := by
  induction es using List.reverseRecOn with
  | nil => rfl
  | append_singleton es e ih =>
    obtain ⟨key, value⟩ := e
    have hold : key ∈ (ofList es).keys ↔ key ∈ es.map (·.1) := by
      rw [ih, List.mem_eraseDups]
    rw [ofList_concat, keys_insert, List.map_append, List.map_singleton, List.eraseDups_append, ← ih]
    by_cases hkey : key ∈ es.map (·.1)
    · have hnone : [key].removeAll (es.map (·.1)) = [] := by simp [List.removeAll, hkey]
      rw [if_pos (hold.2 hkey), hnone, List.eraseDups_nil, List.append_nil]
    · have hone : [key].removeAll (es.map (·.1)) = [key] := by simp [List.removeAll, hkey]
      rw [if_neg (mt hold.1 hkey), hone]
      rfl

/-- The value of a key is the one with which the key comes last. -/
theorem get?_ofList (es : List (κ × α)) (key : κ) :
    (ofList es).get? key = es.reverse.lookup key := by
  induction es using List.reverseRecOn with
  | nil => rfl
  | append_singleton es e ih =>
    obtain ⟨k, v⟩ := e
    rw [ofList_concat, get?_insert, ih, List.reverse_concat]
    by_cases hkey : key = k
    · rw [if_pos hkey, hkey, List.lookup_cons_self]
    · rw [if_neg hkey, lookup_cons_ne hkey]

theorem get?_ofList_eq_some_iff (es : List (κ × α)) (key : κ) (value : α) :
    (ofList es).get? key = some value ↔
      ∃ before later, es = before ++ (key, value) :: later ∧ key ∉ later.map (·.1) := by
  rw [get?_ofList, List.lookup_eq_some_iff]
  constructor
  · rintro ⟨later, before, he, hlater⟩
    refine ⟨before.reverse, later.reverse, ?_, ?_⟩
    · rw [← List.reverse_reverse es, he]
      simp
    · rintro hkey
      obtain ⟨e, hmem, rfl⟩ := List.mem_map.1 hkey
      exact absurd rfl (bne_iff_ne.1 (hlater e (List.mem_reverse.1 hmem)))
  · rintro ⟨before, later, rfl, hlater⟩
    refine ⟨later.reverse, before.reverse, by simp, ?_⟩
    intro e hmem
    rw [bne_iff_ne]
    rintro rfl
    exact hlater (List.mem_map_of_mem (List.mem_reverse.1 hmem))

theorem get?_eq_some_iff (m : OrderedMap κ α) (key : κ) (value : α) :
    m.get? key = some value ↔ (key, value) ∈ m.entries := by
  apply lookup_eq_some_iff_mem
  intro key first second hfirst hsecond
  have hsame := List.inj_on_of_nodup_map m.nodup hfirst hsecond rfl
  exact (Prod.mk.inj hsame).2

theorem mem_values_iff (m : OrderedMap κ α) (value : α) :
    value ∈ m.values ↔ ∃ key, m.get? key = some value := by
  simp only [values, List.mem_map, Prod.exists, get?_eq_some_iff]
  constructor
  · rintro ⟨key, found, hmem, rfl⟩
    exact ⟨key, hmem⟩
  · rintro ⟨key, hmem⟩
    exact ⟨key, value, hmem, rfl⟩

end GrammarKit.OrderedMap
