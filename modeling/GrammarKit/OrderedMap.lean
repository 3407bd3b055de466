/-!
# Ordered maps

Maps that remember in which order their keys came. A key that comes again keeps its place and
takes the new value.
-/

namespace GrammarKit

/-- Entries with the value of a key replaced, or with the key and its value behind them. -/
def insertEntry {κ α : Type} [DecidableEq κ] (key : κ) (value : α) : List (κ × α) → List (κ × α)
  | [] => [(key, value)]
  | (k, v) :: rest =>
    if k = key then (k, value) :: rest else (k, v) :: insertEntry key value rest

theorem keys_insertEntry {κ α : Type} [DecidableEq κ] (key : κ) (value : α) (es : List (κ × α)) :
    (insertEntry key value es).map (·.1) =
      if key ∈ es.map (·.1) then es.map (·.1) else es.map (·.1) ++ [key] := by
  induction es with
  | nil => simp [insertEntry]
  | cons e es ih =>
    obtain ⟨k, v⟩ := e
    by_cases hk : k = key
    · simp [insertEntry, hk]
    · have hk' : key ≠ k := fun h => hk h.symm
      rw [insertEntry, if_neg hk, List.map_cons, ih]
      by_cases hmem : key ∈ es.map (·.1)
      · rw [if_pos hmem, if_pos (by simpa using Or.inr (by simpa using hmem))]
        rfl
      · rw [if_neg hmem, if_neg (by simpa [hk'] using hmem)]
        rfl

theorem nodup_insertEntry {κ α : Type} [DecidableEq κ] (key : κ) (value : α) (es : List (κ × α))
    (h : (es.map (·.1)).Nodup) : ((insertEntry key value es).map (·.1)).Nodup := by
  rw [keys_insertEntry]
  split
  · exact h
  · next hmem =>
    rw [List.nodup_append]
    refine ⟨h, by simp, ?_⟩
    intro a ha b hb hab
    simp only [List.mem_singleton] at hb
    exact hmem (hb ▸ hab ▸ ha)

/-- A map whose keys have an order. -/
structure OrderedMap (κ α : Type) where
  /-- Keys and values, in order. -/
  entries : List (κ × α)
  nodup : (entries.map (·.1)).Nodup

namespace OrderedMap

variable {κ α : Type} [DecidableEq κ]

/-- The map without keys. -/
def empty : OrderedMap κ α := ⟨[], List.Pairwise.nil⟩

/-- Gives a key a value; a new key comes last. -/
def insert (m : OrderedMap κ α) (key : κ) (value : α) : OrderedMap κ α :=
  ⟨insertEntry key value m.entries, nodup_insertEntry key value m.entries m.nodup⟩

def ofList (es : List (κ × α)) : OrderedMap κ α := es.foldl (fun m (k, v) => m.insert k v) empty

def get? (m : OrderedMap κ α) (key : κ) : Option α := m.entries.lookup key

/-- The keys, in order. -/
def keys (m : OrderedMap κ α) : List κ := m.entries.map (·.1)

/-- The values, in the order of their keys. -/
def values (m : OrderedMap κ α) : List α := m.entries.map (·.2)

def contains (m : OrderedMap κ α) (key : κ) : Bool := (m.get? key).isSome

/-- Gives a key a value unless it has one. -/
def insertIfNew (m : OrderedMap κ α) (key : κ) (value : α) : OrderedMap κ α :=
  if m.contains key then m else m.insert key value

def mapValues {β : Type} (f : α → β) (m : OrderedMap κ α) : OrderedMap κ β :=
  ⟨m.entries.map fun (k, v) => (k, f v), by simpa [Function.comp_def] using m.nodup⟩

/-- The keys that pass a test, with their values. -/
def filterKeys (keep : κ → Bool) (m : OrderedMap κ α) : OrderedMap κ α :=
  ⟨m.entries.filter fun e => keep e.1, m.nodup.sublist (List.filter_sublist.map _)⟩

theorem lookup_cons_ne {key k : κ} {v : α} {es : List (κ × α)} (h : key ≠ k) :
    ((k, v) :: es).lookup key = es.lookup key := by
  have hb : (key == k) = false := by simpa using h
  rw [List.lookup_cons, hb]

theorem get?_insert (m : OrderedMap κ α) (key other : κ) (value : α) :
    (m.insert key value).get? other = if other = key then some value else m.get? other := by
  obtain ⟨es, h⟩ := m
  simp only [get?, insert]
  clear h
  induction es with
  | nil => by_cases ho : other = key <;> simp [insertEntry, ho, lookup_cons_ne]
  | cons e es ih =>
    obtain ⟨k, v⟩ := e
    by_cases hk : k = key
    · subst hk
      by_cases ho : other = k <;> simp [insertEntry, ho, lookup_cons_ne]
    · rw [insertEntry, if_neg hk]
      by_cases ho : other = k
      · subst ho
        simp [hk]
      · rw [lookup_cons_ne ho, lookup_cons_ne ho, ih]

theorem get?_filterKeys (keep : κ → Bool) (m : OrderedMap κ α) (key : κ) :
    (m.filterKeys keep).get? key = if keep key then m.get? key else none := by
  obtain ⟨es, h⟩ := m
  simp only [get?, filterKeys]
  clear h
  induction es with
  | nil => simp
  | cons e es ih =>
    obtain ⟨k, v⟩ := e
    by_cases hk : key = k
    · subst hk
      by_cases hkeep : keep key = true
      · simp [hkeep]
      · rw [List.filter_cons_of_neg (by simpa using hkeep), ih]
        simp [hkeep]
    · by_cases hkeep : keep k = true
      · rw [List.filter_cons_of_pos (by simpa using hkeep), lookup_cons_ne hk, lookup_cons_ne hk, ih]
      · rw [List.filter_cons_of_neg (by simpa using hkeep), lookup_cons_ne hk, ih]

theorem mem_keys_iff (m : OrderedMap κ α) (key : κ) : key ∈ m.keys ↔ (m.get? key).isSome := by
  obtain ⟨es, h⟩ := m
  simp only [keys, get?]
  clear h
  induction es with
  | nil => simp
  | cons e es ih =>
    obtain ⟨k, v⟩ := e
    by_cases hk : key = k
    · subst hk
      simp
    · rw [List.map_cons, List.mem_cons, lookup_cons_ne hk, ← ih]
      simp [hk]

end OrderedMap
end GrammarKit
