import GrammarKit.Settings.Basic
import Mathlib.Data.List.Nodup

/-!
# What the entries of a map make of the settings

The entries are taken one behind the other: a key that is no setting is reported and passed over, a
value that a setting can have is taken, and the first other value ends it all with an error. So the
settings and the error depend on the entries for settings only, and what is reported is one line for
each other entry up to the error. This is so as far as keys and values can be shown. The report of a key
with too many digits is missing; a value with too many digits ends it all with another error than the
one that is meant, and so does a key or a value that is nested too deeply for the calls that show it.
-/

namespace GrammarKit

open Text

namespace Setting

theorem ofKey?_eq_some_iff {t : Text} {setting : Setting} :
    ofKey? t = some setting ↔ t = setting.key := by
  constructor
  · intro h
    have hkey := List.find?_some h
    exact (of_decide_eq_true hkey).symm
  · rintro rfl
    cases setting <;> rfl

theorem key_injective : Function.Injective key := fun _ _ h =>
  Option.some.inj ((ofKey?_eq_some_iff.2 rfl).symm.trans (ofKey?_eq_some_iff.2 h))

end Setting

/-- An error that says what is wrong with a settings file, and is not itself a failure to say it. -/
def SettingsError.IsRefusal (e : SettingsError) : Prop := e ≠ .unshowable ∧ e ≠ .tooDeep

namespace Settings

/-! ### Entries -/

/-- Whether the key of an entry is one of the settings. -/
def isKnown (entry : Value × Value) : Bool :=
  match entry.1 with
  | .text t => (Setting.all.map Setting.key).contains t
  | _ => false

/-- A text that is not empty. -/
def IsFit (value : Value) : Prop := ∃ t : Text, t ≠ [] ∧ value = .text t

/-- Gives a setting a value that it cannot have. -/
def Offends (entry : Value × Value) : Prop := isKnown entry = true ∧ ¬ IsFit entry.2

/-- One warning for each key that is no setting. -/
def reports (entries : List (Value × Value)) : Log :=
  (entries.filter fun entry => !isKnown entry).map fun entry => unknownKey entry.1

/-- Why the key of an entry cannot be reported; a key that is a setting is not reported at all. -/
def keyFault? (room : Room) (entry : Value × Value) : Option ShowFault :=
  if isKnown entry then none else entry.1.plainFault? room.keys

/-- One warning for each key that is no setting and can be shown. -/
def written (room : Room) (entries : List (Value × Value)) : Log :=
  reports (entries.filter fun entry => (keyFault? room entry).isNone)

/-- The first of the entries that offends, and those in front of it. -/
structure FirstOffence (entries before : List (Value × Value)) (setting : Setting) (value : Value) :
    Prop where
  split : ∃ later, entries = before ++ (.text setting.key, value) :: later
  unfit : ¬ IsFit value
  none_before : ∀ entry ∈ before, ¬ Offends entry

/-- Each setting has the value that the entries give it, and else the one it had. -/
structure Given (s : Settings) (entries : List (Value × Value)) (made : Settings) : Prop where
  taken : ∀ (setting : Setting) value, (.text setting.key, value) ∈ entries →
    value = .text (made.get setting)
  kept : ∀ setting : Setting, (∀ value, (.text setting.key, value) ∉ entries) →
    made.get setting = s.get setting

/-- All values are checked: there are no settings if some entry offends, and then the error shows the
setting and the value of the first that does; else each setting is as given or as usual. What is
reported are the keys that are no settings, up to that entry. -/
structure ChecksEntries (entries : List (Value × Value)) (made : Logged SettingsError Settings) :
    Prop where
  refused_iff : (∃ e, made.result = .error e ∧ e.IsRefusal) ↔ ∃ entry ∈ entries, Offends entry
  first_offence : ∀ before setting value, FirstOffence entries before setting value →
    made.log = reports before ∧ ∃ e, made.result = .error e ∧ e.IsRefusal ∧
      e.message = settingsFile ++ ": '".toList ++ setting.key ++
        "' must be a non-empty string, got ".toList ++ value.shown
  settled : (∀ entry ∈ entries, ¬ Offends entry) →
    made.log = reports entries ∧ ∃ s, made.result = .ok s ∧ Given {} entries s

/-- All that is to be shown can be: the first value that offends, and each key before it that is no
setting. -/
structure AllShown (room : Room) (entries : List (Value × Value)) : Prop where
  value : ∀ before setting value, FirstOffence entries before setting value →
    value.fault? room.values = none
  keys : ∀ before, before <+: entries → (∀ entry ∈ before, ¬ Offends entry) →
    ∀ entry ∈ before, keyFault? room entry = none

/-- Entries that neither offend nor have a key that is nested too deeply to be reported. -/
def PassedOver (room : Room) (entries : List (Value × Value)) : Prop :=
  ∀ entry ∈ entries, ¬ Offends entry ∧ keyFault? room entry ≠ some .tooDeep

/-- How the reading of entries ends: with all of them passed over, at the first that offends, or before
it at a key that is nested too deeply. -/
inductive Ends (room : Room) (entries : List (Value × Value)) : Logged SettingsError Settings → Prop
  | settled {made : Settings} : PassedOver room entries → Given {} entries made →
    Ends room entries ⟨written room entries, .ok made⟩
  | refused {before : List (Value × Value)} {setting : Setting} {value : Value} :
    FirstOffence entries before setting value → PassedOver room before →
    Ends room entries ⟨written room before, .error (refusal room setting value)⟩
  | unreported {before later : List (Value × Value)} {entry : Value × Value} :
    entries = before ++ entry :: later → PassedOver room before →
    keyFault? room entry = some .tooDeep → Ends room entries ⟨written room before, .error .tooDeep⟩

theorem isKnown_iff {entry : Value × Value} :
    isKnown entry = true ↔ ∃ setting : Setting, entry.1 = .text setting.key := by
  obtain ⟨key, value⟩ := entry
  constructor
  · intro h
    cases key with
    | text t =>
      obtain ⟨setting, -, hkey⟩ := List.mem_map.1 (List.contains_iff_mem.1 h)
      exact ⟨setting, congrArg Value.text hkey.symm⟩
    | _ => cases h
  · rintro ⟨setting, rfl⟩
    cases setting <;> rfl

theorem settingOf?_eq_some_iff {key : Value} {setting : Setting} :
    settingOf? key = some setting ↔ key = .text setting.key := by
  cases key with
  | text t => exact Setting.ofKey?_eq_some_iff.trans (Value.text.injEq t setting.key).symm.to_iff
  | _ => exact ⟨nofun, nofun⟩

theorem settingOf?_of_unknown {entry : Value × Value} (h : isKnown entry = false) :
    settingOf? entry.1 = none := by
  refine Option.eq_none_iff_forall_ne_some.2 fun setting hsetting => ?_
  rw [isKnown_iff.2 ⟨setting, settingOf?_eq_some_iff.1 hsetting⟩] at h
  cases h

theorem settable?_eq_some_iff {value : Value} {t : Text} :
    settable? value = some t ↔ t ≠ [] ∧ value = .text t := by
  unfold settable?
  split <;> grind

theorem settable?_of_unfit {value : Value} (h : ¬ IsFit value) : settable? value = none :=
  Option.eq_none_iff_forall_ne_some.2 fun t ht => h ⟨t, settable?_eq_some_iff.1 ht⟩

/-- What an entry can be. -/
inductive EntryKind : Value × Value → Prop where
  | unknown {entry : Value × Value} : isKnown entry = false → EntryKind entry
  | fit (setting : Setting) {t : Text} : t ≠ [] → EntryKind (.text setting.key, .text t)
  | offence (setting : Setting) {value : Value} :
    ¬ IsFit value → EntryKind (.text setting.key, value)

theorem entryKind (entry : Value × Value) : EntryKind entry := by
  cases hknown : isKnown entry with
  | false => exact .unknown hknown
  | true =>
    obtain ⟨key, value⟩ := entry
    obtain ⟨setting, rfl⟩ := isKnown_iff.1 hknown
    by_cases hfit : IsFit value
    · obtain ⟨t, ht, rfl⟩ := hfit
      exact .fit setting ht
    · exact .offence setting hfit

theorem isKnown_key (setting : Setting) (value : Value) :
    isKnown (.text setting.key, value) = true :=
  isKnown_iff.2 ⟨setting, rfl⟩

/-! ### One entry -/

section

variable {room : Room} {s : Settings} {entry : Value × Value} {rest : List (Value × Value)}
  {setting : Setting}

theorem change_cons_unknown (h : isKnown entry = false) :
    change room s (entry :: rest) = passOver room entry.1 (change room s rest) := by
  rw [change, settingOf?_of_unknown h]

theorem not_isKnown_of_keyFault? {fault : ShowFault} (h : keyFault? room entry = some fault) :
    isKnown entry = false := by
  rw [← Bool.not_eq_true]
  intro hknown
  rw [keyFault?, if_pos hknown] at h
  cases h

theorem plainFault?_of_unknown (h : isKnown entry = false) :
    entry.1.plainFault? room.keys = keyFault? room entry := by
  rw [keyFault?, h, if_neg Bool.false_ne_true]

theorem change_cons_fit {t : Text} (h : t ≠ []) :
    change room s ((.text setting.key, .text t) :: rest) = change room (s.set setting t) rest := by
  rw [change, settingOf?_eq_some_iff.2 rfl]
  simp only [settable?_eq_some_iff.2 ⟨h, rfl⟩]

theorem change_cons_offence {value : Value} (h : ¬ IsFit value) :
    change room s ((.text setting.key, value) :: rest) =
      .of (.error (refusal room setting value)) := by
  rw [change, settingOf?_eq_some_iff.2 rfl]
  simp only [settable?_of_unfit h]

theorem keyFault?_key (room : Room) (setting : Setting) (value : Value) :
    keyFault? room (.text setting.key, value) = none := by
  rw [keyFault?, if_pos (isKnown_key setting value)]

theorem reports_cons_unknown (h : isKnown entry = false) :
    reports (entry :: rest) = unknownKey entry.1 :: reports rest := by
  simp [reports, h]

theorem reports_cons_key (value : Value) :
    reports ((.text setting.key, value) :: rest) = reports rest := by
  simp [reports, isKnown_key]

theorem written_cons_shown (h : isKnown entry = false) (hshown : keyFault? room entry = none) :
    written room (entry :: rest) = unknownKey entry.1 :: written room rest := by
  rw [written, List.filter_cons_of_pos (by rw [hshown]; rfl), reports_cons_unknown h, written]

theorem written_cons_fault {fault : ShowFault} (h : keyFault? room entry = some fault) :
    written room (entry :: rest) = written room rest := by
  rw [written, List.filter_cons_of_neg (by rw [h]; exact Bool.false_ne_true), written]

theorem written_cons_key (value : Value) :
    written room ((.text setting.key, value) :: rest) = written room rest := by
  rw [written, List.filter_cons_of_pos (by rw [keyFault?_key]; rfl), reports_cons_key, written]

theorem Given.cons_unknown {made : Settings} (hgiven : Given s rest made)
    (h : isKnown entry = false) : Given s (entry :: rest) made := by
  have hne : ∀ (setting : Setting) value, (.text setting.key, value) ≠ entry := by
    rintro setting value rfl
    exact absurd (isKnown_key setting value) (Bool.eq_false_iff.1 h)
  refine ⟨fun setting value hmem => ?_, fun setting hnone => ?_⟩
  · exact hgiven.taken setting value ((List.mem_cons.1 hmem).resolve_left (hne setting value))
  · exact hgiven.kept setting fun value hmem => hnone value (List.mem_cons_of_mem _ hmem)

theorem Given.cons_fit {made : Settings} {t : Text} (hgiven : Given (s.set setting t) rest made)
    (hnew : ∀ value, (.text setting.key, value) ∉ rest) :
    Given s ((.text setting.key, .text t) :: rest) made := by
  refine ⟨fun other value hmem => ?_, fun other hnone => ?_⟩
  · obtain heq | hmem := List.mem_cons.1 hmem
    · obtain ⟨hkey, rfl⟩ := Prod.mk.inj heq
      obtain rfl := Setting.key_injective (Value.text.inj hkey)
      rw [hgiven.kept other hnew, get_set, if_pos rfl]
    · exact hgiven.taken other value hmem
  · have hne : other ≠ setting := by
      rintro rfl
      exact hnone _ List.mem_cons_self
    rw [hgiven.kept other fun value hmem => hnone value (List.mem_cons_of_mem _ hmem), get_set,
      if_neg hne]

theorem isRefusal_refusal_iff {value : Value} :
    (refusal room setting value).IsRefusal ↔ value.fault? room.values = none := by
  unfold refusal SettingsError.IsRefusal
  cases value.fault? room.values with
  | none => exact ⟨fun _ => rfl, fun _ => ⟨nofun, nofun⟩⟩
  | some fault => cases fault <;> simp

end

/-! ### What is reported -/

section

variable {room : Room} {entries : List (Value × Value)}

theorem written_of_shown (h : ∀ entry ∈ entries, keyFault? room entry = none) :
    written room entries = reports entries := by
  rw [written, List.filter_eq_self.2 fun entry hmem => by rw [h entry hmem]; rfl]

/-- Nothing is missing among the reports exactly if each of the keys can be reported. -/
theorem written_eq_reports_iff :
    written room entries = reports entries ↔ ∀ entry ∈ entries, keyFault? room entry = none := by
  refine ⟨fun hsame => ?_, written_of_shown⟩
  have hlength : ∀ es : List (Value × Value), (written room es).length ≤ (reports es).length := by
    intro es
    rw [written, reports, reports, List.length_map, List.length_map]
    exact (List.filter_sublist.filter _).length_le
  induction entries with
  | nil => exact nofun
  | cons entry rest ih =>
    cases hfault : keyFault? room entry with
    | none =>
      refine List.forall_mem_cons.2 ⟨hfault, ih ?_⟩
      cases hknown : isKnown entry with
      | false =>
        rw [written_cons_shown hknown hfault, reports_cons_unknown hknown] at hsame
        exact (List.cons.inj hsame).2
      | true =>
        obtain ⟨key, value⟩ := entry
        obtain ⟨setting, rfl⟩ := isKnown_iff.1 hknown
        rwa [written_cons_key, reports_cons_key] at hsame
    | some fault =>
      have hshort := hlength rest
      rw [written_cons_fault hfault, reports_cons_unknown (not_isKnown_of_keyFault? hfault)] at hsame
      rw [hsame, List.length_cons] at hshort
      exact absurd hshort (Nat.not_succ_le_self _)

end

/-! ### All entries -/

section

variable {room : Room} {entries before : List (Value × Value)} {setting : Setting} {value : Value}

/-- Entries that are passed over leave settings, and those behind them go on from there. -/
theorem exists_given (hkeys : (before.map Prod.fst).Nodup) (h : PassedOver room before)
    (s : Settings) :
    ∃ made, Given s before made ∧
      ∀ later, change room s (before ++ later) =
        (change room made later).after (written room before) := by
  induction before generalizing s with
  | nil => exact ⟨s, ⟨nofun, fun _ _ => rfl⟩, fun later => rfl⟩
  | cons entry rest ih =>
    have hrest : PassedOver room rest := fun other hmem => h other (List.mem_cons_of_mem entry hmem)
    obtain ⟨hnone, hdeep⟩ := h entry List.mem_cons_self
    obtain ⟨hnew, hdistinct⟩ := List.nodup_cons.1 hkeys
    cases entryKind entry with
    | unknown hunknown =>
      obtain ⟨made, hgiven, hrun⟩ := ih hdistinct hrest s
      refine ⟨made, hgiven.cons_unknown hunknown, fun later => ?_⟩
      rw [List.cons_append, change_cons_unknown hunknown, hrun, passOver,
        plainFault?_of_unknown hunknown]
      cases hfault : keyFault? room entry with
      | none =>
        rw [written_cons_shown hunknown hfault]
        rfl
      | some fault =>
        rw [written_cons_fault hfault]
        cases fault with
        | tooLong => rfl
        | tooDeep => exact absurd hfault hdeep
    | @fit setting t ht =>
      obtain ⟨made, hgiven, hrun⟩ := ih hdistinct hrest (s.set setting t)
      refine ⟨made, hgiven.cons_fit fun value hmem => hnew (List.mem_map.2 ⟨_, hmem, rfl⟩),
        fun later => ?_⟩
      rw [List.cons_append, change_cons_fit ht, hrun, written_cons_key]
    | offence setting hunfit => exact absurd ⟨isKnown_key setting _, hunfit⟩ hnone

/-- The reading ends where a key is nested too deeply. -/
theorem ofEntriesIn_of_tooDeep {entry : Value × Value} {later : List (Value × Value)}
    (hkeys : (entries.map Prod.fst).Nodup) (hsplit : entries = before ++ entry :: later)
    (h : PassedOver room before) (hdeep : keyFault? room entry = some .tooDeep) :
    ofEntriesIn room entries = ⟨written room before, .error .tooDeep⟩ := by
  have hunknown := not_isKnown_of_keyFault? hdeep
  subst hsplit
  rw [List.map_append] at hkeys
  obtain ⟨made, -, hrun⟩ := exists_given hkeys.of_append_left h {}
  rw [ofEntriesIn, hrun, change_cons_unknown hunknown, passOver, plainFault?_of_unknown hunknown,
    hdeep]
  exact congrArg (Logged.mk · _) (List.append_nil _)

/-- The reading ends at the first entry that offends if it comes so far. -/
theorem FirstOffence.ofEntriesIn_eq (hfirst : FirstOffence entries before setting value)
    (hkeys : (entries.map Prod.fst).Nodup) (h : PassedOver room before) :
    ofEntriesIn room entries =
      ⟨written room before, .error (refusal room setting value)⟩ := by
  obtain ⟨later, rfl⟩ := hfirst.split
  rw [List.map_append] at hkeys
  obtain ⟨made, -, hrun⟩ := exists_given hkeys.of_append_left h {}
  rw [ofEntriesIn, hrun, change_cons_offence hfirst.unfit]
  exact congrArg (Logged.mk · _) (List.append_nil _)

theorem exists_ofEntriesIn_of_passedOver (hkeys : (entries.map Prod.fst).Nodup)
    (h : PassedOver room entries) :
    ∃ made, Given {} entries made ∧ ofEntriesIn room entries = ⟨written room entries, .ok made⟩ := by
  obtain ⟨made, hgiven, hrun⟩ := exists_given hkeys h {}
  have hend := hrun []
  rw [List.append_nil] at hend
  refine ⟨made, hgiven, hend.trans ?_⟩
  exact congrArg (Logged.mk · (.ok made)) (List.append_nil _)

/-- Entries that do not offend are passed over, or there is a first key that is nested too deeply. -/
theorem passedOver_or_tooDeep (room : Room) (h : ∀ entry ∈ before, ¬ Offends entry) :
    PassedOver room before ∨ ∃ front entry back, before = front ++ entry :: back ∧
      PassedOver room front ∧ keyFault? room entry = some .tooDeep := by
  induction before with
  | nil => exact .inl nofun
  | cons entry rest ih =>
    obtain ⟨hnone, hrest⟩ := List.forall_mem_cons.1 h
    by_cases hdeep : keyFault? room entry = some .tooDeep
    · exact .inr ⟨[], entry, rest, rfl, nofun, hdeep⟩
    · rcases ih hrest with hpassed | ⟨front, other, back, rfl, hpassed, hother⟩
      · exact .inl (List.forall_mem_cons.2 ⟨⟨hnone, hdeep⟩, hpassed⟩)
      · exact .inr ⟨entry :: front, other, back, rfl,
          List.forall_mem_cons.2 ⟨⟨hnone, hdeep⟩, hpassed⟩, hother⟩

theorem exists_firstOffence (h : ∃ entry ∈ entries, Offends entry) :
    ∃ before setting value, FirstOffence entries before setting value := by
  classical
  obtain ⟨entry, hmem, hoffends⟩ := h
  have hfound : (entries.find? fun entry => decide (Offends entry)).isSome :=
    List.find?_isSome.2 ⟨entry, hmem, decide_eq_true hoffends⟩
  obtain ⟨⟨key, value⟩, hfirst⟩ := Option.isSome_iff_exists.1 hfound
  obtain ⟨hoffence, before, later, hsplit, hbefore⟩ := List.find?_eq_some_iff_append.1 hfirst
  obtain ⟨hknown, hunfit⟩ := of_decide_eq_true hoffence
  obtain ⟨setting, rfl⟩ := isKnown_iff.1 hknown
  exact ⟨before, setting, value, ⟨later, hsplit⟩, hunfit, fun other hother =>
    by simpa using hbefore other hother⟩

/-- What offends is not among entries at the start that do not. -/
theorem FirstOffence.prefix_before (hfirst : FirstOffence entries before setting value)
    {front : List (Value × Value)} (hfront : front <+: entries)
    (h : ∀ entry ∈ front, ¬ Offends entry) : front <+: before := by
  obtain ⟨later, rfl⟩ := hfirst.split
  have hoffends : Offends (.text setting.key, value) := ⟨isKnown_key setting value, hfirst.unfit⟩
  have hwith : before ++ [(.text setting.key, value)] <+:
      before ++ (.text setting.key, value) :: later :=
    ⟨later, by rw [List.append_assoc, List.singleton_append]⟩
  rcases List.prefix_or_prefix_of_prefix hfront hwith with hshort | hlong
  · rcases List.prefix_concat_iff.1 hshort with rfl | hbefore
    · exact absurd hoffends (h _ (List.mem_append_right _ List.mem_cons_self))
    · exact hbefore
  · exact absurd hoffends (h _ (hlong.subset (List.mem_append_right _ List.mem_cons_self)))

theorem ends_ofEntriesIn (room : Room) (hkeys : (entries.map Prod.fst).Nodup) :
    Ends room entries (ofEntriesIn room entries) := by
  by_cases hoffends : ∃ entry ∈ entries, Offends entry
  · obtain ⟨before, setting, value, hfirst⟩ := exists_firstOffence hoffends
    rcases passedOver_or_tooDeep room hfirst.none_before with
      hpassed | ⟨front, entry, back, rfl, hpassed, hdeep⟩
    · rw [hfirst.ofEntriesIn_eq hkeys hpassed]
      exact .refused hfirst hpassed
    · obtain ⟨later, hsplit⟩ := hfirst.split
      rw [List.append_assoc, List.cons_append] at hsplit
      rw [ofEntriesIn_of_tooDeep hkeys hsplit hpassed hdeep]
      exact .unreported hsplit hpassed hdeep
  · have hnone : ∀ entry ∈ entries, ¬ Offends entry :=
      fun entry hmem hentry => hoffends ⟨entry, hmem, hentry⟩
    rcases passedOver_or_tooDeep room hnone with
      hpassed | ⟨front, entry, back, rfl, hpassed, hdeep⟩
    · obtain ⟨made, hgiven, hmade⟩ := exists_ofEntriesIn_of_passedOver hkeys hpassed
      rw [hmade]
      exact .settled hpassed hgiven
    · rw [ofEntriesIn_of_tooDeep hkeys rfl hpassed hdeep]
      exact .unreported rfl hpassed hdeep

/-- Entries for no setting change nothing but the reports, unless one ends the reading. -/
theorem result_change_filter (s : Settings) {entries : List (Value × Value)}
    (h : ∀ entry ∈ entries, keyFault? room entry ≠ some .tooDeep) :
    (change room s (entries.filter isKnown)).result = (change room s entries).result := by
  induction entries generalizing s with
  | nil => rfl
  | cons entry rest ih =>
    obtain ⟨hdeep, hrest⟩ := List.forall_mem_cons.1 h
    cases entryKind entry with
    | unknown hunknown =>
      rw [List.filter_cons_of_neg (Bool.eq_false_iff.1 hunknown), change_cons_unknown hunknown,
        passOver, plainFault?_of_unknown hunknown]
      cases hfault : keyFault? room entry with
      | none => exact ih s hrest
      | some fault =>
        cases fault with
        | tooLong => exact ih s hrest
        | tooDeep => exact absurd hfault hdeep
    | fit setting ht =>
      rw [List.filter_cons_of_pos (isKnown_key setting _), change_cons_fit ht, change_cons_fit ht]
      exact ih _ hrest
    | offence setting hunfit =>
      rw [List.filter_cons_of_pos (isKnown_key setting _), change_cons_offence hunfit,
        change_cons_offence hunfit]

/-! ### When the values are checked as meant -/

theorem AllShown.passedOver (h : AllShown room entries) (hbefore : before <+: entries)
    (hnone : ∀ entry ∈ before, ¬ Offends entry) : PassedOver room before := by
  intro entry hmem
  rw [h.keys before hbefore hnone entry hmem]
  exact ⟨hnone entry hmem, nofun⟩

theorem checksEntries_of_allShown (hkeys : (entries.map Prod.fst).Nodup)
    (h : AllShown room entries) : ChecksEntries entries (ofEntriesIn room entries) := by
  have hrefused : ∀ before setting value, FirstOffence entries before setting value →
      ofEntriesIn room entries = ⟨reports before, .error (.badValue setting.key value)⟩ := by
    intro before setting value hfirst
    obtain ⟨later, hsplit⟩ := hfirst.split
    have hbefore : before <+: entries := ⟨_, hsplit.symm⟩
    rw [hfirst.ofEntriesIn_eq hkeys (h.passedOver hbefore hfirst.none_before),
      written_of_shown (h.keys before hbefore hfirst.none_before), refusal,
      h.value before setting value hfirst]
  have hsettled : (∀ entry ∈ entries, ¬ Offends entry) →
      ∃ made, Given {} entries made ∧ ofEntriesIn room entries = ⟨reports entries, .ok made⟩ := by
    intro hnone
    obtain ⟨made, hgiven, hmade⟩ :=
      exists_ofEntriesIn_of_passedOver hkeys (h.passedOver List.prefix_rfl hnone)
    rw [written_of_shown (h.keys entries List.prefix_rfl hnone)] at hmade
    exact ⟨made, hgiven, hmade⟩
  refine ⟨⟨?_, ?_⟩, ?_, ?_⟩
  · rintro ⟨e, herror, -⟩
    by_contra hnone
    obtain ⟨made, -, hmade⟩ := hsettled fun entry hmem hoffends => hnone ⟨entry, hmem, hoffends⟩
    rw [hmade] at herror
    cases herror
  · intro hoffends
    obtain ⟨before, setting, value, hfirst⟩ := exists_firstOffence hoffends
    rw [hrefused before setting value hfirst]
    exact ⟨_, rfl, nofun, nofun⟩
  · intro before setting value hfirst
    rw [hrefused before setting value hfirst]
    exact ⟨rfl, _, rfl, ⟨nofun, nofun⟩, rfl⟩
  · intro hnone
    obtain ⟨made, hgiven, hmade⟩ := hsettled hnone
    rw [hmade]
    exact ⟨rfl, made, rfl, hgiven⟩

/-- If the reading of entries keeps the promise, it does not end at a key. -/
theorem ChecksEntries.passedOver (hkeys : (entries.map Prod.fst).Nodup)
    (h : ChecksEntries entries (ofEntriesIn room entries)) (hbefore : before <+: entries)
    (hnone : ∀ entry ∈ before, ¬ Offends entry) : PassedOver room before := by
  rcases passedOver_or_tooDeep room hnone with
    hpassed | ⟨front, entry, back, rfl, hpassed, hdeep⟩
  · exact hpassed
  · obtain ⟨later, hsplit⟩ := hbefore
    rw [List.append_assoc, List.cons_append] at hsplit
    rw [ofEntriesIn_of_tooDeep hkeys hsplit.symm hpassed hdeep] at h
    by_cases hoffends : ∃ other ∈ entries, Offends other
    · obtain ⟨e, herror, hrefusal⟩ := h.refused_iff.2 hoffends
      exact absurd (Except.error.inj herror).symm hrefusal.2
    · obtain ⟨-, made, hmade, -⟩ :=
        h.settled fun other hmem hother => hoffends ⟨other, hmem, hother⟩
      cases hmade

theorem allShown_of_checksEntries (hkeys : (entries.map Prod.fst).Nodup)
    (h : ChecksEntries entries (ofEntriesIn room entries)) : AllShown room entries := by
  have hoffence : ∀ before setting value, FirstOffence entries before setting value →
      value.fault? room.values = none ∧ ∀ entry ∈ before, keyFault? room entry = none := by
    intro before setting value hfirst
    obtain ⟨later, hsplit⟩ := hfirst.split
    have hpassed := h.passedOver hkeys ⟨_, hsplit.symm⟩ hfirst.none_before
    obtain ⟨hlog, e, herror, hrefusal, -⟩ := h.first_offence before setting value hfirst
    rw [hfirst.ofEntriesIn_eq hkeys hpassed] at hlog herror
    rw [← Except.error.inj herror] at hrefusal
    exact ⟨isRefusal_refusal_iff.1 hrefusal, written_eq_reports_iff.1 hlog⟩
  refine ⟨fun before setting value hfirst => (hoffence before setting value hfirst).1, ?_⟩
  intro before hbefore hnone entry hmem
  by_cases hoffends : ∃ other ∈ entries, Offends other
  · obtain ⟨front, setting, value, hfirst⟩ := exists_firstOffence hoffends
    exact (hoffence front setting value hfirst).2 entry
      ((hfirst.prefix_before hbefore hnone).subset hmem)
  · have hall : ∀ other ∈ entries, ¬ Offends other :=
      fun other hother hentry => hoffends ⟨other, hother, hentry⟩
    obtain ⟨made, -, hmade⟩ := exists_ofEntriesIn_of_passedOver hkeys
      (h.passedOver hkeys List.prefix_rfl hall)
    have hlog := (h.settled hall).1
    rw [hmade] at hlog
    exact written_eq_reports_iff.1 hlog entry (hbefore.subset hmem)

end

/-- The values of a map are checked as meant exactly if all that is to be shown can be shown, in
whatever room there is: the first value that a setting cannot have, and the keys before it that are no
settings. In any case the reading ends in one of three ways, and the settings and the error depend on
the entries for settings only, unless a key ends the reading. -/
theorem ofEntries_checks_iff (room : Room) {entries : List (Value × Value)}
    (hkeys : (entries.map Prod.fst).Nodup) :
    (ChecksEntries entries (ofEntriesIn room entries) ↔ AllShown room entries) ∧
    Ends room entries (ofEntriesIn room entries) ∧
    ∀ others, others.filter isKnown = entries.filter isKnown →
      (∀ entry ∈ entries ++ others, keyFault? room entry ≠ some .tooDeep) →
      (ofEntriesIn room others).result = (ofEntriesIn room entries).result := by
  refine ⟨⟨allShown_of_checksEntries hkeys, checksEntries_of_allShown hkeys⟩,
    ends_ofEntriesIn room hkeys, fun others hothers hdeep => ?_⟩
  obtain ⟨hentries, hrest⟩ := List.forall_mem_append.1 hdeep
  calc (ofEntriesIn room others).result
      = (ofEntriesIn room (others.filter isKnown)).result := (result_change_filter {} hrest).symm
    _ = (ofEntriesIn room (entries.filter isKnown)).result := by rw [hothers]
    _ = (ofEntriesIn room entries).result := result_change_filter {} hentries

/-- Has keys that are no settings, also one that is no text, and two settings with a value that they
cannot have. -/
def mixedEntries : List (Value × Value) :=
  [(.text "colour".toList, .text "blue".toList), (.text "src_dir".toList, .text "lib".toList),
    (.int 7, .null), (.text "entry_point".toList, .int 42), (.text "shape".toList, .null),
    (.text "encoding".toList, .text [])]

theorem shown_mixedEntries : ∀ entry ∈ mixedEntries,
    keyFault? .usual entry = none ∧ entry.2.fault? Room.usual.values = none := by
  have hint : ∀ (i : Int) (room : Nat), i.natAbs < 100 → (Value.int i).fault? room = none := by
    intro i room hi
    have hlimit : 100 < Nat.pow 10 Numeral.longest := by decide +kernel
    rw [Value.fault?, if_pos (Nat.lt_trans hi hlimit)]
  intro entry hmem
  simp only [mixedEntries, List.mem_cons, List.not_mem_nil, or_false] at hmem
  rcases hmem with rfl | rfl | rfl | rfl | rfl | rfl
  · exact ⟨rfl, rfl⟩
  · exact ⟨rfl, rfl⟩
  · refine ⟨?_, rfl⟩
    rw [keyFault?, if_neg (by decide), Value.plainFault?]
    · exact hint 7 _ (by decide)
    · exact nofun
  · exact ⟨rfl, hint 42 _ (by decide)⟩
  · exact ⟨rfl, rfl⟩
  · exact ⟨rfl, rfl⟩

theorem ofEntries_checks_mixedEntries :
    (mixedEntries.map Prod.fst).Nodup ∧
      FirstOffence mixedEntries (mixedEntries.take 3) .entryPoint (.int 42) ∧
      ChecksEntries mixedEntries (ofEntries mixedEntries) ∧
      (ofEntries (mixedEntries.filter isKnown)).result = (ofEntries mixedEntries).result := by
  have hkeys : (mixedEntries.map Prod.fst).Nodup := by simp [mixedEntries]
  have hfirst : FirstOffence mixedEntries (mixedEntries.take 3) .entryPoint (.int 42) := by
    refine ⟨⟨_, rfl⟩, nofun, ?_⟩
    simp [mixedEntries, Offends, isKnown, IsFit]
  obtain ⟨hchecks, -, hfilter⟩ := ofEntries_checks_iff .usual hkeys
  have hdeep : ∀ entry ∈ mixedEntries, keyFault? .usual entry ≠ some .tooDeep := by
    intro entry hmem
    rw [(shown_mixedEntries entry hmem).1]
    exact nofun
  refine ⟨hkeys, hfirst, hchecks.2 ⟨?_, ?_⟩, hfilter _ (by simp) fun entry hmem => ?_⟩
  · intro before setting value hother
    obtain ⟨later, hsplit⟩ := hother.split
    have hmem : (.text setting.key, value) ∈ mixedEntries := by
      rw [hsplit]
      exact List.mem_append_right _ List.mem_cons_self
    exact (shown_mixedEntries _ hmem).2
  · exact fun before hbefore _ entry hmem => (shown_mixedEntries entry (hbefore.subset hmem)).1
  · rcases List.mem_append.1 hmem with hmem | hmem
    · exact hdeep entry hmem
    · exact hdeep entry (List.mem_of_mem_filter hmem)

/-- Has more decimal digits than can be shown. -/
def longNumber : Int := .ofNat (Nat.pow 16 3600)

def longEntries : List (Value × Value) := [(.text "src_dir".toList, .int longNumber)]

theorem not_ofEntries_checks_longEntries :
    ¬ ∀ entries : List (Value × Value), (entries.map Prod.fst).Nodup →
      ChecksEntries entries (ofEntries entries) := by
  intro hall
  have hkeys : (longEntries.map Prod.fst).Nodup := List.nodup_singleton _
  have hfirst : FirstOffence longEntries [] .srcDir (.int longNumber) := ⟨⟨[], rfl⟩, nofun, nofun⟩
  have hlong : (Value.int longNumber).fault? Room.usual.values = some .tooLong := by
    rw [Value.fault?]
    decide +kernel
  have hshown := (allShown_of_checksEntries hkeys (hall longEntries hkeys)).value _ _ _ hfirst
  rw [hlong] at hshown
  cases hshown

end Settings
end GrammarKit
