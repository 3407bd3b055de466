import GrammarKit.CommandLine.Run
import GrammarKit.Proofs.BuildEncoding
import GrammarKit.Proofs.Collecting
import GrammarKit.Proofs.MissingMarks
import GrammarKit.Proofs.NullFreePaths

/-!
# Errors that are reported

An error is reported if it has a message for whoever gave the command. Steps one behind the other
report their errors exactly if each of them does where it is reached. Files are used without an error
that is not reported unless a path has a null character in it; to read them as text, their encoding
has to be known and must not ask for a mark that is not there.
-/

namespace GrammarKit.CommandLine

open Text

/-- Whatever goes wrong is reported. -/
def Reported {ε α : Type} (message? : ε → Option Text) (r : Except ε α) : Prop :=
  ∀ e, r = .error e → (message? e).isSome = true

section

variable {ε δ α β : Type} {message? : ε → Option Text}

theorem reported_ok (a : α) : Reported message? (.ok a) := by
  intro e h
  cases h

theorem reported_error_iff {e : ε} :
    Reported message? (.error e : Except ε α) ↔ (message? e).isSome = true := by
  constructor
  · exact fun h => h e rfl
  · rintro h _ ⟨⟩
    exact h

end

/-! ### Using files -/

section

variable {t : FileTree} {p : Path}

theorem reported_fault {fault : FileFault} (h : fault ≠ .nullCharacter) :
    (fileMessage? ⟨fault, p⟩).isSome = true := by
  rw [fileMessage?, if_neg h]
  rfl

/-- What is wrong with a path without a null character is another fault. -/
theorem ne_nullCharacter_of_locate {fault : FileFault} (hp : p.hasNull = false)
    (h : t.locate p = .error fault) : fault ≠ .nullCharacter := by
  rintro rfl
  rw [FileTree.locate_eq_nullCharacter_iff.1 h] at hp
  cases hp

theorem ne_nullCharacter_of_find {fault : FileFault} (hp : p.hasNull = false)
    (h : t.find p = .error fault) : fault ≠ .nullCharacter := by
  unfold FileTree.find at h
  split at h
  · next cause hlocate =>
    rw [← Except.error.inj h]
    exact ne_nullCharacter_of_locate hp hlocate
  · split at h
    · cases h
    · rintro rfl
      cases h

theorem reported_readFile (hp : p.hasNull = false) : Reported fileMessage? (t.readFile p) := by
  unfold FileTree.readFile
  split
  · exact reported_ok _
  · exact reported_error_iff.2 rfl
  · next fault hfind =>
    exact reported_error_iff.2 (reported_fault (ne_nullCharacter_of_find hp hfind))

/-- Bytes are text in the encoding of the given name, or it is reported which of them are not. -/
def ReadsBytes (encoding : Text) (bytes : Bytes) : Prop :=
  ∃ e, Encoding.ofName? encoding = some e ∧ ¬ (e = .utf16 ∧ Encoding.Utf16.LacksMark bytes)

theorem readsBytes_iff {encoding : Text} {e : Encoding} {bytes : Bytes}
    (he : Encoding.ofName? encoding = some e) :
    ReadsBytes encoding bytes ↔ e.readText bytes ≠ .error .noMark := by
  rw [Ne, Encoding.readText_eq_noMark_iff]
  constructor
  · rintro ⟨f, hf, hbytes⟩
    rw [he] at hf
    cases hf
    exact hbytes
  · exact fun h => ⟨e, he, h⟩

theorem not_readsBytes_of_unknown {encoding : Text} {bytes : Bytes}
    (he : Encoding.ofName? encoding = none) : ¬ ReadsBytes encoding bytes := by
  rintro ⟨e, hsome, -⟩
  rw [he] at hsome
  cases hsome

theorem reported_readText_iff {encoding : Text} (hp : p.hasNull = false) :
    Reported readMessage? (t.readText p encoding) ↔
      '\x00' ∉ encoding ∧ ∀ bytes, t.readFile p = .ok bytes → ReadsBytes encoding bytes := by
  have hlost : ¬ Reported readMessage? (.error .nullInEncoding : Except ReadError Text) :=
    fun h => absurd (h _ rfl) Bool.false_ne_true
  unfold FileTree.readText
  split
  · next hnull =>
    rw [List.contains_iff_mem] at hnull
    exact ⟨fun h => absurd h hlost, fun h => absurd hnull h.1⟩
  · next hnull =>
    rw [List.contains_iff_mem] at hnull
    cases hread : t.readFile p with
    | error cause =>
      have hreported : (fileMessage? cause).isSome = true := reported_readFile hp cause hread
      exact ⟨fun _ => ⟨hnull, nofun⟩, fun _ => reported_error_iff.2 hreported⟩
    | ok bytes =>
      have hone : (∀ other, Except.ok bytes = (Except.ok other : Except FileError Bytes) →
          ReadsBytes encoding other) ↔ ReadsBytes encoding bytes :=
        ⟨fun h => h bytes rfl, by rintro h _ ⟨⟩; exact h⟩
      rw [hone, and_iff_right hnull]
      cases hname : Encoding.ofName? encoding with
      | none =>
        exact ⟨fun h => absurd (h _ rfl) Bool.false_ne_true,
          fun h => absurd h (not_readsBytes_of_unknown hname)⟩
      | some e =>
        rw [readsBytes_iff hname]
        dsimp only
        cases htext : e.readText bytes with
        | ok text => exact ⟨fun _ => nofun, fun _ => reported_ok text⟩
        | error cause =>
          cases cause with
          | badBytes reason start bad =>
            exact ⟨fun _ => nofun, fun _ => reported_error_iff.2 rfl⟩
          | noMark =>
            exact ⟨fun h => absurd (h _ rfl) Bool.false_ne_true, fun h => absurd rfl h⟩

/-- Every file of a tree that can be read is text in the encoding of the given name, or it is
reported what is wrong with it. -/
def ReadsAs (t : FileTree) (encoding : Text) : Prop :=
  '\x00' ∉ encoding ∧ ∀ p bytes, t.readFile p = .ok bytes → ReadsBytes encoding bytes

theorem ReadsAs.reported {encoding : Text} (h : ReadsAs t encoding) (hp : p.hasNull = false) :
    Reported readMessage? (t.readText p encoding) :=
  (reported_readText_iff hp).2 ⟨h.1, h.2 p⟩

end

/-! ### Collecting files -/

section

variable {t : FileTree} {root : Path} {s : Settings}

end

/-! ### Builds -/

section

variable {t : FileTree} {root out : Path} {s : Settings} {encoding : Text}

end

end GrammarKit.CommandLine
