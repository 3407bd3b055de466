import GrammarKit.Proofs.BuildRefusal
import GrammarKit.Proofs.FilesBelow
import GrammarKit.Proofs.ReadingBack
import GrammarKit.Proofs.TransformedText

/-!
# Builds and their encoding

Whatever was read in an encoding can be written in it again after the rules of a build, since these
bring in nothing but ASCII, and it is then read back as it was written. So no build fails because a
text has no bytes.
-/

namespace GrammarKit

open Text

/-! ### One text -/

theorem ascii_of_standard_code {code : Text} (h : code ∈ AbbreviationTable.standard.codes.values) :
    ∀ c ∈ code, c.toNat < 0x80 ∧ c ≠ '\r' := by
  have hall : ∀ code ∈ AbbreviationTable.standard.codes.values,
      code.all (fun c => c.toNat < 0x80 ∧ c ≠ '\r') = true := by
    decide +kernel
  intro c hc
  exact of_decide_eq_true (List.all_eq_true.1 (hall code h) c hc)

/-- A text that was read and then transformed can be written, and what is written is read back. -/
theorem exists_transform_encode {e : Encoding} {bytes : Bytes} {t : Text}
    (h : e.readText bytes = .ok t) (strip shorten : Bool) :
    ∃ u written, transform strip shorten .standard t = .ok u ∧ e.encode u = .ok written ∧
      e.readText written = .ok u := by
  obtain ⟨hreturn, hholds⟩ := Encoding.holds_of_readText h
  obtain ⟨u, htransform, hdraws⟩ :=
    exists_transform AbbreviationTable.plain_standard strip shorten t
  have hnone : '\r' ∉ u := by
    intro hc
    rcases hdraws '\r' hc with hc | ⟨code, hcode, hc⟩
    · exact hreturn hc
    · exact (ascii_of_standard_code hcode '\r' hc).2 rfl
  have hall : ∀ c ∈ u, e.Holds c := by
    intro c hc
    rcases hdraws c hc with hc | ⟨code, hcode, hc⟩
    · exact hholds c hc
    · exact e.holds_ascii (ascii_of_standard_code hcode c hc).1
  obtain ⟨written, hwritten, hback⟩ := Encoding.readText_encode hnone hall
  exact ⟨u, written, htransform, hwritten, hback⟩

/-! ### Files that were read -/

/-- A text that some bytes are read as in the encoding of the given name. -/
def WasRead (encoding t : Text) : Prop :=
  ∃ e bytes, Encoding.ofName? encoding = some e ∧ e.readText bytes = .ok t

theorem wasRead_of_readText {t : FileTree} {p : Path} {encoding text : Text}
    (h : t.readText p encoding = .ok text) : WasRead encoding text := by
  obtain ⟨-, bytes, e, -, he, hread⟩ := FileTree.readText_eq_ok_iff.1 h
  exact ⟨e, bytes, he, hread⟩

theorem wasRead_of_collect {t : FileTree} {root : Path} {s : Settings} {bs : List Blob}
    (h : (t.collect root s).result = .ok bs) : ∀ b ∈ bs, WasRead s.encoding b.content := by
  intro b hb
  obtain ⟨dir, place, name, -, hblob⟩ := FileTree.exists_readBlob_of_collect h hb
  unfold FileTree.readBlob at hblob
  cases htext : t.readText (dir.join (Path.ofText name)) s.encoding with
  | error e =>
    rw [htext] at hblob
    cases hblob
  | ok text =>
    rw [htext] at hblob
    rw [← Except.ok.inj hblob]
    exact wasRead_of_readText htext

theorem encodeAs_of_encode {encoding t : Text} {e : Encoding} {bytes : Bytes}
    (he : Encoding.ofName? encoding = some e) (hbytes : e.encode t = .ok bytes) :
    encodeAs encoding t = .ok bytes := by
  simp only [encodeAs, he, hbytes, Except.mapError]

/-- What was read can be written, as it is and after the rules of a build. -/
theorem WasRead.encodeAs {encoding t : Text} (h : WasRead encoding t) (strip shorten : Bool) :
    (∃ bytes, encodeAs encoding t = .ok bytes) ∧
      ∃ u bytes, transform strip shorten .standard t = .ok u ∧ encodeAs encoding u = .ok bytes := by
  obtain ⟨e, bytes, he, hread⟩ := h
  obtain ⟨hreturn, hholds⟩ := Encoding.holds_of_readText hread
  obtain ⟨plain, hplain, -⟩ := Encoding.readText_encode hreturn hholds
  obtain ⟨u, written, htransform, hwritten, -⟩ := exists_transform_encode hread strip shorten
  exact ⟨⟨plain, encodeAs_of_encode he hplain⟩, u, written, htransform,
    encodeAs_of_encode he hwritten⟩

/-! ### Whole builds -/

/-- Whether a fault is that a text has no bytes in the encoding. -/
def BuildError.isUnencodable : BuildError → Bool
  | .write (.unencodable _) => true
  | _ => false

namespace Build

theorem writeText_error {t u : FileTree} {p : Path} {encoding text : Text} {bytes : Bytes}
    {cause : WriteError} (hbytes : encodeAs encoding text = .ok bytes)
    (h : t.writeText p encoding text = (u, .error cause)) :
    (BuildError.write cause).isUnencodable = false := by
  unfold FileTree.writeText at h
  rw [hbytes] at h
  split at h
  · rw [← Except.error.inj (Prod.mk.inj h).2]
    rfl
  · split at h
    · rw [← Except.error.inj (Prod.mk.inj h).2]
      rfl
    · dsimp only at h
      split at h
      · rw [← Except.error.inj (Prod.mk.inj h).2]
        rfl
      · cases h

theorem describe_of_encodeAs {target : Path} {encoding text : Text} {b : Blob} {bytes read : Bytes}
    (hbytes : encodeAs encoding text = .ok bytes) (hread : encodeAs encoding b.content = .ok read) :
    describe target encoding b text = .ok ⟨b.name, target.text, read.length, bytes.length⟩ := by
  rw [describe, hread, hbytes]
  rfl

theorem isUnencodable_of_writeBlob {t u : FileTree} {out : Path} {encoding : Text}
    {strip shorten : Bool} {b : Blob} {e : BuildError} (hread : WasRead encoding b.content)
    (h : writeBlob t out encoding { strip := strip, shorten := shorten } b = (u, .error e)) :
    e.isUnencodable = false := by
  obtain ⟨⟨read, hplain⟩, text, bytes, htransform, hbytes⟩ := hread.encodeAs strip shorten
  unfold writeBlob at h
  simp only [htransform] at h
  split at h
  · next later cause hwrite =>
    rw [← Except.error.inj (Prod.mk.inj h).2]
    exact writeText_error hbytes hwrite
  · rw [describe_of_encodeAs hbytes hplain] at h
    cases (Prod.mk.inj h).2

theorem isUnencodable_of_run {t : FileTree} {root : Path} {s : Settings} {qualifiers : List Text}
    {out : Path} {strip shorten : Bool} {e : BuildError}
    (h : (run t root s qualifiers out { strip := strip, shorten := shorten }).2.result = .error e) :
    e.isUnencodable = false := by
  cases hcollect : (t.collect root s).result with
  | error cause =>
    obtain ⟨-, hresult⟩ := run_of_collect_error t root s qualifiers out
      { strip := strip, shorten := shorten } hcollect
    rw [hresult] at h
    rw [← Except.error.inj h]
    rfl
  | ok blobs =>
    obtain ⟨-, hresult⟩ := run_of_collect_ok t root s qualifiers out
      { strip := strip, shorten := shorten } hcollect
    rw [hresult] at h
    by_cases hclash : clashes ((Qualifiers.ofList qualifiers).select s.naming blobs) = []
    · obtain ⟨u, hwrite⟩ := exists_write_of_no_clash t s qualifiers out _ rfl hclash h
      refine write_error (P := fun e => e.isUnencodable = false) (fun _ => rfl) ?_ hwrite
      intro b hb t u e hfile
      exact isUnencodable_of_writeBlob (wasRead_of_collect hcollect b (List.mem_filter.1 hb).1) hfile
    · obtain ⟨-, hnames⟩ := runOn_clash t s qualifiers out
        { strip := strip, shorten := shorten } rfl hclash
      rw [hnames] at h
      rw [← Except.error.inj h]
      rfl

/-- With the standard table a text that was read and transformed can be written in the encoding
from which it was read, and is read back from what was written. So a build does not fail because a
text has no bytes. -/
theorem encodes_what_was_read :
    (∀ (e : Encoding) (bytes : Bytes) (t : Text) (strip shorten : Bool), e.readText bytes = .ok t →
      ∃ u written, transform strip shorten .standard t = .ok u ∧ e.encode u = .ok written ∧
        e.readText written = .ok u) ∧
    ∀ (t : FileTree) (root : Path) (s : Settings) (qualifiers : List Text) (out : Path)
      (strip shorten : Bool) (cause : Encoding.EncodeError),
      (run t root s qualifiers out { strip := strip, shorten := shorten }).2.result ≠
        .error (.write (.unencodable cause)) := by
  refine ⟨fun e bytes t strip shorten h => exists_transform_encode h strip shorten, ?_⟩
  intro t root s qualifiers out strip shorten cause hresult
  cases isUnencodable_of_run hresult

/-- A comment with both characters of a line end, a character of two units and a name, the high byte
of each unit first. -/
def sampleBytes : Bytes :=
  [0xfe, 0xff, 0, 0x2f, 0, 0x2a, 0, 0x0d, 0, 0x0a, 0, 0x2a, 0, 0x2f, 0xd8, 0x3d, 0xde, 0x00, 0, 0x2e,
    0, 0x65, 0, 0x6e, 0, 0x64]

theorem encodes_what_was_read_sampleBytes :
    Encoding.utf16.readText sampleBytes = .ok "/*\n*/😀.end".toList ∧
      ∃ u written, transform true true .standard "/*\n*/😀.end".toList = .ok u ∧
        Encoding.utf16.encode u = .ok written ∧ Encoding.utf16.readText written = .ok u := by
  have hread : Encoding.utf16.readText sampleBytes = .ok "/*\n*/😀.end".toList := by
    decide +kernel
  exact ⟨hread, encodes_what_was_read.1 .utf16 sampleBytes _ true true hread⟩

end Build

end GrammarKit
