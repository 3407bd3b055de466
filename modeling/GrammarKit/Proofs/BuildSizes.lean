import GrammarKit.Proofs.BuildRefusal
import GrammarKit.Proofs.TransformedText

/-!
# What a build saves

The bytes of a text are those of its characters and of a mark, and every code of the standard table
takes less room than its name in every encoding. So a build writes no file that is larger than what
it has read, and only what it leaves as it is keeps its size.
-/

namespace GrammarKit

open Text

/-! ### The size of a text -/

namespace Encoding

/-- The number of bytes for a character. -/
def charSize : Encoding → Char → Nat
  | .utf8, c | .utf8Marked, c => (Utf8.encodeChar c).length
  | .ascii, _ | .latin1, _ | .cp1251, _ | .cp1252, _ | .koi8r, _ => 1
  | .utf16, c | .utf16le, c => ((Utf16.units c).flatMap Utf16.unitBytes).length

/-- The number of bytes in front of every text. -/
def markSize : Encoding → Nat
  | .utf8Marked => Utf8.mark.length
  | .utf16 => Utf16.mark.length
  | _ => 0

/-- The number of bytes for the characters of a text. -/
def textSize (e : Encoding) : Text → Nat
  | [] => 0
  | c :: t => e.charSize c + e.textSize t

theorem charSize_pos (e : Encoding) (c : Char) : 0 < e.charSize c := by
  have hutf8 : 0 < (Utf8.encodeChar c).length := by
    simp only [Utf8.encodeChar]
    split_ifs <;> exact Nat.zero_lt_succ _
  have hutf16 : 0 < ((Utf16.units c).flatMap Utf16.unitBytes).length := by
    simp only [Utf16.units]
    split_ifs <;> exact Nat.zero_lt_succ _
  cases e <;> first | exact hutf8 | exact hutf16 | exact Nat.one_pos

@[simp] theorem textSize_append (e : Encoding) (t u : Text) :
    e.textSize (t ++ u) = e.textSize t + e.textSize u := by
  induction t with
  | nil => exact (Nat.zero_add _).symm
  | cons c t ih => rw [List.cons_append, textSize, textSize, ih, Nat.add_assoc]

theorem textSize_pos (e : Encoding) {t : Text} (h : t ≠ []) : 0 < e.textSize t := by
  cases t with
  | nil => exact absurd rfl h
  | cons c t => exact Nat.add_pos_left (e.charSize_pos c) _

theorem length_flatMap {e : Encoding} {f : Char → Bytes} (h : ∀ c, (f c).length = e.charSize c)
    (t : Text) : (t.flatMap f).length = e.textSize t := by
  induction t with
  | nil => rfl
  | cons c t ih => rw [List.flatMap_cons, List.length_append, h, ih, textSize]

theorem SingleByte.length_encodeFrom {e : Encoding} (h : ∀ c, e.charSize c = 1)
    {upper : UpperHalf} {codec reason : Text} {start : Nat} {t : Text} {bytes : Bytes}
    (hbytes : encodeFrom upper codec reason start t = .ok bytes) :
    bytes.length = e.textSize t := by
  induction t generalizing start bytes with
  | nil =>
    rw [← Except.ok.inj hbytes]
    rfl
  | cons c t ih =>
    unfold encodeFrom at hbytes
    split at hbytes
    · cases hbytes
    · split at hbytes
      · next later hlater =>
        rw [← Except.ok.inj hbytes, List.length_cons, ih hlater, textSize, h, Nat.add_comm]
      · cases hbytes

theorem length_encode {e : Encoding} {t : Text} {bytes : Bytes} (h : e.encode t = .ok bytes) :
    bytes.length = e.markSize + e.textSize t := by
  cases e with
  | utf8 =>
    have hbody : (Utf8.encode t).length = Encoding.utf8.textSize t :=
      length_flatMap (fun _ => rfl) t
    rw [← Except.ok.inj h, hbody]
    exact (Nat.zero_add _).symm
  | utf8Marked =>
    have hbody : (Utf8.encode t).length = Encoding.utf8Marked.textSize t :=
      length_flatMap (fun _ => rfl) t
    rw [← Except.ok.inj h, Utf8.encodeMarked, List.length_append, hbody]
    rfl
  | utf16 =>
    have hbody : (Utf16.encode t).length = Encoding.utf16.textSize t :=
      length_flatMap (fun _ => rfl) t
    rw [← Except.ok.inj h, Utf16.encodeMarked, List.length_append, hbody]
    rfl
  | utf16le =>
    have hbody : (Utf16.encode t).length = Encoding.utf16le.textSize t :=
      length_flatMap (fun _ => rfl) t
    rw [← Except.ok.inj h, hbody]
    exact (Nat.zero_add _).symm
  | ascii | latin1 | cp1251 | cp1252 | koi8r =>
    refine Eq.trans ?_ (Nat.zero_add _).symm
    exact SingleByte.length_encodeFrom (fun _ => rfl) h

/-! ### Texts that take less room -/

/-- The second text takes less room than the first, if it is not the same. -/
def Shrinks (e : Encoding) (t u : Text) : Prop := u = t ∨ e.textSize u < e.textSize t

theorem Shrinks.le {e : Encoding} {t u : Text} (h : e.Shrinks t u) :
    e.textSize u ≤ e.textSize t := by
  rcases h with rfl | hlt
  · exact Nat.le_refl _
  · exact Nat.le_of_lt hlt

theorem Shrinks.eq_iff {e : Encoding} {t u : Text} (h : e.Shrinks t u) :
    e.textSize u = e.textSize t ↔ u = t := by
  constructor
  · intro hsize
    exact h.resolve_right (Nat.not_lt_of_ge (Nat.le_of_eq hsize.symm))
  · rintro rfl
    rfl

theorem piecewise_shrinks (e : Encoding) : AbbreviationTable.Piecewise e.Shrinks where
  suffix := by
    rintro _ u ⟨start, rfl⟩
    by_cases hstart : start = []
    · rw [hstart]
      exact Or.inl rfl
    · have hpos := e.textSize_pos hstart
      right
      rw [textSize_append]
      omega
  trans := by
    rintro t u v htu (rfl | huv)
    · exact htu
    · exact Or.inr (Nat.lt_of_lt_of_le huv htu.le)
  append := by
    rintro t u t' u' (rfl | hlt) hrest
    · rcases hrest with rfl | hlt
      · exact Or.inl rfl
      · right
        rw [textSize_append, textSize_append]
        omega
    · have hle := hrest.le
      right
      rw [textSize_append, textSize_append]
      omega

theorem shrinks_abbreviate (e : Encoding) (name : Text) :
    e.Shrinks name (AbbreviationTable.standard.abbreviate name) := by
  have hsmaller : ∀ e ∈ all, ∀ name ∈ AbbreviationTable.standard.codes.keys,
      e.textSize (AbbreviationTable.standard.abbreviate name) < e.textSize name := by
    decide +kernel
  by_cases hname : name ∈ AbbreviationTable.standard.codes.keys
  · exact Or.inr (hsmaller e (by cases e <;> decide) name hname)
  · exact Or.inl (AbbreviationTable.standard.abbreviate_of_not_mem hname)

end Encoding

/-! ### The files of a report -/

namespace Build

/-- The rules leave the text of a file as it is. -/
def Unchanged (o : BuildOptions) (b : Blob) : Prop :=
  transform o.strip o.shorten o.table b.content = .ok b.content

/-- The size of what was written against that of what was read. -/
def NoLarger (o : BuildOptions) (b : Blob) (file : BuiltFile) : Prop :=
  file.bytesOut ≤ file.bytesIn ∧ (file.bytesOut = file.bytesIn ↔ Unchanged o b)

theorem encode_of_encodeAs {encoding t : Text} {bytes : Bytes}
    (h : encodeAs encoding t = .ok bytes) :
    ∃ e, Encoding.ofName? encoding = some e ∧ e.encode t = .ok bytes := by
  unfold encodeAs at h
  cases he : Encoding.ofName? encoding with
  | none =>
    rw [he] at h
    cases h
  | some e =>
    rw [he] at h
    cases hencode : e.encode t with
    | error cause =>
      simp only [hencode, Except.mapError] at h
      cases h
    | ok found =>
      simp only [hencode, Except.mapError] at h
      rw [← Except.ok.inj h]
      exact ⟨e, rfl, hencode⟩

theorem Written.noLarger {u : FileTree} {out : Path} {encoding : Text} {o : BuildOptions}
    {b : Blob} {file : BuiltFile} (htable : o.table = .standard)
    (h : Written u out encoding o b file) : NoLarger o b file := by
  obtain ⟨text, bytes, bytesRead, htext, hbytes, hread, -, rfl⟩ := h
  obtain ⟨e, he, hencode⟩ := encode_of_encodeAs hbytes
  obtain ⟨e', he', hencodeRead⟩ := encode_of_encodeAs hread
  obtain rfl : e = e' := Option.some.inj (he.symm.trans he')
  obtain ⟨made, hmade, hshrinks⟩ := e.piecewise_shrinks.exists_transform e.shrinks_abbreviate
    AbbreviationTable.plain_standard o.strip o.shorten b.content
  rw [← htable] at hmade
  obtain rfl : made = text := Except.ok.inj (hmade.symm.trans htext)
  have hle := hshrinks.le
  have hunchanged : Unchanged o b ↔ e.textSize made = e.textSize b.content := by
    rw [Unchanged, hmade, Except.ok.injEq, hshrinks.eq_iff]
  rw [NoLarger, hunchanged]
  -- the mark stands in front of both texts
  simp only [Encoding.length_encode hencode, Encoding.length_encode hencodeRead]
  omega

/-- The totals of a report, if no file of it is larger than what was read. -/
theorem totals_le {o : BuildOptions} {bs : List Blob} {report : BuildReport}
    (h : List.Forall₂ (NoLarger o) bs report.files) :
    report.bytesOut ≤ report.bytesIn ∧
      (report.bytesOut = report.bytesIn ↔ ∀ b ∈ bs, Unchanged o b) := by
  unfold BuildReport.bytesOut BuildReport.bytesIn
  generalize report.files = files at h
  induction h with
  | nil => simp
  | cons hfirst _ ih =>
    obtain ⟨hle, hiff⟩ := hfirst
    obtain ⟨hleRest, hiffRest⟩ := ih
    simp only [List.map_cons, List.foldr_cons, List.forall_mem_cons, ← hiff, ← hiffRest]
    omega

/-- With the standard table no file of a build is larger than what was read of it, and it has the
size of that only if it was left as it was; and so it is for the totals of the report. -/
theorem run_sizes {t : FileTree} {root out : Path} {s : Settings} {qualifiers : List Text}
    {o : BuildOptions} {report : BuildReport} (htable : o.table = .standard)
    (hreport : (run t root s qualifiers out o).2.result = .ok report) :
    ∃ blobs chosen, (t.collect root s).result = .ok blobs ∧
      chosen = (Qualifiers.ofList qualifiers).select s.naming blobs ∧
      List.Forall₂ (fun b file => Written (run t root s qualifiers out o).1 out s.encoding o b file ∧
        NoLarger o b file) chosen report.files ∧
      report.bytesOut ≤ report.bytesIn ∧
      (report.bytesOut = report.bytesIn ↔ ∀ b ∈ chosen, Unchanged o b) := by
  obtain ⟨blobs, hblobs, -⟩ := exists_collect_of_run hreport
  obtain ⟨-, hwritten⟩ := written_of_run hblobs hreport
  have hsizes := hwritten.imp fun _ _ h => And.intro h (h.noLarger htable)
  exact ⟨blobs, _, hblobs, rfl, hsizes, totals_le (hsizes.imp fun _ _ h => h.2)⟩

/-- All files of `sampleTree`, each with a mark in front of what is written. -/
def markedRun : FileTree × Logged BuildError BuildReport :=
  run sampleTree (Path.ofText "/".toList)
    { entryPoint := "engine.js".toList, encoding := "utf-8-sig".toList } []
    (Path.ofText "/built".toList) { strip := false, shorten := true }

/-- The engine, in which there is no name, keeps its size. -/
theorem run_sizes_markedRun : ∃ report, markedRun.2.result = .ok report ∧
    report.files.map (fun file => (file.bytesIn, file.bytesOut)) = [(20, 20), (46, 35), (8, 4)] ∧
    ∃ chosen, List.Forall₂ (NoLarger { strip := false, shorten := true }) chosen report.files ∧
      ¬ ∀ b ∈ chosen, Unchanged { strip := false, shorten := true } b := by
  have hsizes : markedRun.2.result.toOption.map (fun report =>
      (report.files.map (fun file => (file.bytesIn, file.bytesOut)),
        decide (report.bytesOut = report.bytesIn))) =
          some ([(20, 20), (46, 35), (8, 4)], false) := by decide +kernel
  cases hreport : markedRun.2.result with
  | error cause =>
    rw [hreport] at hsizes
    cases hsizes
  | ok report =>
    rw [hreport] at hsizes
    obtain ⟨hfiles, hsmaller⟩ := Prod.mk.inj (Option.some.inj hsizes)
    obtain ⟨-, chosen, -, -, hall, -, htotals⟩ := run_sizes rfl hreport
    refine ⟨report, rfl, hfiles, chosen, hall.imp fun _ _ h => h.2, ?_⟩
    intro hunchanged
    exact of_decide_eq_false hsmaller (htotals.2 hunchanged)

end Build
end GrammarKit
