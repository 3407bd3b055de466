import GrammarKit.Descriptor.Printer
import GrammarKit.Proofs.HeaderRoundTrip
import GrammarKit.Proofs.TransformedText

/-!
# The two parts of a grammar file

A grammar file is a header comment, an empty line and a body. The reader of headers and the remover
of headers both stop at the first end of a comment, so whatever the body holds, only the header
decides whether they stop between the two parts.
-/

namespace GrammarKit

open Text

namespace Header

theorem leadingComment_append {s inside after : Text}
    (h : leadingComment? s = some (inside, after)) (t : Text) :
    leadingComment? (s ++ t) = some (inside, after ++ t) := by
  unfold leadingComment? at h
  split at h
  · next rest hopen =>
    have hcomment : trimStart s = "/*".toList ++ rest := append_of_stripped hopen
    have hstart : trimStart (s ++ t) = "/*".toList ++ (rest ++ t) := by
      rw [trimStart_append (by simp [hcomment]), hcomment, List.append_assoc]
    rw [leadingComment?, hstart, List.isPrefixOf?_eq_some_iff_append_eq.2 rfl]
    exact splitFirst_append (by decide) h t
  · cases h

/-- No field that is written ends the comment. -/
def KeepsOpen (h : Header) : Prop :=
  ∀ f ∈ h.entries, isKept f = true → ¬ "*/".toList <:+: f.1 ∧ ¬ "*/".toList <:+: f.2.line

theorem keepsOpen_iff (h : Header) :
    h.KeepsOpen ↔ ¬ ∃ l ∈ (h.entries.filter isKept).map fieldLine, "*/".toList <:+: l := by
  constructor
  · rintro hopen ⟨l, hl, hclose⟩
    obtain ⟨f, hf, rfl⟩ := List.mem_map.1 hl
    obtain ⟨hmem, hkept⟩ := List.mem_filter.1 hf
    rcases infix_fieldLine_iff.1 hclose with hkey | hvalue
    · exact (hopen f hmem hkept).1 hkey
    · exact (hopen f hmem hkept).2 hvalue
  · intro hlines f hmem hkept
    have hline : fieldLine f ∈ (h.entries.filter isKept).map fieldLine :=
      List.mem_map_of_mem (List.mem_filter.2 ⟨hmem, hkept⟩)
    have hclear : ¬ "*/".toList <:+: fieldLine f := fun hclose => hlines ⟨_, hline, hclose⟩
    rw [infix_fieldLine_iff, not_or] at hclear
    exact hclear

/-! ### What the comment leaves -/

/-- A written header ends where its last line does, or some lines earlier. -/
theorem leadingComment_render (h : Header) : ∃ inside after,
    leadingComment? h.render = some (inside, after) ∧
      (h.KeepsOpen → after = ['\n']) ∧ (¬ h.KeepsOpen → "*/\n".toList <:+ after) := by
  rw [render_eq, leadingComment_opened]
  by_cases hopen : h.KeepsOpen
  · have hlines := mt infix_inside_iff.1 ((keepsOpen_iff h).1 hopen)
    exact ⟨_, _, splitFirst_pair (by decide) hlines ['\n'], fun _ => rfl, fun hno => absurd hopen hno⟩
  · have hlines := infix_inside_iff.2 (not_not.1 (mt (keepsOpen_iff h).2 hopen))
    obtain ⟨front, after, hsplit⟩ := exists_splitFirst_of_infix hlines
    refine ⟨front, after ++ "*/\n".toList, ?_, fun hyes => absurd hyes hopen, fun _ => ?_⟩
    · exact splitFirst_append (by decide) hsplit _
    · exact List.suffix_append _ _

theorem read_render_append (h : Header) (t : Text) : read? (h.render ++ t) = read? h.render := by
  obtain ⟨inside, after, hcomment, -, -⟩ := leadingComment_render h
  rw [read?, read?, leadingComment_append hcomment, hcomment]
  rfl

theorem strip_render_append_iff (h : Header) {c : Char} (hc : isBlank c = false) (t : Text) :
    strip (h.render ++ '\n' :: c :: t) = c :: t ↔ h.KeepsOpen := by
  obtain ⟨inside, after, hcomment, hclean, hearly⟩ := leadingComment_render h
  rw [strip, leadingComment_append hcomment]
  constructor
  · intro hbody
    by_contra hopen
    -- the last line of the comment is still there
    obtain ⟨front, rfl⟩ := hearly hopen
    have hstar : isBlank '*' = false := by decide
    have hrest := (suffix_trimStart hstar front ('/' :: '\n' :: '\n' :: c :: t)).length_le
    simp only [List.append_assoc] at hbody
    rw [show trimStart (front ++ '*' :: '/' :: '\n' :: '\n' :: c :: t) = c :: t from hbody] at hrest
    simp at hrest
    omega
  · intro hopen
    have hblank : ∀ d ∈ ['\n', '\n'], isBlank d = true := List.all_eq_true.1 (by decide)
    rw [hclean hopen]
    exact (trimStart_append_of_blank hblank (c :: t)).trans (trimStart_cons_of_not_blank hc t)

end Header

namespace Descriptor

theorem renderBody_eq_cons (d : Descriptor) (table : Option AbbreviationTable) :
    ∃ t, d.renderBody table = 'f' :: t := ⟨_, rfl⟩

/-- A grammar file loses exactly its header if the header is removed, by itself or in a build,
unless a key or a value that was written ends the comment early. The header is read as if there
were no body. -/
theorem strip_renderSource (d : Descriptor) (h : Header) (table : Option AbbreviationTable)
    (abbreviations : AbbreviationTable) :
    (Header.strip (d.renderSource h table) = d.renderBody table ↔ h.KeepsOpen) ∧
      (transform true false abbreviations (d.renderSource h table) = .ok (d.renderBody table) ↔
        h.KeepsOpen) ∧
      Header.read? (d.renderSource h table) = Header.read? h.render := by
  have hsource : d.renderSource h table = h.render ++ '\n' :: d.renderBody table := by
    rw [renderSource, List.append_assoc, List.singleton_append]
  have hstrip : Header.strip (d.renderSource h table) = d.renderBody table ↔ h.KeepsOpen := by
    obtain ⟨t, hbody⟩ := d.renderBody_eq_cons table
    rw [hsource, hbody]
    exact Header.strip_render_append_iff h (by decide) t
  have htransform : transform true false abbreviations (d.renderSource h table) =
      .ok (Header.strip (d.renderSource h table)) := transform_eq true false abbreviations _
  refine ⟨hstrip, ?_, ?_⟩
  · rw [htransform, Except.ok.injEq, hstrip]
  · rw [hsource]
    exact Header.read_render_append h _

end Descriptor
end GrammarKit
