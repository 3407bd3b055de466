import GrammarKit.Header.Basic
import GrammarKit.Header.Reader
import GrammarKit.Proofs.MapEntries
import GrammarKit.Proofs.Marks
import GrammarKit.Proofs.Pieces

/-!
# Fields that headers can hold

A field survives being written and read if its key and its value keep clear of everything that the
reader takes for a boundary. Whatever stands in a comment, the reader gives no other fields.
-/

namespace GrammarKit.Header

open Text

/-! ### Representable fields -/

/-- Text that stays on its line and inside of its comment. -/
def Inline (t : Text) : Prop := (∀ c ∈ t, isLineBreak c = false) ∧ ¬ "*/".toList <:+: t

instance (t : Text) : Decidable (Inline t) :=
  letI : Decidable (∀ c ∈ t, isLineBreak c = false) := List.decidableBAll _ t
  inferInstanceAs (Decidable (_ ∧ _))

/-- A value of the kind that the key asks for, with nothing to trim or to split. -/
def Fits (key : Text) : FieldValue → Prop
  | .text t => isScalar key = true ∧ Inline t ∧ trim t = t
  | .items ts => isScalar key = false ∧ ∀ t ∈ ts, ',' ∉ t ∧ Inline t ∧ trim t = t

instance (key : Text) (value : FieldValue) : Decidable (Fits key value) :=
  match value with
  | .text _ => inferInstanceAs (Decidable (_ ∧ _ ∧ _))
  | .items _ => inferInstanceAs (Decidable (_ ∧ _))

/-- A field that is read as it is written. -/
def Representable (field : Text × FieldValue) : Prop :=
  Inline field.1 ∧ trimStart field.1 = field.1 ∧ ¬ ": ".toList <:+: field.1 ∧
    Fits field.1 field.2

instance (field : Text × FieldValue) : Decidable (Representable field) :=
  inferInstanceAs (Decidable (_ ∧ _ ∧ _ ∧ _))

theorem Inline.of_isInfix {s t : Text} (hst : s <:+: t) (ht : Inline t) : Inline s :=
  ⟨fun c hc => ht.1 c (hst.subset hc), fun h => ht.2 (h.trans hst)⟩

theorem inline_of_mem_lines {inside line : Text} (h : ¬ "*/".toList <:+: inside)
    (hl : line ∈ lines inside) : Inline line :=
  ⟨not_lineBreak_of_mem_lines hl, fun hm => h (hm.trans (infix_of_mem_lines hl))⟩

/-! ### What the reader gives -/

theorem splitLine_key {line : Text} (hline : Inline line) (hstart : trimStart line = line) :
    Inline (splitLine line).1 ∧ trimStart (splitLine line).1 = (splitLine line).1 ∧
      ¬ ": ".toList <:+: (splitLine line).1 := by
  unfold splitLine
  split
  · next key value hs =>
    have hpre : key <+: line := ⟨": ".toList ++ value, (append_of_splitFirst hs).symm⟩
    have hmark : ¬ ": ".toList <:+: key := not_infix_of_splitFirst (by simp) hs
    exact ⟨hline.of_isInfix hpre.isInfix, trimStart_of_isPrefix hpre hstart, hmark⟩
  · next hs => exact ⟨hline, hstart, not_infix_of_splitFirst_eq_none hs⟩

theorem trim_splitLine (line : Text) : trim (splitLine line).2 = (splitLine line).2 := by
  unfold splitLine
  split
  · next key value hs => exact trim_trim value
  · rfl

theorem splitLine_value {line : Text} (hline : Inline line) :
    Inline (splitLine line).2 ∧ trim (splitLine line).2 = (splitLine line).2 := by
  refine ⟨?_, trim_splitLine line⟩
  unfold splitLine
  split
  · next key value hs =>
    have hsuffix : value <:+ line := by
      rw [append_of_splitFirst hs, ← List.append_assoc]
      exact List.suffix_append _ _
    exact hline.of_isInfix ((trim_isInfix value).trans hsuffix.isInfix)
  · exact hline.of_isInfix List.nil_infix

theorem fits_fieldValue (key : Text) {value : Text} (hvalue : Inline value)
    (htrim : trim value = value) : Fits key (fieldValue key value) := by
  unfold fieldValue
  split
  · next hs => exact ⟨hs, hvalue, htrim⟩
  · next hs =>
    refine ⟨by simpa using hs, ?_⟩
    intro t ht
    obtain ⟨piece, hpiece, rfl⟩ := List.mem_map.1 ht
    have hpart : piece <:+: value := infix_of_mem_splitWhen hpiece
    have hinside : trim piece <:+: value := (trim_isInfix piece).trans hpart
    have hcomma : ',' ∉ trim piece := by
      intro hc
      have hno := eq_false_of_mem_splitWhen hpiece ((trim_isInfix piece).subset hc)
      exact absurd rfl (of_decide_eq_false hno)
    exact ⟨hcomma, hvalue.of_isInfix hinside, trim_trim piece⟩

theorem items_ne_nil {key value : Text} {ts : List Text}
    (h : fieldValue key value = .items ts) : ts ≠ [] := by
  unfold fieldValue at h
  split at h
  · cases h
  · rw [← FieldValue.items.inj h]
    exact fun hnil => splitWhen_ne_nil _ _ (List.map_eq_nil_iff.1 hnil)

theorem fieldOf_eq {line : Text} (h : trim line ≠ []) :
    fieldOf? line = some ((splitLine (trim line)).1,
      fieldValue (splitLine (trim line)).1 (splitLine (trim line)).2) := by
  unfold fieldOf?
  split
  · next hnil => exact absurd hnil h
  · rfl

theorem trim_ne_nil_of_fieldOf {line : Text} {field : Text × FieldValue}
    (h : fieldOf? line = some field) : trim line ≠ [] := by
  intro hnil
  simp [fieldOf?, hnil] at h

theorem representable_of_fieldOf {line : Text} (hline : Inline line) {field : Text × FieldValue}
    (h : fieldOf? line = some field) : Representable field := by
  rw [fieldOf_eq (trim_ne_nil_of_fieldOf h)] at h
  rw [← Option.some.inj h]
  have htrim : Inline (trim line) := hline.of_isInfix (trim_isInfix line)
  obtain ⟨hkey, hstart, hmark⟩ := splitLine_key htrim (trimStart_trim line)
  obtain ⟨hvalue, hvtrim⟩ := splitLine_value htrim
  exact ⟨hkey, hstart, hmark, fits_fieldValue _ hvalue hvtrim⟩

theorem items_ne_nil_of_fieldOf {line key : Text} {ts : List Text}
    (h : fieldOf? line = some (key, .items ts)) : ts ≠ [] := by
  rw [fieldOf_eq (trim_ne_nil_of_fieldOf h)] at h
  exact items_ne_nil (Prod.mk.inj (Option.some.inj h)).2

/-! ### The fields of a header that was read -/

theorem not_infix_of_leadingComment {t inside after : Text}
    (h : leadingComment? t = some (inside, after)) : ¬ "*/".toList <:+: inside := by
  unfold leadingComment? at h
  split at h
  · exact not_infix_of_splitFirst (by simp) h
  · cases h

theorem exists_line_of_read {t : Text} {h : Header} (hread : read? t = some h)
    {field : Text × FieldValue} (hf : field ∈ h.entries) :
    ∃ line, Inline line ∧ fieldOf? line = some field := by
  obtain ⟨⟨inside, after⟩, hcomment, hh⟩ := Option.map_eq_some_iff.1 hread
  have hclosed : ¬ "*/".toList <:+: inside := not_infix_of_leadingComment hcomment
  rw [← hh] at hf
  obtain ⟨line, hline, hfield⟩ := List.mem_filterMap.1 (OrderedMap.mem_of_mem_ofList hf)
  exact ⟨line, inline_of_mem_lines hclosed hline, hfield⟩

theorem representable_of_read {t : Text} {h : Header} (hread : read? t = some h)
    {field : Text × FieldValue} (hf : field ∈ h.entries) : Representable field := by
  obtain ⟨line, hline, hfield⟩ := exists_line_of_read hread hf
  exact representable_of_fieldOf hline hfield

theorem items_ne_nil_of_read {t : Text} {h : Header} (hread : read? t = some h) {key : Text}
    {ts : List Text} (hf : (key, FieldValue.items ts) ∈ h.entries) : ts ≠ [] := by
  obtain ⟨line, -, hfield⟩ := exists_line_of_read hread hf
  exact items_ne_nil_of_fieldOf hfield

end GrammarKit.Header
