import GrammarKit.Proofs.HeaderFields

/-!
# Headers that are written and read

A header comment gives back exactly the fields that were written into it when all of these are
representable, and only then. The fields that the reader finds always are, so a header that was read
once loses nothing but its empty values by being written and read again.
-/

namespace GrammarKit.Header

open Text

/-! ### The written comment -/

/-- What stands inside of a comment with the given lines. -/
def inside (ls : List Text) : Text := '\n' :: ls.flatMap (· ++ ['\n'])

theorem join_newline (first last : Text) (ls : List Text) :
    join ['\n'] (first :: ls ++ [last]) = first ++ (inside ls ++ last) := by
  rw [join_concat, List.flatMap_cons]
  simp [inside]

theorem render_eq (h : Header) :
    render h =
      "/*".toList ++ (inside ((h.entries.filter isKept).map fieldLine) ++ "*/\n".toList) := by
  rw [render, join_newline]
  simp

theorem infix_inside_iff {ls : List Text} :
    "*/".toList <:+: inside ls ↔ ∃ l ∈ ls, "*/".toList <:+: l := by
  have hlines : ∀ ls : List Text,
      ['*', '/'] <:+: ls.flatMap (· ++ ['\n']) ↔ ∃ l ∈ ls, ['*', '/'] <:+: l := by
    intro ls
    induction ls with
    | nil => simp
    | cons l ls ih =>
      have hseam : ¬ (l.getLast? = some '*' ∧
          ('\n' :: ls.flatMap (· ++ ['\n'])).head? = some '/') := by simp
      rw [List.flatMap_cons, List.append_assoc, pair_infix_append, List.singleton_append,
        or_iff_left hseam, pair_infix_cons (by decide), ih, List.exists_mem_cons_iff]
  exact (pair_infix_cons (by decide) _).trans (hlines ls)

theorem lines_inside {ls : List Text} (h : ∀ l ∈ ls, Inline l) : lines (inside ls) = [] :: ls := by
  rw [inside, lines_newline, lines_flatMap_newline fun l hl => (h l hl).1]

theorem leadingComment_opened (inner : Text) :
    leadingComment? ("/*".toList ++ inner) = splitFirst "*/".toList inner := by
  have hstart : trimStart ("/*".toList ++ inner) = "/*".toList ++ inner :=
    trimStart_cons_of_not_blank (by decide) _
  rw [leadingComment?, hstart, List.isPrefixOf?_eq_some_iff_append_eq.2 rfl]

theorem leadingComment_written {w : Text} (hw : ∀ c ∈ w, isBlank c = true) {ls : List Text}
    (h : ¬ ∃ l ∈ ls, "*/".toList <:+: l) (t : Text) :
    leadingComment? (w ++ ("/*".toList ++ (inside ls ++ "*/\n".toList)) ++ t) =
      some (inside ls, '\n' :: t) := by
  have hstart : trimStart (w ++ ("/*".toList ++ (inside ls ++ "*/\n".toList)) ++ t) =
      "/*".toList ++ (inside ls ++ '*' :: '/' :: '\n' :: t) := by
    rw [List.append_assoc, trimStart_append_of_blank hw]
    simp only [List.append_assoc]
    exact trimStart_cons_of_not_blank (by decide) _
  have hclose := splitFirst_pair (by decide : '*' ≠ '/') (mt infix_inside_iff.1 h) ('\n' :: t)
  unfold leadingComment?
  rw [hstart, List.isPrefixOf?_eq_some_iff_append_eq.2 rfl]
  exact hclose

/-! ### A field on its line -/

theorem Inline.joined {s t : Text} {a : Char} (hs : Inline s) (ht : Inline t)
    (ha : isLineBreak a = false) (hstar : a ≠ '*') (hslash : a ≠ '/') :
    Inline (s ++ a :: ' ' :: t) := by
  constructor
  · intro c hc
    simp only [List.mem_append, List.mem_cons] at hc
    rcases hc with hc | rfl | rfl | hc
    · exact hs.1 c hc
    · exact ha
    · decide
    · exact ht.1 c hc
  · intro hin
    rcases (pair_infix_append s _).1 hin with hin | hin | ⟨-, hhead⟩
    · exact hs.2 hin
    · have hgap := (pair_infix_cons hstar _).1 hin
      exact ht.2 ((pair_infix_cons (by decide) t).1 hgap)
    · exact hslash (Option.some.inj hhead)

theorem inline_join {ts : List Text} (h : ∀ t ∈ ts, Inline t) :
    Inline (join ", ".toList ts) := by
  induction ts with
  | nil => exact ⟨by simp [join], by simp [join]⟩
  | cons t ts ih =>
    cases ts with
    | nil =>
      rw [join, List.intercalate_singleton]
      exact h t List.mem_cons_self
    | cons u us =>
      have hrest := ih fun v hv => h v (List.mem_cons_of_mem _ hv)
      rw [join_cons_cons]
      exact (h t List.mem_cons_self).joined hrest (by decide) (by decide) (by decide)

theorem infix_fieldLine_iff {field : Text × FieldValue} :
    "*/".toList <:+: fieldLine field ↔
      "*/".toList <:+: field.1 ∨ "*/".toList <:+: field.2.line := by
  have hseam : ¬ (field.1.getLast? = some '*' ∧ (':' :: ' ' :: field.2.line).head? = some '/') := by
    simp
  have hline : fieldLine field = field.1 ++ ':' :: ' ' :: field.2.line := by simp [fieldLine]
  have hgap : ['*', '/'] <:+: ':' :: ' ' :: field.2.line ↔ ['*', '/'] <:+: field.2.line :=
    (pair_infix_cons (by decide) _).trans (pair_infix_cons (by decide) _)
  have happend := pair_infix_append (a := '*') (b := '/') field.1 (':' :: ' ' :: field.2.line)
  rw [or_iff_left hseam, hgap] at happend
  rw [hline]
  exact happend

theorem inline_fieldLine {field : Text × FieldValue} (h : Representable field) :
    Inline (fieldLine field) := by
  obtain ⟨key, value⟩ := field
  obtain ⟨hkey, -, -, hfits⟩ := h
  have hline : Inline value.line := by
    cases value with
    | text t => exact hfits.2.1
    | items ts => exact inline_join fun t ht => (hfits.2 t ht).2.1
  have he : fieldLine (key, value) = key ++ ':' :: ' ' :: value.line := by
    simp [fieldLine]
  rw [he]
  exact hkey.joined hline (by decide) (by decide) (by decide)

theorem trimEnd_ne_nil {t : Text} (htrim : trim t = t) (hne : t ≠ []) : trimEnd t ≠ [] := by
  rw [← htrim, trimEnd_trim, htrim]
  exact hne

theorem trimEnd_line_ne_nil {key : Text} {value : FieldValue} (hfits : Fits key value)
    (hne : value.line ≠ []) : trimEnd value.line ≠ [] := by
  match value with
  | .text t => exact trimEnd_ne_nil hfits.2.2 hne
  | .items [] => exact absurd rfl hne
  | .items [t] =>
    have hline : (FieldValue.items [t]).line = t := by
      rw [FieldValue.line, join, List.intercalate_singleton]
    rw [hline] at hne ⊢
    exact trimEnd_ne_nil (hfits.2 t List.mem_cons_self).2.2 hne
  | .items (t :: u :: us) =>
    intro hnil
    have hcomma : ',' ∈ (FieldValue.items (t :: u :: us)).line := by
      simp [FieldValue.line, join_cons_cons]
    exact absurd (trimEnd_eq_nil_iff.1 hnil ',' hcomma) (by decide)

theorem fieldValue_line {key : Text} {value : FieldValue} (hfits : Fits key value)
    (hne : value.line ≠ []) : fieldValue key (trim value.line) = value := by
  match value with
  | .text t =>
    have htrim : trim (FieldValue.text t).line = t := hfits.2.2
    rw [fieldValue, if_pos hfits.1, htrim]
  | .items [] => exact absurd rfl hne
  | .items (t :: ts) =>
    have hcommas : ∀ u ∈ t :: ts, ',' ∉ u := fun u hu => (hfits.2 u hu).1
    have hsplit : splitOn ',' (FieldValue.items (t :: ts)).line = t :: ts.map ([' '] ++ ·) :=
      splitOn_join (by decide) t hcommas
    have htrims : ∀ u ∈ t :: ts, trim u = u := fun u hu => (hfits.2 u hu).2.2
    have hitems : ts.map (trim ∘ ([' '] ++ ·)) = ts := by
      have hone : ∀ u ∈ ts, (trim ∘ ([' '] ++ ·)) u = u := by
        intro u hu
        exact (trim_cons_of_blank (by decide) u).trans (htrims u (List.mem_cons_of_mem _ hu))
      exact (List.map_congr_left hone).trans (List.map_id ts)
    rw [fieldValue, if_neg (by rw [hfits.1]; decide), map_trim_splitOn_trim (by decide), hsplit,
      List.map_cons, List.map_map, hitems, htrims t List.mem_cons_self]

theorem fieldOf_fieldLine {field : Text × FieldValue} (h : Representable field)
    (hkept : isKept field = true) : fieldOf? (fieldLine field) = some field := by
  obtain ⟨key, value⟩ := field
  obtain ⟨-, hstart, hmark, hfits⟩ := h
  have hne : value.line ≠ [] := by simpa [isKept] using hkept
  have htail : trimEnd value.line ≠ [] := trimEnd_line_ne_nil hfits hne
  have hfront :
      trimStart (key ++ ": ".toList ++ value.line) = key ++ ": ".toList ++ value.line := by
    rw [List.append_assoc]
    cases key with
    | nil => exact trimStart_cons_of_not_blank (by decide) _
    | cons c key => exact trimStart_append_of_ne_nil (by simp) hstart _
  have htrim : trim (fieldLine (key, value)) = key ++ ':' :: ' ' :: trimEnd value.line := by
    rw [fieldLine, trim, hfront, trimEnd_append_of_ne_nil _ htail]
    simp
  have hsplit : splitLine (trim (fieldLine (key, value))) = (key, trim value.line) := by
    have hfirst := splitFirst_pair (by decide : ':' ≠ ' ') hmark (trimEnd value.line)
    rw [htrim, splitLine]
    simp only [String.reduceToList, hfirst, trim_trimEnd]
  rw [fieldOf_eq (by rw [htrim]; simp), hsplit, fieldValue_line hfits hne]

/-! ### Whole headers -/

theorem filterMap_fieldLine {fields : List (Text × FieldValue)}
    (h : ∀ f ∈ fields, Representable f ∧ isKept f = true) :
    (fields.map fieldLine).filterMap fieldOf? = fields := by
  induction fields with
  | nil => rfl
  | cons f fields ih =>
    obtain ⟨hf, hkept⟩ := h f List.mem_cons_self
    have hrest := ih fun g hg => h g (List.mem_cons_of_mem _ hg)
    rw [List.map_cons, List.filterMap_cons_some (fieldOf_fieldLine hf hkept), hrest]

theorem read_render_of_representable {h : Header}
    (hfields : ∀ f ∈ h.entries, isKept f = true → Representable f) {w : Text}
    (hw : ∀ c ∈ w, isBlank c = true) (t : Text) :
    (read? (w ++ render h ++ t)).map (·.entries) = some (h.entries.filter isKept) := by
  have hkept : ∀ f ∈ h.entries.filter isKept, Representable f ∧ isKept f = true := by
    intro f hf
    obtain ⟨hmem, hk⟩ := List.mem_filter.1 hf
    exact ⟨hfields f hmem hk, hk⟩
  have hinline : ∀ l ∈ (h.entries.filter isKept).map fieldLine, Inline l := by
    intro l hl
    obtain ⟨f, hf, rfl⟩ := List.mem_map.1 hl
    exact inline_fieldLine (hkept f hf).1
  have hkeys : ((h.entries.filter isKept).map (·.1)).Nodup :=
    h.nodup.sublist (List.filter_sublist.map _)
  have hlist : (lines (inside ((h.entries.filter isKept).map fieldLine))).filterMap fieldOf? =
      h.entries.filter isKept := by
    have hblank : fieldOf? [] = none := rfl
    rw [lines_inside hinline, List.filterMap_cons_none hblank, filterMap_fieldLine hkept]
  have hopen : ¬ ∃ l ∈ (h.entries.filter isKept).map fieldLine, "*/".toList <:+: l := by
    rintro ⟨l, hl, hclose⟩
    exact (hinline l hl).2 hclose
  have hread : read? (w ++ render h ++ t) = some (.ofList (h.entries.filter isKept)) := by
    rw [read?, render_eq, leadingComment_written hw hopen, Option.map_some]
    simp only [hlist]
  rw [hread, Option.map_some, OrderedMap.entries_ofList hkeys]

/-- What is read from a written header, behind any white space and before any text, is what was
written, if and only if every field that is written is representable. -/
theorem read_render_iff (h : Header) (w t : Text) (hw : ∀ c ∈ w, isBlank c = true) :
    (read? (w ++ render h ++ t)).map (·.entries) = some (h.entries.filter isKept) ↔
      ∀ f ∈ h.entries, isKept f = true → Representable f := by
  constructor
  · intro hread f hf hkept
    obtain ⟨g, hg, he⟩ := Option.map_eq_some_iff.1 hread
    apply representable_of_read hg
    rw [he]
    exact List.mem_filter.2 ⟨hf, hkept⟩
  · intro hfields
    exact read_render_of_representable hfields hw t

/-- A header with an empty value, a key that ends in a colon and items of which some are empty. -/
def sampleHeader : Header :=
  .ofList [("Language".toList, .text "rao: v2".toList), ("Author".toList, .items []),
    ("Uses:".toList, .items ["".toList, "a b".toList, "".toList]),
    ("".toList, .items ["*".toList, "/".toList])]

theorem read_render_sampleHeader :
    (∀ c ∈ "\n ".toList, isBlank c = true) ∧
      (read? ("\n ".toList ++ render sampleHeader ++ "*/ x".toList)).map (·.entries) =
        some (sampleHeader.entries.filter isKept) := by
  have hblank : ∀ c ∈ "\n ".toList, isBlank c = true := List.all_eq_true.1 (by decide)
  refine ⟨hblank, (read_render_iff sampleHeader "\n ".toList "*/ x".toList hblank).2 ?_⟩
  decide +kernel

/-! ### Headers that were read -/

/-- Whether the value of a field is the empty text or nothing but an empty item. -/
def isVoid (field : Text × FieldValue) : Bool := field.2 = .text [] || field.2 = .items [[]]

theorem line_items_eq_nil {ts : List Text} (hts : ts ≠ []) :
    (FieldValue.items ts).line = [] ↔ ts = [[]] := by
  match ts with
  | [] => exact absurd rfl hts
  | [t] => simp [FieldValue.line, join]
  | t :: u :: us => simp [FieldValue.line, join_cons_cons]

theorem isKept_of_read {c : Text} {h : Header} (hread : read? c = some h)
    {field : Text × FieldValue} (hf : field ∈ h.entries) : isKept field = !isVoid field := by
  obtain ⟨key, value⟩ := field
  cases value with
  | text t => cases t <;> simp [isKept, isVoid, FieldValue.line]
  | items ts =>
    have hline := line_items_eq_nil (items_ne_nil_of_read hread hf)
    have hempty : (FieldValue.items ts).line.isEmpty = decide (ts = [[]]) := by
      rw [Bool.eq_iff_iff, List.isEmpty_iff, hline, decide_eq_true_iff]
    simp [isKept, isVoid, hempty]

theorem read_render_read {c : Text} {h : Header} (hread : read? c = some h) :
    ∃ g, read? (render h) = some g ∧ g.entries = h.entries.filter (fun f => !isVoid f) := by
  have hfields : ∀ f ∈ h.entries, isKept f = true → Representable f :=
    fun f hf _ => representable_of_read hread hf
  have hall := read_render_of_representable hfields (w := []) (by simp) []
  rw [List.nil_append, List.append_nil] at hall
  obtain ⟨g, hg, he⟩ := Option.map_eq_some_iff.1 hall
  refine ⟨g, hg, ?_⟩
  rw [he]
  exact List.filter_congr fun f hf => isKept_of_read hread hf

/-- Writing a header that was read and reading it again takes away the empty values and changes
nothing else; from then on nothing changes. -/
theorem read_render_of_read {c : Text} {h : Header} (hread : read? c = some h) :
    ∃ g, read? (render h) = some g ∧ g.entries = h.entries.filter (fun f => !isVoid f) ∧
      read? (render g) = some g := by
  obtain ⟨g, hg, he⟩ := read_render_read hread
  obtain ⟨g', hg', he'⟩ := read_render_read hg
  have hsame : g'.entries = g.entries := by
    rw [he', he, List.filter_filter]
    exact List.filter_congr fun f _ => Bool.and_self _
  have heq : g' = g := by
    cases g'
    cases g
    simpa using hsame
  exact ⟨g, hg, he, heq ▸ hg'⟩

/-- A header with a key that comes twice, missing values, odd spacing and a Unicode line break. -/
def untidyText : Text :=
  "\t/* Language:  rao : *\n\nUses\n: a\u2028 Uses:: ,b*,, /c \n Uses: * ,  / \r\nx: */ */".toList

def untidyFields : List (Text × FieldValue) :=
  [("Language".toList, .text "rao : *".toList), ("Uses".toList, .items ["*".toList, "/".toList]),
    ("".toList, .items ["a".toList]),
    ("Uses:".toList, .items ["".toList, "b*".toList, "".toList, "/c".toList]),
    ("x:".toList, .items ["".toList])]

theorem read_render_untidyText :
    (read? untidyText).map (·.entries) = some untidyFields ∧
      ∃ h g, read? untidyText = some h ∧ read? (render h) = some g ∧
        g.entries = untidyFields.dropLast ∧ read? (render g) = some g := by
  have hfields : (read? untidyText).map (·.entries) = some untidyFields := by decide +kernel
  refine ⟨hfields, ?_⟩
  obtain ⟨h, hread, he⟩ := Option.map_eq_some_iff.1 hfields
  obtain ⟨g, hg, hge, hgg⟩ := read_render_of_read hread
  refine ⟨h, g, hread, hg, ?_, hgg⟩
  rw [hge, he]
  decide +kernel

end GrammarKit.Header
