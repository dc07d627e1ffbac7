import StructuredText.Invocation.Parts
import StructuredText.Invocation.Rendering
import StructuredText.Proofs.Invocation.FieldMarker
import StructuredText.Proofs.List
import StructuredText.Proofs.Text.Margin

/-!
# Option lines, written and read

What the fields of a block give are options with names and values of a certain form (`IsOption`,
`isOption_of_readFields`). Written as fields and read back (`readFields_fieldLines`), such options
keep their names and their order; a value keeps its lines, but those after the first lose their
common margin (`alignedValue`). So a value survives exactly if they have none
(`alignedValue_eq_self_iff`).
-/

namespace StructuredText

open Text

/-! ## Values -/

/-- The value of an option as it can be read from a field: it begins with a character that is not
white space, and none of its lines is blank. -/
structure IsFieldValue (v : Text) : Prop where
  begins : BeginsWord v
  lines : ∀ l ∈ cutAt '\n' v, IsLine l ∧ isBlank l = false

/-- The value with its later lines out of their margin. -/
def alignedValue (v : Text) : Text :=
  ofLines (firstLine v :: dropMargin (laterLines v))

theorem beginsWord_of_not_isBlank {l : Text} (h : isBlank l = false) :
    BeginsWord (trimStart l) := by
  refine beginsWord_of_trimStart fun e => ?_
  have hall : isBlank l = true := by
    rw [← words_eq_nil_iff]
    exact words_of_trimStart_nil e
  rw [hall] at h
  cases h

theorem not_isBlank_of_beginsWord {l : Text} (h : BeginsWord l) : isBlank l = false := by
  obtain ⟨c, r, rfl, hc⟩ := h
  simp [isBlank, hc]

/-- The first line of a text that begins with a word begins with it. -/
theorem beginsWord_firstLine {v : Text} (h : BeginsWord v) : BeginsWord (firstLine v) := by
  obtain ⟨c, r, rfl, hc⟩ := h
  have hne : c ≠ '\n' := by
    rintro rfl
    rw [isWhite_newline] at hc
    cases hc
  rw [firstLine, cutAt_cons_ne hne]
  exact ⟨c, _, rfl, hc⟩

theorem beginsWord_ofLines {l : Text} {ls : List Text} (h : BeginsWord l) :
    BeginsWord (ofLines (l :: ls)) := by
  cases ls with
  | nil => exact h
  | cons m ls =>
    rw [ofLines_cons_cons]
    exact h.append _

/-- A text made of lines ends as its last line does. -/
theorem getLast?_ofLines {ls : List Text} {l : Text} (h : ls.getLast? = some l) (hne : l ≠ []) :
    (ofLines ls).getLast? = l.getLast? := by
  induction ls with
  | nil => cases h
  | cons m ls ih =>
    cases ls with
    | nil =>
      cases h
      rfl
    | cons k ls =>
      rw [List.getLast?_cons_cons] at h
      have hlast := (ih h).trans (List.getLast?_eq_some_getLast hne)
      rw [ofLines_cons_cons, List.getLast?_append, List.getLast?_cons, hlast,
        List.getLast?_eq_some_getLast hne]
      rfl

/-- Lines without white space at their ends make a text without it at its end, if the last one is not
blank. -/
theorem trimmed_ofLines {ls : List Text} (h : ∀ l ∈ ls, Trimmed l) (hend : EndsFilled ls) :
    Trimmed (ofLines ls) := by
  intro c hc
  cases hls : ls.getLast? with
  | none =>
    rw [List.getLast?_eq_none_iff.1 hls] at hc
    cases hc
  | some l =>
    have hne : l ≠ [] := ne_nil_of_not_isBlank (hend l hls)
    rw [getLast?_ofLines hls hne] at hc
    exact h l (List.mem_of_getLast? hls) c hc

theorem trimEnd_ofLines {ls : List Text} (h : ∀ l ∈ ls, IsLine l) (hend : EndsFilled ls) :
    trimEnd (ofLines ls) = ofLines ls :=
  trimEnd_eq_self (trimmed_ofLines (fun l hl => (h l hl).trimmed) hend)

/-- White space at the start of the text is on its first line, if that is not blank. -/
theorem trimStart_ofLines {l : Text} (h : isBlank l = false) (ls : List Text) :
    trimStart (ofLines (l :: ls)) = ofLines (trimStart l :: ls) := by
  have hne := (beginsWord_of_not_isBlank h).ne_nil
  cases ls with
  | nil => rfl
  | cons m ls =>
    rw [ofLines_cons_cons, ofLines_cons_cons, trimStart_append hne]

theorem isFieldValue_ofLines {l : Text} {ls : List Text} (hl : BeginsWord l)
    (h : ∀ x ∈ l :: ls, IsLine x ∧ isBlank x = false) : IsFieldValue (ofLines (l :: ls)) := by
  refine ⟨beginsWord_ofLines hl, ?_⟩
  rw [cutAt_ofLines (by simp) fun x hx => (h x hx).1.noNewline]
  exact h

theorem filled_dropMargin {ls : List Text} (h : ∀ l ∈ ls, IsLine l ∧ isBlank l = false) :
    ∀ l ∈ dropMargin ls, IsLine l ∧ isBlank l = false := by
  intro x hx
  obtain ⟨l, hl, hsuffix, hb⟩ := mem_dropMargin hx
  exact ⟨(h l hl).1.suffix hsuffix, by rw [hb]; exact (h l hl).2⟩

theorem trim_ofLines {l : Text} {ls : List Text} (hl : isBlank l = false)
    (h : ∀ x ∈ l :: ls, IsLine x) (hend : EndsFilled ls) :
    trim (ofLines (l :: ls)) = ofLines (trimStart l :: ls) := by
  rw [trim, trimStart_ofLines hl]
  refine trimEnd_ofLines (fun x hx => ?_) ?_
  · rcases List.mem_cons.1 hx with rfl | hx
    · exact (h l (List.mem_cons_self ..)).suffix (trimStart_suffix l)
    · exact h x (List.mem_cons_of_mem _ hx)
  · exact hend.cons (not_isBlank_of_beginsWord (beginsWord_of_not_isBlank hl))

/-- The text of a field read from lines that are not blank, unless there is none. -/
theorem fieldValue_eq {first : Text} {below : List Text} (hf : IsLine first)
    (hbelow : ∀ l ∈ below, IsLine l ∧ isBlank l = false) {v : Text}
    (h : fieldValue first below = some v) : IsFieldValue v := by
  have hdrop := filled_dropMargin hbelow
  have hlines : ∀ l ∈ dropMargin below, IsLine l := fun l hl => (hdrop l hl).1
  have hend : EndsFilled (dropMargin below) := endsFilled_of_all fun l hl => (hdrop l hl).2
  simp only [fieldValue] at h
  split at h
  · cases h
  · next hne =>
    rw [Option.some.injEq] at h
    by_cases hb : isBlank first = true
    · -- The value begins on the line below.
      rw [hf.eq_nil_of_isBlank hb] at h hne
      cases hd : dropMargin below with
      | nil =>
        rw [hd] at hne
        exact absurd rfl hne
      | cons l ls =>
        rw [hd] at h hdrop hlines hend
        have hl := (hdrop l (List.mem_cons_self ..)).2
        have hstart : trim (ofLines ([] :: l :: ls)) = trim (ofLines (l :: ls)) := by
          rw [trim, ofLines_cons_cons, List.nil_append, trimStart_cons_white isWhite_newline, trim]
        rw [hstart, trim_ofLines hl hlines (hend.of_suffix (List.suffix_cons l ls))] at h
        rw [← h]
        refine isFieldValue_ofLines (beginsWord_of_not_isBlank hl) fun x hx => ?_
        rcases List.mem_cons.1 hx with rfl | hx
        · exact ⟨(hlines l (List.mem_cons_self ..)).suffix (trimStart_suffix l),
            not_isBlank_of_beginsWord (beginsWord_of_not_isBlank hl)⟩
        · exact hdrop x (List.mem_cons_of_mem _ hx)
    · have hb : isBlank first = false := by simpa using hb
      rw [trim_ofLines hb (by simpa using ⟨hf, hlines⟩) hend] at h
      rw [← h]
      refine isFieldValue_ofLines (beginsWord_of_not_isBlank hb) fun x hx => ?_
      rcases List.mem_cons.1 hx with rfl | hx
      · exact ⟨hf.suffix (trimStart_suffix first),
          not_isBlank_of_beginsWord (beginsWord_of_not_isBlank hb)⟩
      · exact hdrop x hx

/-! ## Options -/

/-- An option as it can be read from a block. -/
structure IsOption (option : Text × Option Text) : Prop where
  name : IsFieldName option.1
  noNewline : '\n' ∉ option.1
  noTab : '\t' ∉ option.1
  value : ∀ v, option.2 = some v → IsFieldValue v

/-- The lines of an option, not indented. -/
def fieldLines (option : Text × Option Text) : List Text :=
  hangingLines (fieldHead option.1) 3 (option.2.getD [])

/-- An option with its value's later lines out of their margin. -/
def alignedOption (option : Text × Option Text) : Text × Option Text :=
  (option.1, option.2.map alignedValue)

theorem readFields_nil (spec : OptionSpec) (acc : Options) : readFields spec acc [] = .ok acc := by
  rw [readFields]

/-- A field is read by adding its option, in standard form, to the options read before. -/
theorem readFields_cons (spec : OptionSpec) {line name first : Text}
    (h : fieldMarker? line = some (name, first)) (acc : Options) (below : List Text) :
    readFields spec acc (line :: below) =
      match spec.convert name (fieldValue first (below.takeWhile continuesBlock)) with
      | .error cause => .error (.option cause)
      | .ok value =>
        match acc.insert? name value with
        | none => .error (.duplicateOption name)
        | some acc => readFields spec acc (below.dropWhile continuesBlock) := by
  rw [readFields]
  split
  · next hnone =>
    rw [h] at hnone
    cases hnone
  · next name' first' hfield =>
    rw [h, Option.some.injEq, Prod.mk.injEq] at hfield
    obtain ⟨rfl, rfl⟩ := hfield
    rfl

/-- Where any option is accepted, its value is in standard form. -/
theorem readFields_any_cons {line name first : Text} (h : fieldMarker? line = some (name, first))
    (acc : Options) (below : List Text) :
    readFields .any acc (line :: below) =
      match acc.insert? name (fieldValue first (below.takeWhile continuesBlock)) with
      | none => .error (.duplicateOption name)
      | some acc => readFields .any acc (below.dropWhile continuesBlock) :=
  readFields_cons .any h acc below

/-- One option, without a value. -/
def Options.flag (name : Text) : Options := ⟨[(name, none)], by simp⟩

/-- An option without a value is read from its marker alone. -/
theorem readFields_flag {name : Text} (h : IsFieldName name) :
    readFields .any ∅ [fieldHead name] = .ok (.flag name) := by
  have hvalue : fieldValue [] [] = none := rfl
  have hinsert : (∅ : Options).insert? name none = some (.flag name) := by
    have hnew : name ∉ (∅ : Options).names := List.not_mem_nil
    rw [Options.insert?, dif_neg hnew]
    rfl
  rw [readFields_any_cons (fieldMarker?_fieldHead h), List.takeWhile_nil, hvalue, hinsert]
  exact readFields_nil _ _

theorem readFields_cons_of_none (spec : OptionSpec) {line : Text} (h : fieldMarker? line = none)
    (acc : Options) (below : List Text) :
    readFields spec acc (line :: below) = .error .notAField := by
  rw [readFields, h]

/-- **The walk over an option block.** What holds of no lines, of lines the first of which is no
field, and of a field if it holds of the lines below its value, holds of all lines. -/
theorem fields_induction {motive : List Text → Prop} (nil : motive [])
    (notField : ∀ line below, fieldMarker? line = none → motive (line :: below))
    (field : ∀ line below name first, fieldMarker? line = some (name, first) →
      motive (below.dropWhile continuesBlock) → motive (line :: below))
    (lines : List Text) : motive lines := by
  induction hn : lines.length using Nat.strongRecOn generalizing lines with
  | _ n ih =>
    subst hn
    cases lines with
    | nil => exact nil
    | cons line below =>
      cases hm : fieldMarker? line with
      | none => exact notField line below hm
      | some p =>
        have hlt : (below.dropWhile continuesBlock).length < (line :: below).length :=
          Nat.lt_succ_of_le (List.dropWhile_sublist _).length_le
        exact field line below p.1 p.2 hm (ih _ hlt _ rfl)

/-- Where any option is accepted, a line that is no field and a second option of a name are all that
can be wrong. -/
theorem of_readFields_any_eq_error {acc : Options} {lines : List Text} {cause : BlockError}
    (h : readFields .any acc lines = .error cause) :
    cause = .notAField ∨ ∃ name, cause = .duplicateOption name := by
  induction lines using fields_induction generalizing acc with
  | nil =>
    rw [readFields_nil] at h
    cases h
  | notField line below hm =>
    rw [readFields_cons_of_none _ hm] at h
    cases h
    exact Or.inl rfl
  | field line below name first hm ih =>
    rw [readFields_any_cons hm] at h
    split at h
    · cases h
      exact Or.inr ⟨_, rfl⟩
    · exact ih h

/-- How the options `o` come from the options read before and the lines of an option block: each field
adds one, in standard form. -/
inductive FieldsRead (spec : OptionSpec) : Options → List Text → Options → Prop where
  | nil (acc : Options) : FieldsRead spec acc [] acc
  | field {acc acc' o : Options} {line name first : Text} {below : List Text} {value : Option Text}
      (hm : fieldMarker? line = some (name, first))
      (hvalue : spec.convert name (fieldValue first (below.takeWhile continuesBlock)) = .ok value)
      (hins : acc.insert? name value = some acc')
      (h : FieldsRead spec acc' (below.dropWhile continuesBlock) o) :
      FieldsRead spec acc (line :: below) o

theorem fieldsRead_of_readFields {spec : OptionSpec} {acc o : Options} {lines : List Text}
    (h : readFields spec acc lines = .ok o) : FieldsRead spec acc lines o := by
  induction lines using fields_induction generalizing acc with
  | nil =>
    rw [readFields_nil] at h
    cases h
    exact .nil _
  | notField line below hm =>
    rw [readFields_cons_of_none _ hm] at h
    cases h
  | field line below name first hm ih =>
    rw [readFields_cons _ hm] at h
    split at h
    · cases h
    · next value hvalue =>
      split at h
      · cases h
      · next acc' hins => exact .field hm hvalue hins (ih h)

/-- **What is read from a block are options that can be written.** -/
theorem isOption_of_readFields {acc o : Options} {lines : List Text}
    (hlines : ∀ l ∈ lines, IsLine l ∧ isBlank l = false)
    (h : readFields .any acc lines = .ok o) :
    ∃ es, o.entries = acc.entries ++ es ∧ ∀ e ∈ es, IsOption e := by
  replace h := fieldsRead_of_readFields h
  induction h with
  | nil acc => exact ⟨[], by simp, by simp⟩
  | @field acc acc' o line name first below value hm hvalue hins _ ih =>
    cases hvalue
    have hline := (hlines line (List.mem_cons_self ..)).1
    have hbelow := fun l hl => hlines l (List.mem_cons_of_mem line hl)
    obtain ⟨es, hes, hall⟩ := ih fun l hl => hbelow l ((List.dropWhile_sublist _).subset hl)
    rw [Options.entries_of_insert? hins] at hes
    refine ⟨(name, fieldValue first (below.takeWhile continuesBlock)) :: es, ?_, ?_⟩
    · rw [hes, List.append_assoc]
      rfl
    · intro e he
      rcases List.mem_cons.1 he with rfl | he
      · obtain ⟨tail, rfl, hname, -, rfl⟩ := fieldMarker?_eq_some_iff.1 hm
        -- The name and the value are parts of the line, which has no newline and no tab.
        refine ⟨hname, fun hc => ?_, fun hc => ?_, fun v hv => ?_⟩
        · exact hline.noNewline (by simp [hc])
        · exact hline.noTab (by simp [hc])
        · refine fieldValue_eq (hline.suffix ?_) (fun l hl => ?_) hv
          · have htail : tail <:+ ':' :: (name ++ ':' :: tail) :=
              (List.suffix_cons ':' tail).trans
                ((List.suffix_append name _).trans (List.suffix_cons _ _))
            exact (trimStart_suffix tail).trans htail
          · exact hbelow l ((List.takeWhile_sublist _).subset hl)
      · exact hall e he

/-! ## Reading options back -/

theorem mem_laterLines {v l : Text} (h : IsFieldValue v) (hl : l ∈ laterLines v) :
    IsLine l ∧ isBlank l = false :=
  h.lines l (List.mem_of_mem_tail hl)

theorem continuesBlock_indentBy (n : Nat) (l : Text) :
    continuesBlock (indentBy (n + 1) l) = true := by
  by_cases h : l = []
  · rw [h, indentBy_nil]
    rfl
  · rw [continuesBlock, indentation_indentBy _ h]
    simp only [Bool.or_eq_true, decide_eq_true_eq]
    exact Or.inr (by omega)

/-- Lines moved to the right are of one block, whichever of them are blank. -/
theorem continuesBlock_of_mem_map_indentBy {n : Nat} (hn : 1 ≤ n) (ls : List Text) :
    ∀ x ∈ ls.map (indentBy n), continuesBlock x = true := by
  obtain ⟨k, rfl⟩ := Nat.exists_eq_add_of_le' hn
  intro x hx
  obtain ⟨l, -, rfl⟩ := List.mem_map.1 hx
  exact continuesBlock_indentBy k l

/-- The value is read back from its lines, out of their margin. -/
theorem fieldValue_laterLines {v : Text} (h : IsFieldValue v) :
    fieldValue (firstLine v) ((laterLines v).map (indentBy 3)) =
      some (alignedValue v) := by
  have hfirst := beginsWord_firstLine h.begins
  have hlater := filled_dropMargin fun l hl => mem_laterLines h hl
  have hline := (h.lines _ (firstLine_mem_cutAt v)).1
  have htrim : trim (alignedValue v) = alignedValue v := by
    rw [alignedValue, trim_ofLines (not_isBlank_of_beginsWord hfirst) ?_
      (endsFilled_of_all fun l hl => (hlater l hl).2), hfirst.trimStart_eq]
    intro x hx
    rcases List.mem_cons.1 hx with rfl | hx
    · exact hline
    · exact (hlater x hx).1
  have hne : alignedValue v ≠ [] := (beginsWord_ofLines hfirst).ne_nil
  simp only [fieldValue]
  rw [dropMargin_map_indentBy, ← alignedValue, htrim, if_neg hne]

/-- The lines of an option: the first one is a field, and the others continue its value. -/
theorem fieldLines_eq {e : Text × Option Text} (h : IsOption e) :
    ∃ line first, fieldLines e = line :: (laterLines (e.2.getD [])).map (indentBy 3) ∧
      fieldMarker? line = some (e.1, first) ∧ IsLine line ∧ isBlank line = false ∧
      indentation line = 0 ∧
      fieldValue first ((laterLines (e.2.getD [])).map (indentBy 3)) = (alignedOption e).2 := by
  obtain ⟨name, value⟩ := e
  have hhead : '\n' ∉ fieldHead name ∧ '\t' ∉ fieldHead name := by
    have hn := h.noNewline
    have ht := h.noTab
    simp only [fieldHead, List.mem_cons, List.mem_append, List.not_mem_nil, or_false, not_or]
    exact ⟨⟨by decide, hn, by decide⟩, ⟨by decide, ht, by decide⟩⟩
  cases value with
  | none =>
    refine ⟨fieldHead name, [], rfl, fieldMarker?_fieldHead h.name, ⟨hhead.1, hhead.2, ?_⟩, ?_, ?_,
      rfl⟩
    · intro c hc
      rw [fieldHead, ← List.cons_append, List.getLast?_append] at hc
      cases hc
      exact isWhite_colon
    · rw [← List.append_nil (fieldHead name), isBlank_fieldHead]
    · rw [← List.append_nil (fieldHead name), indentation_fieldHead]
  | some v =>
    have hv := h.value v rfl
    have hfirst := beginsWord_firstLine hv.begins
    have hline := (hv.lines _ (firstLine_mem_cutAt v)).1
    refine ⟨fieldHead name ++ ' ' :: firstLine v,
      firstLine v, ?_, fieldMarker?_field h.name hfirst.trimStart_eq, ?_,
      isBlank_fieldHead _ _, indentation_fieldHead _ _, fieldValue_laterLines hv⟩
    · rw [fieldLines, hangingLines, Option.getD_some, cutAt_eq_cons v]
      dsimp only
      rw [if_neg hfirst.ne_nil]
    · rw [← List.singleton_append, ← List.append_assoc]
      refine IsLine.append ⟨?_, ?_⟩ hline hfirst.ne_nil
      · simpa using hhead.1
      · simpa using hhead.2

/-- The lines of options begin with a field, if there are any. -/
theorem isField_head_fieldLines {es : List (Text × Option Text)} (hes : ∀ e ∈ es, IsOption e)
    {l : Text} (hl : (es.flatMap fieldLines).head? = some l) :
    isField l = true ∧ isBlank l = false ∧ indentation l = 0 := by
  cases es with
  | nil => cases hl
  | cons e es =>
    obtain ⟨line, first, heq, hm, -, hb, hi, -⟩ := fieldLines_eq (hes e (List.mem_cons_self ..))
    rw [List.flatMap_cons, heq] at hl
    cases hl
    exact ⟨isField_of_fieldMarker? hm, hb, hi⟩

theorem mem_flatMap_fieldLines {es : List (Text × Option Text)} (hes : ∀ e ∈ es, IsOption e)
    {l : Text} (hl : l ∈ es.flatMap fieldLines) : IsLine l ∧ isBlank l = false := by
  obtain ⟨e, he, hl⟩ := List.mem_flatMap.1 hl
  obtain ⟨line, first, heq, -, hline, hb, -, -⟩ := fieldLines_eq (hes e he)
  rw [heq] at hl
  rcases List.mem_cons.1 hl with rfl | hl
  · exact ⟨hline, hb⟩
  · obtain ⟨m, hm, rfl⟩ := List.mem_map.1 hl
    cases hv : e.2 with
    | none =>
      rw [hv] at hm
      cases hm
    | some v =>
      rw [hv] at hm
      obtain ⟨hmline, hmb⟩ := mem_laterLines ((hes e he).value v hv) hm
      exact ⟨isLine_indentBy hmline, by rw [isBlank_indentBy, hmb]⟩

/-- **Options written as fields are read back**, with their values' later lines out of their
margins. -/
theorem readFields_fieldLines {es : List (Text × Option Text)} (hes : ∀ e ∈ es, IsOption e)
    {acc : Options} (hdistinct : (acc.names ++ es.map Prod.fst).Nodup) :
    ∃ o, readFields .any acc (es.flatMap fieldLines) = .ok o ∧
      o.entries = acc.entries ++ es.map alignedOption := by
  induction es generalizing acc with
  | nil => exact ⟨acc, readFields_nil _ _, by simp⟩
  | cons e es ih =>
    have hrest := fun x hx => hes x (List.mem_cons_of_mem e hx)
    obtain ⟨line, first, heq, hm, -, -, -, hvalue⟩ := fieldLines_eq (hes e (List.mem_cons_self ..))
    -- The value's lines end where the next field, which is not indented, begins.
    have hcont : ∀ x ∈ (laterLines (e.2.getD [])).map (indentBy 3), continuesBlock x = true :=
      continuesBlock_of_mem_map_indentBy (by decide) _
    have hstop : ∀ x, (es.flatMap fieldLines).head? = some x → continuesBlock x = false := by
      intro x hx
      obtain ⟨-, hb, hi⟩ := isField_head_fieldLines hrest hx
      simp [continuesBlock, hb, hi]
    have hnew : e.1 ∉ acc.names := by
      intro hmem
      exact (List.nodup_append.1 hdistinct).2.2 _ hmem e.1 (by simp) rfl
    cases hins : acc.insert? e.1 (alignedOption e).2 with
    | none => exact absurd ((acc.insert?_eq_none_iff _ _).1 hins) hnew
    | some acc' =>
      have hentries := Options.entries_of_insert? hins
      have hnames : acc'.names = acc.names ++ [e.1] := by
        rw [Options.names, hentries, List.map_append]
        rfl
      have hdistinct' : (acc'.names ++ es.map Prod.fst).Nodup := by
        rw [hnames, List.append_assoc]
        simpa using hdistinct
      obtain ⟨o, ho, hoe⟩ := ih hrest hdistinct'
      refine ⟨o, ?_, ?_⟩
      · rw [List.flatMap_cons, heq, List.cons_append, readFields_any_cons hm,
          List.takeWhile_append_stop hcont hstop, List.dropWhile_append_stop hcont hstop, hvalue,
          hins]
        exact ho
      · rw [hoe, hentries, List.append_assoc, List.map_cons]
        rfl

/-! ## Which options survive -/

theorem alignedValue_eq_self_iff {v : Text} (h : IsFieldValue v) :
    alignedValue v = v ↔ margin (laterLines v) = 0 := by
  have hplain : ∀ l ∈ firstLine v :: dropMargin (laterLines v),
      '\n' ∉ l := by
    intro l hl
    rcases List.mem_cons.1 hl with rfl | hl
    · exact sep_not_mem_of_mem_cutAt (firstLine_mem_cutAt v)
    · exact ((filled_dropMargin fun l hl => mem_laterLines h hl) l hl).1.noNewline
  constructor
  · intro he
    have hcut := congrArg (cutAt '\n') he
    rw [alignedValue, cutAt_ofLines (by simp) hplain, cutAt_eq_cons v] at hcut
    rw [← (List.cons.inj hcut).2, margin_dropMargin]
  · intro hm
    have hb : ∀ l ∈ laterLines v, isBlank l = true → l = [] := by
      intro l hl hb
      exact (mem_laterLines h hl).1.eq_nil_of_isBlank hb
    rw [alignedValue, dropMargin_eq_self hm hb, ← cutAt_eq_cons, ofLines_cutAt]

/-- The margin of every value's later lines is zero. -/
def ValuesAligned (es : List (Text × Option Text)) : Prop :=
  ∀ e ∈ es, ∀ v, e.2 = some v → margin (laterLines v) = 0

theorem map_alignedOption_eq_self_iff {es : List (Text × Option Text)}
    (hes : ∀ e ∈ es, IsOption e) : es.map alignedOption = es ↔ ValuesAligned es := by
  have hone : ∀ e ∈ es, alignedOption e = e ↔ ∀ v, e.2 = some v → margin (laterLines v) = 0 := by
    intro e he
    obtain ⟨name, value⟩ := e
    cases value with
    | none => simp [alignedOption]
    | some v =>
      have hv := alignedValue_eq_self_iff ((hes _ he).value v rfl)
      simpa [alignedOption] using hv
  constructor
  · intro h e he
    refine (hone e he).1 ?_
    have hmap : es.map alignedOption = es.map id := h.trans (List.map_id es).symm
    exact List.map_inj_left.1 hmap e he
  · intro h
    rw [List.map_congr_left fun e he => (hone e he).2 (h e he), List.map_id']

/-- The lines of an option in its written form are its field lines, indented. -/
theorem optionLines_eq (e : Text × Option Text) :
    Invocation.optionLines e = (fieldLines e).map (indentBy 3) := by
  have hhead : indentBy 3 (fieldHead e.1) = "   :" ++ e.1 ++ ":" := by
    rw [indentBy_of_ne_nil 3 (fieldHead_ne_nil e.1)]
    rfl
  have hlater : ∀ ls : List Text, ls.map (indentBy 6) = (ls.map (indentBy 3)).map (indentBy 3) := by
    intro ls
    rw [List.map_map]
    exact List.map_congr_left fun l _ => (indentBy_indentBy 3 3 l).symm
  unfold Invocation.optionLines fieldLines hangingLines
  rw [cutAt_eq_cons (e.2.getD [])]
  dsimp only
  rw [List.map_cons, ← hlater]
  congr 1
  split
  · exact hhead.symm
  · rw [← hhead, indentBy_of_ne_nil 3 (fieldHead_ne_nil e.1),
      indentBy_of_ne_nil 3 (by simp), List.append_assoc]

end StructuredText
