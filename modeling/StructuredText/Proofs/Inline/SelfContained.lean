import StructuredText.Proofs.Inline.Lossless
import StructuredText.Proofs.Inline.RoleMarker

/-!
# What a node keeps is read as that node

A node that keeps how it was written keeps all that decides its reading: cut out of its paragraph and
read again, the text is this one node (`inlineNodes_rawtext`). The reader looks ahead, beyond every
backquote at which the interpreted text might end, so that it matters what stands there. But

- how the text would end at a backquote is decided before the next one
  (`ending?_append_backquote`), so that a backquote inside the text ends it in no context;
- at the last backquote the ending is read from its own marks (`ending?_raw`), and the end of the
  text is as good as whatever stood there.

Structure: the two facts, interpreted text on its own (`interpreted?_raw`), the constructs on their
own (`construct?_raw`), the segments (`segments_raw`) and the nodes.
-/

namespace StructuredText

/-! ## Before the next backquote -/

/-- A backquote belongs to no role name and ends none. -/
theorem roleName?_append_backquote (inRun : Bool) (x v : Text) :
    roleName? inRun (x ++ backquote :: v) =
      (roleName? inRun x).map fun p => (p.1, p.2 ++ backquote :: v) := by
  induction x generalizing inRun with
  | nil =>
    have hno : isAsciiAlphanumeric backquote = false ∧ isRoleSeparator backquote = false := by
      decide
    show roleName? inRun (backquote :: v) = none
    rw [roleName?, hno.1, hno.2, Bool.and_false, if_neg Bool.false_ne_true,
      if_neg Bool.false_ne_true]
  | cons c x ih =>
    rw [List.cons_append, roleName?, roleName?, ih, ih]
    split
    · rw [Option.map_map, Option.map_map]
      rfl
    · split
      · rw [Option.map_or, Option.map_map, Option.map_map]
        congr 1
        split <;> rfl
      · rfl

theorem roleMarker?_append_backquote (x v : Text) :
    roleMarker? (x ++ backquote :: v) =
      (roleMarker? x).map fun p => (p.1, p.2 ++ backquote :: v) := by
  cases x with
  | nil => rfl
  | cons c x =>
    by_cases hc : c = ':'
    · rw [hc]
      exact roleName?_append_backquote false x v
    · have hnone : ∀ t, roleMarker? (c :: t) = none := fun t => by
        unfold roleMarker?
        split
        · next h => exact absurd (List.cons.inj h).1 hc
        · rfl
      rw [List.cons_append, hnone, hnone]
      rfl

theorem underscores?_append_backquote (x v : Text) :
    underscores? (x ++ backquote :: v) =
      (underscores? x).map fun p => (p.1, p.2 ++ backquote :: v) := by
  cases x with
  | nil => rfl
  | cons c x =>
    by_cases hc : c = '_'
    · subst hc
      cases x with
      | nil => rfl
      | cons d x =>
        by_cases hd : d = '_'
        · subst hd
          rfl
        · simp [underscores?, hd]
    · simp [underscores?, hc]

theorem mayEnd_append_backquote (x v : Text) :
    mayEnd (x ++ backquote :: v) = mayEnd (x ++ [backquote]) := by
  cases x <;> rfl

/-- Whether a reading may end where it does is not changed by what stands behind the backquote. -/
theorem filter_map_append_backquote {α : Type} (o : Option (α × Text)) (v : Text) :
    (o.map fun p => (p.1, p.2 ++ backquote :: v)).filter (fun p => mayEnd p.2) =
      ((o.map fun p => (p.1, p.2 ++ [backquote])).filter fun p => mayEnd p.2).map
        fun p => (p.1, p.2 ++ v) := by
  cases o with
  | none => rfl
  | some p =>
    simp only [Option.map_some, Option.filter_some, mayEnd_append_backquote p.2 v]
    split
    · simp
    · rfl

/-- **How interpreted text ends is decided before the next backquote.** -/
theorem ending?_append_backquote (named : Bool) (x v : Text) :
    ending? named (x ++ backquote :: v) =
      (ending? named (x ++ [backquote])).map fun p => (p.1, p.2 ++ v) := by
  have hmarked : ∀ {α : Type} (o : Option (α × Text)) (make : α → Ending) (w : Text),
      ((o.map fun p => (p.1, p.2 ++ backquote :: w)).map fun p => (make p.1, p.2)) =
        (o.map fun p => (make p.1, p.2)).map fun p => (p.1, p.2 ++ backquote :: w) := by
    intro α o make w
    cases o <;> rfl
  unfold ending?
  -- Each way to end is read before the backquote, and may end there or not whatever follows it.
  simp only [underscores?_append_backquote, roleMarker?_append_backquote, hmarked]
  rw [filter_map_append_backquote _ v, filter_map_append_backquote _ v, mayEnd_append_backquote x v,
    Option.map_or]
  congr 1
  · split
    · rfl
    · rw [Option.map_or]
  · split
    · simp
    · rfl

/-- A backquote at which the text does not end is no end in any other context. -/
theorem ending?_eq_none {named : Bool} {x v : Text}
    (h : ending? named (x ++ backquote :: v) = none) (w : Text) :
    ending? named (x ++ backquote :: w) = none := by
  rw [ending?_append_backquote, Option.map_eq_none_iff] at h
  rw [ending?_append_backquote, h]
  rfl

/-! ## What stands behind the closing backquote -/

/-- An ending is read from its own marks. -/
theorem ending?_raw {named : Bool} {tail rest : Text} {e : Ending}
    (h : ending? named tail = some (e, rest)) : ending? named e.raw = some (e, []) := by
  rcases ending?_eq_some h with ⟨rfl, -⟩ | ⟨rfl, ⟨anonymous, rfl, -⟩ | ⟨name, rfl, hname⟩⟩
  · cases named <;> rfl
  · cases anonymous <;> rfl
  · have hnone : underscores? (colons name) = none := rfl
    show ending? false (colons name) = _
    unfold ending?
    simp only [hnone, (isRoleName_of_roleMarker? hname).roleMarker?_colons]
    rfl

/-! ## Interpreted text on its own -/

/-- Where the text ends, an ending was found behind a backquote. -/
theorem exists_ending?_of_interpretedEnd? {named : Bool} {previous : Char} {t content rest : Text}
    {e : Ending} (h : interpretedEnd? named previous t = some (content, e, rest)) :
    ∃ tail, ending? named tail = some (e, rest) := by
  induction t generalizing previous content with
  | nil => cases h
  | cons c t ih =>
    rcases interpretedEnd?_cons_eq_some h with ⟨-, -, -, he⟩ | ⟨x, -, hx, -⟩
    · exact ⟨t, he⟩
    · exact ih hx

/-- **Text that was read up to its end is read up to any end behind it**, also as text with a name before
it, if that lets nothing end it that did not end it where it was read. -/
theorem interpretedEnd?_append_ending {named named' : Bool}
    (hnamed : ∀ tail, ending? named tail = none → ending? named' tail = none) {previous : Char}
    {t content rest : Text} {e : Ending}
    (h : interpretedEnd? named previous t = some (content, e, rest)) {tail : Text} {e' : Ending}
    (hend : ending? named' tail = some (e', [])) :
    interpretedEnd? named' previous (content ++ backquote :: tail) = some (content, e', []) := by
  induction t generalizing previous content with
  | nil => cases h
  | cons c t ih =>
    rcases interpretedEnd?_cons_eq_some h with ⟨rfl, -, hclose, -⟩ | ⟨x, rfl, hx, hno⟩
    · have hc : (backquote = backquote && mayClose previous) = true := by simp [hclose]
      rw [List.nil_append, interpretedEnd?, if_pos hc, hend]
    · rw [List.cons_append, interpretedEnd?, ih hx]
      split
      · next hc =>
        -- A backquote that ended nothing in the paragraph ends nothing here.
        have hnone := hnamed _ (hno hc)
        rw [interpretedEnd?_append hx] at hnone
        rw [ending?_eq_none hnone]
        rfl
      · rfl

/-- The search for the end of interpreted text finds the same end if nothing stands behind it. -/
theorem interpretedEnd?_raw {named : Bool} {previous : Char} {t content rest : Text} {e : Ending}
    (h : interpretedEnd? named previous t = some (content, e, rest)) :
    interpretedEnd? named previous (content ++ backquote :: e.raw) = some (content, e, []) := by
  obtain ⟨tail, he⟩ := exists_ending?_of_interpretedEnd? h
  exact interpretedEnd?_append_ending (fun _ => id) h (ending?_raw he)

theorem interpreted?_raw {named : Bool} {t content rest : Text} {e : Ending}
    (h : interpreted? named t = some (content, e, rest)) :
    interpreted? named (content ++ backquote :: e.raw) = some (content, e, []) ∧
      content.head? ≠ some backquote ∧ content ≠ [] := by
  obtain ⟨first, t, x, -, rfl, hfirst, hx⟩ := interpreted?_eq_some h
  refine ⟨?_, ?_, List.cons_ne_nil first x⟩
  · rw [List.cons_append, interpreted?, hfirst, interpretedEnd?_raw hx]
    rfl
  · rw [List.head?_cons, Ne, Option.some.injEq]
    rintro rfl
    simp at hfirst

/-! ## Constructs on their own -/

/-- Whether the node of a segment keeps how the segment was written. -/
def Segment.IsKept : Segment → Prop
  | phrase .. => True
  | interpreted .. => True
  | _ => False

theorem construct?_backquote {r : Text} (h : r.head? ≠ some backquote) :
    construct? (backquote :: r) = unnamed? r := by
  have hliteral : Text.after? literalMark (backquote :: r) = none := by
    cases r with
    | nil => rfl
    | cons c r =>
      have hc : backquote ≠ c := fun e => h (by rw [e]; rfl)
      simp [literalMark, Text.after?, hc]
  have hstrong : Text.after? strongMark (backquote :: r) = none := rfl
  have hemphasis : Text.after? emphasisMark (backquote :: r) = none := rfl
  rw [construct?, hstrong, hliteral, hemphasis]
  rfl

/-- Interpreted text on its own, without a name before it, is the construct that its ending makes of
it. -/
theorem construct?_interpreted {t content rest : Text} {e : Ending}
    (h : interpreted? false t = some (content, e, rest)) :
    construct? (enclose [backquote] content ++ e.raw) = some (match e with
      | .plain => .interpreted .absent content
      | .reference anonymous => .phrase content anonymous
      | .role name => .interpreted (.after name) content, []) := by
  obtain ⟨hself, hhead, hne⟩ := interpreted?_raw h
  have htext : enclose [backquote] content ++ e.raw =
      backquote :: (content ++ backquote :: e.raw) := by
    simp [enclose]
  rw [htext, construct?_backquote (by rwa [List.head?_append_of_ne_nil _ hne]), unnamed?, hself]
  cases e <;> rfl

/-- Interpreted text on its own, with the name that stood before it. -/
theorem construct?_named {t u content name rest : Text}
    (hname : roleMarker? t = some (name, backquote :: u))
    (h : interpreted? true u = some (content, .plain, rest)) :
    construct? (colons name ++ enclose [backquote] content) =
      some (.interpreted (.before name) content, []) := by
  obtain ⟨hself, -, -⟩ := interpreted?_raw h
  have hmarker : roleMarker? (colons name ++ backquote :: (content ++ [backquote])) =
      some (name, backquote :: (content ++ [backquote])) := by
    rw [roleMarker?_append_backquote, (isRoleName_of_roleMarker? hname).roleMarker?_colons]
    rfl
  show named? (colons name ++ backquote :: (content ++ [backquote])) = _
  rw [named?, hmarker]
  dsimp only
  rw [if_pos rfl]
  exact congrArg (Option.map _) hself

/-- **A construct that keeps how it was written is read from that again.** -/
theorem construct?_raw {t rest : Text} {s : Segment} (h : construct? t = some (s, rest))
    (hs : s.IsKept) : construct? s.raw = some (s, []) := by
  cases construct_of_construct? h with
  | phrase h => exact construct?_interpreted h
  | absent h =>
    have hself := construct?_interpreted h
    rwa [Ending.raw, List.append_nil] at hself
  | after h => exact construct?_interpreted h
  | before hname h => exact construct?_named hname h
  -- What stands between two equal marks is not kept.
  | _ => exact absurd hs id

/-! ## Segments on their own -/

/-- **A segment that is kept is cut out of its own writing as a whole.** -/
theorem segments_raw {t : Text} (ht : Text.Marked t) {s : Segment} (h : s ∈ segments t)
    (hs : s.IsKept) : segments (Text.escape (Text.restore s.raw)) = [s] := by
  rcases read_of_mem_segmentsAfter none ht s h with ⟨c, rfl⟩ | ⟨hmarked, rest, hread⟩
  · exact absurd hs id
  · have hself : constructAfter? none s.raw = some (s, []) := construct?_raw hread hs
    rw [Text.escape_restore hmarked, segments, segmentsAfter_of_construct hself, segmentsAfter]

/-! ## Nodes -/

theorem mem_appendText {nodes : List Inline} {s : Text} {node : Inline}
    (h : node ∈ appendText nodes s) : node ∈ nodes ∨ ∃ t, node = .text t := by
  unfold appendText at h
  split at h
  · exact Or.inl h
  · split at h
    · next p hp =>
      rcases List.mem_append.1 h with h | h
      · exact Or.inl ((List.dropLast_sublist _).subset h)
      · exact Or.inr ⟨_, List.mem_singleton.1 h⟩
    · rcases List.mem_append.1 h with h | h
      · exact Or.inl h
      · exact Or.inr ⟨_, List.mem_singleton.1 h⟩

/-- A node that keeps how it was written is new only if the segment makes it, alone and on every
line. -/
theorem kept_of_assemble {registry : Registry} (hr : registry.NativeRoles) {line : Nat}
    {nodes nodes' : List Inline} {s : Segment} (h : s.assemble registry line nodes = .ok nodes')
    {node : Inline} (hn : node ∈ nodes') {raw : Text} (hraw : node.rawtext? = some raw) :
    node ∈ nodes ∨ s.IsKept ∧ raw = Text.restore s.raw ∧
      ∀ line', s.assemble registry line' [] = .ok [node] := by
  have honly {n : Inline} (hno : n.rawtext? = none) (hn : node ∈ nodes ++ [n]) : node ∈ nodes := by
    rcases List.mem_append.1 hn with hn | hn
    · exact hn
    · rw [List.mem_singleton.1 hn, hno] at hraw
      cases hraw
  cases s with
  | text t =>
    cases h
    rcases mem_appendText hn with hn | ⟨u, rfl⟩
    · exact Or.inl hn
    · cases hraw
  | emphasis c => cases h; exact Or.inl (honly rfl hn)
  | strong c => cases h; exact Or.inl (honly rfl hn)
  | literal c => cases h; exact Or.inl (honly rfl hn)
  | phrase c anonymous =>
    cases h
    refine (List.mem_append.1 hn).imp id fun hn => ?_
    obtain rfl := List.mem_singleton.1 hn
    cases hraw
    exact ⟨trivial, rfl, fun _ => rfl⟩
  | interpreted place c =>
    obtain ⟨made, hmade, rfl⟩ := Except.map_eq_ok_iff.1 h
    obtain ⟨n, rfl, hkept⟩ := hr.interpret_eq_ok hmade
    refine (List.mem_append.1 hn).imp id fun hn => ?_
    obtain rfl := List.mem_singleton.1 hn
    rw [hkept, Option.some.injEq] at hraw
    refine ⟨trivial, hraw.symm, fun line' => ?_⟩
    exact Except.map_eq_ok_iff.2 ⟨[node], hr.interpret_line hmade line', rfl⟩

theorem kept_of_assembleFrom {registry : Registry} (hr : registry.NativeRoles) {line : Nat}
    {nodes nodes' : List Inline} {ss : List Segment}
    (h : assembleFrom registry line nodes ss = .ok nodes') {node : Inline} (hn : node ∈ nodes')
    {raw : Text} (hraw : node.rawtext? = some raw) :
    node ∈ nodes ∨ ∃ s ∈ ss, s.IsKept ∧ raw = Text.restore s.raw ∧
      ∀ line', s.assemble registry line' [] = .ok [node] := by
  induction ss generalizing line nodes with
  | nil =>
    cases h
    exact Or.inl hn
  | cons s ss ih =>
    unfold assembleFrom at h
    split at h
    · cases h
    · next made hmade =>
      rcases ih h with hmem | ⟨x, hx, hkept⟩
      · exact (kept_of_assemble hr hmade hmem hraw).imp id fun hkept =>
          ⟨s, List.mem_cons_self .., hkept⟩
      · exact Or.inr ⟨x, List.mem_cons_of_mem _ hx, hkept⟩

/-- **What a node keeps says all about it.** Where roles are the library's own, the text that a node
keeps, read on its own and on any line, is that node and nothing else. -/
theorem inlineNodes_rawtext {registry : Registry} (hr : registry.NativeRoles) {t : Text}
    (ht : escapeMarker ∉ t) {line : Nat} {nodes : List Inline}
    (h : inlineNodes registry t line = .ok nodes) {node : Inline} (hn : node ∈ nodes) {raw : Text}
    (hraw : node.rawtext? = some raw) (line' : Nat) :
    inlineNodes registry raw line' = .ok [node] := by
  rcases kept_of_assembleFrom hr h hn hraw with hnil | ⟨s, hs, hkept, rfl, hassemble⟩
  · cases hnil
  · rw [inlineNodes, segments_raw (Text.marked_escape ht) hs hkept, assembleFrom, hassemble]
    rfl

/-- A phrase with a backquote inside a word, and an escaped backquote before a role's name. -/
theorem inlineNodes_rawtext_nested :
    escapeMarker ∉ "(`a`b c`_), `x\\`y`:sub:.".toList ∧
      ∃ nodes, inlineNodes .withBaseGrammar "(`a`b c`_), `x\\`y`:sub:." 1 = .ok nodes ∧
        (∃ node ∈ nodes, node.rawtext? = some "`a`b c`_" ∧
          inlineNodes .withBaseGrammar "`a`b c`_" 7 = .ok [node]) ∧
        ∃ node ∈ nodes, node.rawtext? = some "`x\\`y`:sub:" ∧
          inlineNodes .withBaseGrammar "`x\\`y`:sub:" 7 = .ok [node] := by
  have h : inlineNodes .withBaseGrammar "(`a`b c`_), `x\\`y`:sub:." 1 =
      .ok [.text "(", .element "reference" "a`b c" "`a`b c`_", .text "), ",
        .element "subscript" "x`y" "`x\\`y`:sub:", .text "."] := by
    cbv
  have hr := Registry.nativeRoles_withBaseGrammar
  refine ⟨by decide, _, h, ?_, ?_⟩
  · exact ⟨.element "reference" "a`b c" "`a`b c`_", by simp, rfl,
      inlineNodes_rawtext hr (by decide) h (by simp) rfl 7⟩
  · exact ⟨.element "subscript" "x`y" "`x\\`y`:sub:", by simp, rfl,
      inlineNodes_rawtext hr (by decide) h (by simp) rfl 7⟩

end StructuredText
