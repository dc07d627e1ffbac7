import StructuredText.Inline.RoleMarker
import StructuredText.Inline.Segment
import StructuredText.Text.Escape

/-!
# Constructs of inline markup

A construct begins where the character before it allows it, and ends at the first closing mark that
neither follows white space or an escape nor is followed by a character that continues a word. A
longer opening mark is preferred to a shorter one, and without its end it opens nothing.

Each search comes with what it means that it found something (`closing?_cons_eq_some`,
`interpretedEnd?_cons_eq_some`), and `Construct` lists the ways in which a construct is read; nothing
later opens the searches again. Whatever is read here is a segment that, written out, is what was
read (`construct?_append`).
-/

namespace StructuredText

/-- The characters, besides white space, after which a construct may begin. -/
def isOpeningContext (c : Char) : Bool :=
  c ∈ ['\x27', '"', '(', '[', '\x7b', '<', '-', '/', ':']

/-- The characters, besides white space, before which a construct may end. -/
def isClosingContext (c : Char) : Bool :=
  c ∈ ['\x27', '"', ')', ']', '\x7d', '>', '-', '/', ':', '.', ',', ';', '!', '?', '\\', '\x00']

/-- Whether a construct may begin after this character, or at the start of the text. -/
def mayStart : Option Char → Bool
  | none => true
  | some c => isWhite c || isOpeningContext c

/-- Whether a closing mark may follow this character. -/
def mayClose (previous : Char) : Bool := !isWhite previous && previous ≠ escapeMarker

/-- Whether a construct may end before this text. -/
def mayEnd : Text → Bool
  | [] => true
  | c :: _ => isWhite c || isClosingContext c

/-- What stands before the first closing mark that may end a construct, and what stands after it.
`previous` is the character before the text. A mark that may not end the construct is passed over as
a whole; `skip` counts what is left of it. -/
def closing? (mark : Text) (previous : Char) (skip : Nat) : Text → Option (Text × Text)
  | [] => none
  | c :: t =>
    let further (n : Nat) := (closing? mark c n t).map fun p => (c :: p.1, p.2)
    match skip with
    | n + 1 => further n
    | 0 =>
      match Text.after? mark (c :: t) with
      | none => further 0
      | some rest =>
        if mayClose previous && mayEnd rest then some ([], rest) else further (mark.length - 1)

/-- The content after an opening mark up to the closing one, and what stands after that. The content
is not empty and does not begin with white space. -/
def delimited? (mark : Text) : Text → Option (Text × Text)
  | [] => none
  | first :: t =>
    if isWhite first then none
    else (closing? mark first 0 t).map fun p => (first :: p.1, p.2)

/-- How interpreted text ends. -/
inductive Ending where
  | plain
  | reference (anonymous : Bool)
  | role (name : Text)
  deriving DecidableEq, Repr

namespace Ending

/-- What stands after the closing backquote. -/
def raw : Ending → Text
  | plain => []
  | reference anonymous => underscores anonymous
  | role name => colons name

end Ending

/-- The underscores at the start of a text, two if there are two, and what follows. -/
def underscores? : Text → Option (Bool × Text)
  | '_' :: '_' :: t => some (true, t)
  | '_' :: t => some (false, t)
  | _ => none

/-- How interpreted text ends, given what follows the closing backquote, and what stands after the
ending. If a role name stands before the text, nothing more belongs to it. -/
def ending? (named : Bool) (tail : Text) : Option (Ending × Text) :=
  let reference := (underscores? tail).map fun p => (Ending.reference p.1, p.2)
  let role := (roleMarker? tail).map fun p => (Ending.role p.1, p.2)
  let marked := if named then none else
    (reference.filter fun p => mayEnd p.2).or (role.filter fun p => mayEnd p.2)
  marked.or (if mayEnd tail then some (.plain, tail) else none)

/-- The interpreted text up to the first backquote at which it may end, how it ends there, and what
stands after that. -/
def interpretedEnd? (named : Bool) (previous : Char) : Text → Option (Text × Ending × Text)
  | [] => none
  | c :: t =>
    let further := (interpretedEnd? named c t).map fun p => (c :: p.1, p.2)
    if c = backquote && mayClose previous then
      match ending? named t with
      | some (e, rest) => some ([], e, rest)
      | none => further
    else further

/-- The interpreted text after an opening backquote, how it ends, and what stands after that. -/
def interpreted? (named : Bool) : Text → Option (Text × Ending × Text)
  | [] => none
  | first :: t =>
    if isWhite first || first = backquote then none
    else (interpretedEnd? named first t).map fun p => (first :: p.1, p.2)

/-- Interpreted text or a phrase reference after an opening backquote without a name before it. -/
def unnamed? (t : Text) : Option (Segment × Text) :=
  (interpreted? false t).map fun (content, ending, rest) =>
    match ending with
    | .plain => (.interpreted .absent content, rest)
    | .reference anonymous => (.phrase content anonymous, rest)
    | .role name => (.interpreted (.after name) content, rest)

/-- Interpreted text after a role name. -/
def named? (t : Text) : Option (Segment × Text) :=
  match roleMarker? t with
  | some (name, c :: content) =>
    if c = backquote then
      (interpreted? true content).map fun p => (.interpreted (.before name) p.1, p.2.2)
    else none
  | _ => none

/-- The construct at the start of a text, and what follows it. -/
def construct? (t : Text) : Option (Segment × Text) :=
  match Text.after? strongMark t with
  | some r => (delimited? strongMark r).map fun p => (.strong p.1, p.2)
  | none =>
    match Text.after? literalMark t with
    | some r => (delimited? literalMark r).map fun p => (.literal p.1, p.2)
    | none =>
      match Text.after? emphasisMark t with
      | some r => (delimited? emphasisMark r).map fun p => (.emphasis p.1, p.2)
      | none =>
        match Text.after? [backquote] t with
        | some r => unnamed? r
        | none => named? t

/-! ## What is found -/

/-- The search for a closing mark ends at the mark, or goes on behind a character. -/
theorem closing?_cons_eq_some {mark : Text} {previous c : Char} {skip : Nat}
    {t content rest : Text} (h : closing? mark previous skip (c :: t) = some (content, rest)) :
    (content = [] ∧ Text.after? mark (c :: t) = some rest ∧ mayClose previous = true ∧
        mayEnd rest = true) ∨
      ∃ x n, content = c :: x ∧ closing? mark c n t = some (x, rest) := by
  have further {n : Nat}
      (hn : (closing? mark c n t).map (fun p => (c :: p.1, p.2)) = some (content, rest)) :
      ∃ x n, content = c :: x ∧ closing? mark c n t = some (x, rest) := by
    obtain ⟨⟨x, r⟩, hx, he⟩ := Option.map_eq_some_iff.1 hn
    cases he
    exact ⟨x, n, rfl, hx⟩
  unfold closing? at h
  cases skip with
  | succ n => exact Or.inr (further h)
  | zero =>
    dsimp only at h
    split at h
    · exact Or.inr (further h)
    · next r hr =>
      split at h
      · next hend =>
        cases h
        rw [Bool.and_eq_true] at hend
        exact Or.inl ⟨rfl, hr, hend⟩
      · exact Or.inr (further h)

theorem closing?_append {mark : Text} {previous : Char} {skip : Nat} {t content rest : Text}
    (h : closing? mark previous skip t = some (content, rest)) : t = content ++ mark ++ rest := by
  induction t generalizing previous skip content with
  | nil => simp [closing?] at h
  | cons c t ih =>
    rcases closing?_cons_eq_some h with ⟨rfl, hmark, -⟩ | ⟨x, n, rfl, hx⟩
    · rw [List.nil_append, Text.eq_append_of_after? hmark]
    · rw [ih hx, List.cons_append, List.cons_append]

/-- What stands between two marks is not empty and does not begin with white space. -/
theorem delimited?_eq_some {mark t content rest : Text}
    (h : delimited? mark t = some (content, rest)) :
    ∃ first t' x, t = first :: t' ∧ content = first :: x ∧ isWhite first = false ∧
      closing? mark first 0 t' = some (x, rest) := by
  unfold delimited? at h
  split at h
  · cases h
  · next first t =>
    split at h
    · cases h
    · next hfirst =>
      obtain ⟨⟨x, r⟩, hx, he⟩ := Option.map_eq_some_iff.1 h
      cases he
      exact ⟨first, t, x, rfl, rfl, by simpa using hfirst, hx⟩

theorem delimited?_append {mark t content rest : Text}
    (h : delimited? mark t = some (content, rest)) : t = content ++ mark ++ rest := by
  obtain ⟨first, t, x, rfl, rfl, -, hx⟩ := delimited?_eq_some h
  rw [closing?_append hx, List.cons_append, List.cons_append]

theorem underscores?_append {t rest : Text} {anonymous : Bool}
    (h : underscores? t = some (anonymous, rest)) : t = underscores anonymous ++ rest := by
  unfold underscores? at h
  split at h <;> cases h <;> rfl

/-- An ending is plain, or it was read as underscores or as a role marker and no name stood before the
text. -/
theorem ending?_eq_some {named : Bool} {tail rest : Text} {e : Ending}
    (h : ending? named tail = some (e, rest)) :
    (e = .plain ∧ rest = tail) ∨ named = false ∧
      ((∃ anonymous, e = .reference anonymous ∧ underscores? tail = some (anonymous, rest)) ∨
        ∃ name, e = .role name ∧ roleMarker? tail = some (name, rest)) := by
  unfold ending? at h
  dsimp only at h
  rcases Option.or_eq_some_iff.1 h with hmarked | ⟨-, hplain⟩
  · split at hmarked
    · cases hmarked
    · next hnamed =>
      refine Or.inr ⟨by simpa using hnamed, ?_⟩
      rcases Option.or_eq_some_iff.1 hmarked with hread | ⟨-, hread⟩
      · obtain ⟨⟨a, r⟩, ha, he⟩ := Option.map_eq_some_iff.1 (Option.filter_eq_some_iff.1 hread).1
        cases he
        exact Or.inl ⟨a, rfl, ha⟩
      · obtain ⟨⟨n, r⟩, hn, he⟩ := Option.map_eq_some_iff.1 (Option.filter_eq_some_iff.1 hread).1
        cases he
        exact Or.inr ⟨n, rfl, hn⟩
  · split at hplain <;> cases hplain
    exact Or.inl ⟨rfl, rfl⟩

theorem ending?_append {named : Bool} {tail rest : Text} {e : Ending}
    (h : ending? named tail = some (e, rest)) : tail = e.raw ++ rest := by
  rcases ending?_eq_some h with ⟨rfl, rfl⟩ | ⟨-, ⟨anonymous, rfl, ha⟩ | ⟨name, rfl, hn⟩⟩
  · rfl
  · exact underscores?_append ha
  · simp [Ending.raw, colons, roleMarker?_append hn]

/-- The search for the end of interpreted text ends at a backquote, or goes on behind a character
that is no end. -/
theorem interpretedEnd?_cons_eq_some {named : Bool} {previous c : Char} {t content rest : Text}
    {e : Ending} (h : interpretedEnd? named previous (c :: t) = some (content, e, rest)) :
    (content = [] ∧ c = backquote ∧ mayClose previous = true ∧ ending? named t = some (e, rest)) ∨
      ∃ x, content = c :: x ∧ interpretedEnd? named c t = some (x, e, rest) ∧
        ((c = backquote && mayClose previous) = true → ending? named t = none) := by
  have further (hn : (interpretedEnd? named c t).map (fun p => (c :: p.1, p.2)) =
      some (content, e, rest)) :
      ∃ x, content = c :: x ∧ interpretedEnd? named c t = some (x, e, rest) := by
    obtain ⟨⟨x, r⟩, hx, he⟩ := Option.map_eq_some_iff.1 hn
    cases he
    exact ⟨x, rfl, hx⟩
  rw [interpretedEnd?] at h
  split at h
  · next hc =>
    split at h
    · next e' r he =>
      cases h
      simp only [Bool.and_eq_true, decide_eq_true_eq] at hc
      exact Or.inl ⟨rfl, hc.1, hc.2, he⟩
    · next hnone =>
      obtain ⟨x, hx, hfound⟩ := further h
      exact Or.inr ⟨x, hx, hfound, fun _ => hnone⟩
  · next hc =>
    obtain ⟨x, hx, hfound⟩ := further h
    exact Or.inr ⟨x, hx, hfound, fun hc' => absurd hc' hc⟩

theorem interpretedEnd?_append {named : Bool} {previous : Char} {t content rest : Text}
    {e : Ending} (h : interpretedEnd? named previous t = some (content, e, rest)) :
    t = content ++ backquote :: (e.raw ++ rest) := by
  induction t generalizing previous content with
  | nil => simp [interpretedEnd?] at h
  | cons c t ih =>
    rcases interpretedEnd?_cons_eq_some h with ⟨rfl, rfl, -, he⟩ | ⟨x, rfl, hx, -⟩
    · rw [ending?_append he, List.nil_append]
    · rw [ih hx, List.cons_append]

/-- Interpreted text begins with a character that is neither white space nor a backquote. -/
theorem interpreted?_eq_some {named : Bool} {t content rest : Text} {e : Ending}
    (h : interpreted? named t = some (content, e, rest)) :
    ∃ first t' x, t = first :: t' ∧ content = first :: x ∧
      (isWhite first || first = backquote) = false ∧
      interpretedEnd? named first t' = some (x, e, rest) := by
  unfold interpreted? at h
  split at h
  · cases h
  · next first t =>
    split at h
    · cases h
    · next hfirst =>
      obtain ⟨⟨x, r⟩, hx, he⟩ := Option.map_eq_some_iff.1 h
      cases he
      exact ⟨first, t, x, rfl, rfl, by simpa using hfirst, hx⟩

theorem interpreted?_append {named : Bool} {t content rest : Text} {e : Ending}
    (h : interpreted? named t = some (content, e, rest)) :
    t = content ++ backquote :: (e.raw ++ rest) := by
  obtain ⟨first, t, x, rfl, rfl, -, hx⟩ := interpreted?_eq_some h
  rw [interpretedEnd?_append hx, List.cons_append]

/-- After a role name, interpreted text has no marks of its own behind the closing backquote. -/
theorem ending?_named {tail rest : Text} {e : Ending} (h : ending? true tail = some (e, rest)) :
    e = .plain := by
  rcases ending?_eq_some h with ⟨he, -⟩ | ⟨hnamed, -⟩
  · exact he
  · cases hnamed

theorem interpretedEnd?_named {previous : Char} {t content rest : Text} {e : Ending}
    (h : interpretedEnd? true previous t = some (content, e, rest)) : e = .plain := by
  induction t generalizing previous content with
  | nil => simp [interpretedEnd?] at h
  | cons c t ih =>
    rcases interpretedEnd?_cons_eq_some h with ⟨-, -, -, he⟩ | ⟨x, -, hx, -⟩
    · exact ending?_named he
    · exact ih hx

theorem interpreted?_named {t content rest : Text} {e : Ending}
    (h : interpreted? true t = some (content, e, rest)) : e = .plain := by
  obtain ⟨first, t, x, -, -, -, hx⟩ := interpreted?_eq_some h
  exact interpretedEnd?_named hx

/-! ## What is read as a construct -/

/-- The ways in which a construct is read at the start of a text, with what follows it: one for each
form of a segment. -/
inductive Construct : Text → Segment → Text → Prop where
  | strong {t c rest : Text} (h : delimited? strongMark t = some (c, rest)) :
    Construct (strongMark ++ t) (.strong c) rest
  | literal {t c rest : Text} (h : delimited? literalMark t = some (c, rest)) :
    Construct (literalMark ++ t) (.literal c) rest
  | emphasis {t c rest : Text} (h : delimited? emphasisMark t = some (c, rest)) :
    Construct (emphasisMark ++ t) (.emphasis c) rest
  | phrase {t c rest : Text} {anonymous : Bool}
    (h : interpreted? false t = some (c, .reference anonymous, rest)) :
    Construct (backquote :: t) (.phrase c anonymous) rest
  | absent {t c rest : Text} (h : interpreted? false t = some (c, .plain, rest)) :
    Construct (backquote :: t) (.interpreted .absent c) rest
  | after {t c name rest : Text} (h : interpreted? false t = some (c, .role name, rest)) :
    Construct (backquote :: t) (.interpreted (.after name) c) rest
  | before {t u c name rest : Text} (hname : roleMarker? t = some (name, backquote :: u))
    (h : interpreted? true u = some (c, .plain, rest)) :
    Construct t (.interpreted (.before name) c) rest

theorem construct_of_unnamed? {t rest : Text} {s : Segment} (h : unnamed? t = some (s, rest)) :
    Construct (backquote :: t) s rest := by
  unfold unnamed? at h
  obtain ⟨⟨content, e, r⟩, hi, he⟩ := Option.map_eq_some_iff.1 h
  cases e with
  | plain => cases he; exact .absent hi
  | reference anonymous => cases he; exact .phrase hi
  | role name => cases he; exact .after hi

theorem construct_of_named? {t rest : Text} {s : Segment} (h : named? t = some (s, rest)) :
    Construct t s rest := by
  unfold named? at h
  split at h
  · next name c content hm =>
    split at h
    · next hc =>
      obtain ⟨⟨x, e, r⟩, hi, he⟩ := Option.map_eq_some_iff.1 h
      cases he
      rw [hc] at hm
      rw [interpreted?_named hi] at hi
      exact .before hm hi
    · cases h
  · cases h

/-- **What is read as a construct.** -/
theorem construct_of_construct? {t rest : Text} {s : Segment}
    (h : construct? t = some (s, rest)) : Construct t s rest := by
  have between {mark r : Text} {make : Text → Segment}
      (hmake : ∀ c, delimited? mark r = some (c, rest) → Construct (mark ++ r) (make c) rest)
      (hr : Text.after? mark t = some r)
      (hd : (delimited? mark r).map (fun p => (make p.1, p.2)) = some (s, rest)) :
      Construct t s rest := by
    obtain ⟨⟨c, q⟩, hc, he⟩ := Option.map_eq_some_iff.1 hd
    cases he
    rw [Text.eq_append_of_after? hr]
    exact hmake c hc
  unfold construct? at h
  split at h
  · next r hr => exact between (fun _ => .strong) hr h
  · split at h
    · next r hr => exact between (fun _ => .literal) hr h
    · split at h
      · next r hr => exact between (fun _ => .emphasis) hr h
      · split at h
        · next r hr =>
          rw [Text.eq_append_of_after? hr]
          exact construct_of_unnamed? h
        · exact construct_of_named? h

/-- A construct is written as it stands at the start of the text. -/
theorem construct?_append {t rest : Text} {s : Segment} (h : construct? t = some (s, rest)) :
    t = s.raw ++ rest := by
  cases construct_of_construct? h with
  | strong h => simp [Segment.raw, enclose, delimited?_append h]
  | literal h => simp [Segment.raw, enclose, delimited?_append h]
  | emphasis h => simp [Segment.raw, enclose, delimited?_append h]
  | phrase h => simp [Segment.raw, enclose, interpreted?_append h, Ending.raw]
  | absent h => simp [Segment.raw, enclose, interpreted?_append h, Ending.raw]
  | after h => simp [Segment.raw, enclose, interpreted?_append h, Ending.raw]
  | before hname h =>
    simp [Segment.raw, enclose, colons, roleMarker?_append hname, interpreted?_append h, Ending.raw]

/-- A construct is never plain text. -/
theorem ne_text_of_construct? {t rest c : Text} {s : Segment}
    (h : construct? t = some (s, rest)) : s ≠ .text c := by
  cases construct_of_construct? h <;> exact Segment.noConfusion

/-- A construct is never empty. -/
theorem raw_ne_nil_of_construct? {t rest : Text} {s : Segment}
    (h : construct? t = some (s, rest)) : s.raw ≠ [] := by
  cases s with
  | text c => exact absurd rfl (ne_text_of_construct? h)
  | interpreted place c => cases place <;> simp [Segment.raw, enclose, colons]
  | _ => simp [Segment.raw, enclose, emphasisMark, strongMark, literalMark]

/-- What follows a construct is shorter than the text. -/
theorem length_lt_of_construct? {t rest : Text} {s : Segment}
    (h : construct? t = some (s, rest)) : rest.length < t.length := by
  have hpos := List.length_pos_iff.2 (raw_ne_nil_of_construct? h)
  rw [construct?_append h, List.length_append]
  omega

end StructuredText
