import Conform.Message
import Mathlib.Data.List.Basic
/-! Filling message templates. A template is text with the placeholders `{field}`, `{actual}`
and `{expected}`, and rendering fills them one kind after another on the text so far: text put
in for `{field}` is scanned again for `{actual}` and `{expected}`, and text put in for
`{actual}` again for `{expected}`. So an undeclared key spelled `{expected}` in a strict object
comes out as the expected value, empty there, not as itself (`render_rewrites_put_in_text`).

Read as pieces, literal characters and placeholders, a template whose every `{` opens a
placeholder (`Template`) is filled in place when the field and the actual value bring no `{` of
their own: rendering is then the simultaneous substitution, each placeholder replaced by its
value and nothing put in read again (`render_fills_slots`). The argument is one lemma about a
single replacement (`replaceChars_pieces`): literal text opens no placeholder, a placeholder of
another kind differs from the one replaced right after its `{`, and a placeholder of the kind
replaced is replaced whole. -/

namespace Conform

/-! ### Replacing a pattern that opens with a given character -/

namespace Text

variable {x : Char} {xs rep : List Char}

theorem replaceChars_cons_of_ne {c : Char} (cs : List Char) (h : c ≠ x) :
    replaceChars (x :: xs) rep (c :: cs) = c :: replaceChars (x :: xs) rep cs := by
  rw [replaceChars, dif_neg]
  simp [List.isPrefixOf, Ne.symm h]

theorem replaceChars_append_of_not_mem {l : List Char} (rest : List Char) (h : x ∉ l) :
    replaceChars (x :: xs) rep (l ++ rest) = l ++ replaceChars (x :: xs) rep rest := by
  induction l with
  | nil => rfl
  | cons c l ih =>
    have hc : c ≠ x := fun hc => h (hc ▸ List.mem_cons_self)
    rw [List.cons_append, replaceChars_cons_of_ne _ hc, ih fun hl => h (List.mem_cons_of_mem _ hl)]
    rfl

theorem replaceChars_pat_append (rest : List Char) :
    replaceChars (x :: xs) rep (x :: xs ++ rest) = rep ++ replaceChars (x :: xs) rep rest := by
  rw [List.cons_append, replaceChars, dif_pos ⟨List.cons_ne_nil x xs, by simp⟩]
  simp

end Text

namespace Messages

/-! ### Templates read as pieces -/

/-- The three placeholders of a message template. -/
inductive Slot
  | field
  | actual
  | expected
  deriving DecidableEq, Repr

namespace Slot

def text : Slot → String
  | .field => "{field}"
  | .actual => "{actual}"
  | .expected => "{expected}"

/-- What each placeholder is filled with: the field, and the actual and expected values as
`display` shows them. -/
def value (field : String) (actual expected : Option Json) : Slot → String
  | .field => field
  | .actual => display actual
  | .expected => display expected

theorem text_eq_cons (s : Slot) : ∃ name, s.text.toList = '{' :: name ∧ '{' ∉ name := by
  refine ⟨s.text.toList.tail, ?_, ?_⟩ <;> cases s <;> decide

theorem text_not_isPrefixOf {s t : Slot} (h : s ≠ t) (rest : List Char) :
    s.text.toList.isPrefixOf (t.text.toList ++ rest) = false := by
  cases s <;> cases t <;> simp_all [text, List.isPrefixOf]

theorem replaceChars_other {s t : Slot} (h : s ≠ t) (rep rest : List Char) :
    Text.replaceChars s.text.toList rep (t.text.toList ++ rest) =
      t.text.toList ++ Text.replaceChars s.text.toList rep rest := by
  obtain ⟨ns, hs, -⟩ := s.text_eq_cons
  obtain ⟨nt, ht, hnt⟩ := t.text_eq_cons
  have hpre := text_not_isPrefixOf h rest
  rw [hs, ht, List.cons_append] at hpre
  rw [hs, ht]
  -- the `{` is copied because the placeholder replaced does not start there, and what
  -- follows it holds no `{`
  rw [List.cons_append, Text.replaceChars, dif_neg (by rw [hpre]; simp),
    Text.replaceChars_append_of_not_mem _ hnt]
  rfl

end Slot

/-- A piece of a template: a character of literal text, or a placeholder. -/
inductive Piece
  | char (c : Char)
  | slot (s : Slot)
  deriving DecidableEq, Repr

namespace Piece

def text : Piece → List Char
  | .char c => [c]
  | .slot s => s.text.toList

/-- A piece filled in one pass: a placeholder becomes its value, which is not read again. -/
def fill (value : Slot → String) : Piece → List Char
  | .char c => [c]
  | .slot s => (value s).toList

/-- A piece once the placeholders of kind `s` are filled with `rep`, the text put in read as
literal characters. -/
def put (s : Slot) (rep : List Char) (p : Piece) : List Piece :=
  if p = .slot s then rep.map .char else [p]

@[simp] theorem put_self (s : Slot) (rep : List Char) : put s rep (.slot s) = rep.map char :=
  if_pos rfl

theorem put_of_ne {s : Slot} {p : Piece} (rep : List Char) (h : p ≠ .slot s) : put s rep p = [p] :=
  if_neg h

theorem flatMap_chars {f : Piece → List Char} (hf : ∀ c, f (char c) = [c]) (l : List Char) :
    (l.map char).flatMap f = l := by
  induction l with
  | nil => rfl
  | cons c l ih => simp [hf, ih]

@[simp] theorem flatMap_put_chars (s : Slot) (rep l : List Char) :
    (l.map char).flatMap (put s rep) = l.map char := by
  induction l with
  | nil => rfl
  | cons c l ih => simp [put, ih]

end Piece

/-- A message template whose literal text opens no placeholder: every `{` in it begins one of
`{field}`, `{actual}` and `{expected}`. -/
structure Template where
  pieces : List Piece
  plain : ∀ p ∈ pieces, p ≠ .char '{'

namespace Template

def text (t : Template) : String :=
  String.ofList (t.pieces.flatMap Piece.text)

/-- A template with every placeholder filled with its value in one pass. -/
def fill (t : Template) (value : Slot → String) : String :=
  String.ofList (t.pieces.flatMap (Piece.fill value))

/-- A template once the placeholders of kind `s` are filled with text that opens none. -/
def put (t : Template) (s : Slot) (rep : List Char) (h : '{' ∉ rep) : Template where
  pieces := t.pieces.flatMap (Piece.put s rep)
  plain := by
    intro p hp
    obtain ⟨q, hq, hpq⟩ := List.mem_flatMap.mp hp
    unfold Piece.put at hpq
    split at hpq
    · obtain ⟨c, hc, rfl⟩ := List.mem_map.mp hpq
      exact fun hc' => h (Piece.char.inj hc' ▸ hc)
    · exact List.mem_singleton.mp hpq ▸ t.plain q hq

/-- Replacing one kind of placeholder in a template's text replaces exactly its placeholders. -/
theorem replaceChars_pieces (s : Slot) (rep : List Char) {ps : List Piece}
    (hps : ∀ p ∈ ps, p ≠ .char '{') :
    Text.replaceChars s.text.toList rep (ps.flatMap Piece.text) =
      ps.flatMap fun p => if p = .slot s then rep else p.text := by
  induction ps with
  | nil => rw [List.flatMap_nil, Text.replaceChars]; rfl
  | cons p ps ih =>
    have ih' := ih fun q hq => hps q (List.mem_cons_of_mem _ hq)
    rw [List.flatMap_cons, List.flatMap_cons]
    cases p with
    | char c =>
      have hc : c ≠ '{' := fun h => hps _ List.mem_cons_self (h ▸ rfl)
      obtain ⟨name, hs, -⟩ := s.text_eq_cons
      rw [hs] at ih' ⊢
      rw [Piece.text, List.singleton_append, Text.replaceChars_cons_of_ne _ hc, ih']
      simp
    | slot t =>
      by_cases hst : t = s
      · subst hst
        obtain ⟨name, hs, -⟩ := t.text_eq_cons
        rw [hs] at ih' ⊢
        rw [Piece.text, hs, Text.replaceChars_pat_append, ih']
        simp
      · rw [Piece.text, Slot.replaceChars_other (Ne.symm hst), ih']
        simp [hst, Piece.text]

theorem replaceAll_text (t : Template) (s : Slot) (rep : String) :
    Text.replaceAll t.text s.text rep =
      String.ofList (t.pieces.flatMap fun p => if p = .slot s then rep.toList else p.text) := by
  rw [Text.replaceAll, text, String.toList_ofList, replaceChars_pieces s _ t.plain]

theorem text_put (t : Template) (s : Slot) (rep : List Char) (h : '{' ∉ rep) :
    (t.put s rep h).text =
      String.ofList (t.pieces.flatMap fun p => if p = .slot s then rep else p.text) := by
  rw [text, put, List.flatMap_assoc]
  congr 1
  refine List.flatMap_congr fun p _ => ?_
  by_cases hp : p = .slot s
  · simp [Piece.put, hp, @Piece.flatMap_chars Piece.text (fun _ => rfl)]
  · simp [Piece.put, hp]

theorem replaceAll_eq_put (t : Template) (s : Slot) (rep : String) (h : '{' ∉ rep.toList) :
    Text.replaceAll t.text s.text rep = (t.put s rep.toList h).text := by
  rw [replaceAll_text, text_put]

/-- Filling `{field}`, then `{actual}`, then `{expected}`, each placeholder in turn with the
text the earlier ones put in read as literal characters, is filling them all at once. -/
theorem put_put_fill (value : Slot → String) (p : Piece) :
    ((Piece.put .field (value .field).toList p).flatMap fun q =>
      (Piece.put .actual (value .actual).toList q).flatMap fun r =>
        if r = .slot .expected then (value .expected).toList else r.text) =
      p.fill value := by
  rcases p with c | s
  · simp [Piece.put, Piece.fill, Piece.text]
  · -- a value put in is literal text, which the later fillings copy
    have hlast := @Piece.flatMap_chars
      (fun r => if r = .slot .expected then (value .expected).toList else r.text)
      (fun c => by simp [Piece.text])
    have hboth := @Piece.flatMap_chars
      (fun q => (Piece.put .actual (value .actual).toList q).flatMap fun r =>
        if r = .slot .expected then (value .expected).toList else r.text)
      (fun c => by simp [Piece.put, Piece.text])
    cases s with
    | field => rw [Piece.put_self, hboth]; rfl
    | actual =>
      rw [Piece.put_of_ne _ (by decide), List.flatMap_singleton, Piece.put_self, hlast]
      rfl
    | expected => simp [Piece.put, Piece.fill]

end Template

/-! ### Rendering -/

/-- Rendering fills the placeholders one kind after another; for a template whose every `{` opens a
placeholder, and values that bring no `{`, it fills each placeholder once. -/
theorem render_fills_slots (m : Messages) (kind field : String) (actual expected : Option Json) :
    (m.render kind field actual expected = none ↔ m.get? kind = none) ∧
    ∀ t : Template, m.get? kind = some t.text →
      '{' ∉ field.toList → '{' ∉ (display actual).toList →
        m.render kind field actual expected = some (t.fill (Slot.value field actual expected)) := by
  refine ⟨by simp [render], fun t ht hf ha => ?_⟩
  simp only [render, ht, Option.map_some]
  change some (Text.replaceAll (Text.replaceAll (Text.replaceAll t.text Slot.field.text field)
    Slot.actual.text (display actual)) Slot.expected.text (display expected)) = _
  -- after `{field}` and `{actual}` are filled, the text is again a template
  rw [Template.replaceAll_eq_put t .field field hf,
    Template.replaceAll_eq_put _ .actual (display actual) ha, Template.replaceAll_text,
    Template.fill]
  simp only [Template.put, List.flatMap_assoc]
  exact congrArg (some ∘ String.ofList)
    (List.flatMap_congr fun p _ => Template.put_put_fill (Slot.value field actual expected) p)

/-- The built-in strict-object template, read as text and the placeholders `{field}` and
`{actual}`. -/
def objectStrictTemplate : Template where
  pieces := "The object '".toList.map .char ++ [.slot .field] ++
    "' contains forbidden keys: '".toList.map .char ++ [.slot .actual] ++ "'.".toList.map .char
  plain := by decide +kernel

/-- The strict-object message names the undeclared key. -/
theorem render_names_forbidden_keys :
    Messages.defaults.render "objectStrict" "user" (some (.str "age")) none =
      some "The object 'user' contains forbidden keys: 'age'." := by
  have hpieces : "The object '{field}' contains forbidden keys: '{actual}'.".toList =
      objectStrictTemplate.pieces.flatMap Piece.text := by decide +kernel
  have htemplate : Messages.defaults.get? "objectStrict" = some objectStrictTemplate.text := by
    rw [Template.text, ← hpieces, String.ofList_toList]
    rfl
  rw [(render_fills_slots Messages.defaults "objectStrict" "user" (some (.str "age")) none).2
    objectStrictTemplate htemplate (by decide) (by decide)]
  decide

/-- Text put in is read again: an undeclared key spelled `{expected}` in a strict object at
the root is taken for the expected value, absent there, and vanishes from the message. -/
theorem render_rewrites_put_in_text :
    Messages.defaults.render "objectStrict" "" (some (.str "{expected}")) none =
      some "The object '' contains forbidden keys: ''." := by
  have htemplate : Messages.defaults.get? "objectStrict" =
      some "The object '{field}' contains forbidden keys: '{actual}'." := rfl
  simp [render, htemplate, Text.replaceAll, Text.replaceChars, display, List.isPrefixOf]

end Messages

end Conform
