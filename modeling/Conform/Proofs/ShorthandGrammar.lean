import Conform.Proofs.Flatten
import Mathlib.Data.String.Basic
import Mathlib.Data.List.TakeWhile
/-! The grammar of shorthand text. A shorthand is cut at every `|` into segments, each trimmed of
blanks; the first names the rule and the others, empty ones skipped, set options, a later
setting of a key overriding an earlier one. Proved: `Shorthand.expand` fails exactly when the
first segment is empty, and otherwise gives the node of that rule whose options, sorted by key,
are for each key the setting of the last segment naming it (`expand_follows_grammar`); and a
text that a shorthand sets an option to is a strict substring of the shorthand with no `|` in it
(`expand_text_option`). -/

namespace Conform

/-! ### Pieces of a list cut at a separator -/

namespace Shorthand

theorem splitOn_pieces {sep : Char} (cs : List Char) :
    (∀ p ∈ cs.splitOn sep, p <:+: cs ∧ sep ∉ p) ∧ ∀ p ∈ (cs.splitOn sep).head?, p <+: cs := by
  induction cs with
  | nil => simp
  | cons c cs ih =>
    rw [List.splitOn_cons_eq_if_modifyHead]
    by_cases hc : c = sep
    · simp only [hc, beq_self_eq_true, if_true, List.mem_cons, List.head?_cons,
        Option.mem_def, Option.some.injEq]
      refine ⟨fun p hp => ?_, fun p hp => hp ▸ List.nil_prefix⟩
      rcases hp with rfl | hp
      · exact ⟨List.nil_infix, by simp⟩
      · exact ⟨(ih.1 p hp).1.trans (List.suffix_cons _ _).isInfix, (ih.1 p hp).2⟩
    · have hb : (c == sep) = false := beq_eq_false_iff_ne.mpr hc
      obtain ⟨h, rest, hs⟩ := List.exists_cons_of_ne_nil (List.splitOn_ne_nil sep cs)
      rw [hs] at ih
      simp only [hb, Bool.false_eq_true, if_false, hs, List.modifyHead_cons,
        List.head?_cons, Option.mem_def, Option.some.injEq, List.mem_cons] at ih ⊢
      -- the first piece grows by `c`, the others stay pieces of the tail
      have hh : c :: h <+: c :: cs := (List.prefix_cons_inj c).mpr (ih.2 h rfl)
      refine ⟨fun p hp => ?_, fun p hp => hp ▸ hh⟩
      rcases hp with rfl | hp
      · exact ⟨hh.isInfix, by simpa [Ne.symm hc] using (ih.1 h (.inl rfl)).2⟩
      · exact ⟨(ih.1 p (.inr hp)).1.trans (List.suffix_cons _ _).isInfix, (ih.1 p (.inr hp)).2⟩

end Shorthand

namespace Text

theorem trimChars_infix (cs : List Char) : trimChars cs <:+: cs := by
  unfold trimChars trimEndChars trimStartChars
  have hsuf : (cs.dropWhile isBlank).reverse.dropWhile isBlank <:+ (cs.dropWhile isBlank).reverse :=
    List.dropWhile_suffix isBlank
  have hpre : ((cs.dropWhile isBlank).reverse.dropWhile isBlank).reverse <+: cs.dropWhile isBlank :=
    List.reverse_suffix.mp (by rw [List.reverse_reverse]; exact hsuf)
  exact hpre.isInfix.trans (List.dropWhile_suffix isBlank).isInfix

end Text

namespace Shorthand

/-! ### Segments and what each sets -/

/-- The segments of a shorthand: its text cut at every `|`, each piece trimmed. -/
def segments (t : String) : List (List Char) := (t.toList.splitOn '|').map Text.trimChars

/-- The key a segment sets: the trimmed text before its first `:`, or the whole segment when it
has none. -/
def segmentKey (p : List Char) : String :=
  if ':' ∈ p then String.ofList (Text.trimChars (p.takeWhile (· != ':'))) else String.ofList p

/-- The value a segment sets: the scalar that the trimmed text after its first `:` reads as, or
`true` when it has no `:`. -/
def segmentValue (p : List Char) : Json :=
  if ':' ∈ p then scalar (String.ofList (Text.trimChars ((p.dropWhile (· != ':')).drop 1)))
  else .bool true

theorem splitChars_eq_splitOn (sep : Char) (cs : List Char) : splitChars sep cs = cs.splitOn sep := by
  induction cs with
  | nil => rfl
  | cons c cs ih =>
    rw [splitChars, List.splitOn_cons_eq_if_modifyHead, ← ih]
    by_cases hc : c = sep
    · simp [hc]
    · obtain ⟨p, ps, hs⟩ := List.exists_cons_of_ne_nil (ih ▸ List.splitOn_ne_nil sep cs)
      simp [hc, hs]

theorem splitFirst_eq (sep : Char) (cs : List Char) :
    splitFirst sep cs =
      if sep ∈ cs then some (cs.takeWhile (· != sep), (cs.dropWhile (· != sep)).drop 1) else none := by
  induction cs with
  | nil => rfl
  | cons c cs ih =>
    by_cases hc : c = sep
    · subst hc
      simp [splitFirst]
    · have hb : (c != sep) = true := bne_iff_ne.mpr hc
      rw [splitFirst, if_neg hc, ih]
      by_cases hm : sep ∈ cs
      · simp [hm, hb]
      · simp [hm, Ne.symm hc]

theorem setPiece_eq (n : Node) (p : List Char) :
    setPiece n p = n.set (segmentKey p) (.value (segmentValue p)) := by
  unfold setPiece segmentKey segmentValue
  rw [splitFirst_eq]
  by_cases hm : ':' ∈ p <;> simp [hm]

theorem scalar_eq_str {raw v : String} (h : scalar raw = .str v) : v = raw := by
  unfold scalar at h
  split at h <;> cases h
  rfl

/-! ### Settings, the last one winning -/

theorem Options.mem_insert {α : Type} {l : List (String × α)} {k : String} {v : α}
    {q : String × α} (hq : q ∈ Options.insert l k v) : q = (k, v) ∨ q ∈ l := by
  induction l with
  | nil => simpa [Options.insert] using hq
  | cons p rest ih =>
    obtain ⟨k', v'⟩ := p
    simp only [Options.insert] at hq
    split_ifs at hq
    · rcases List.mem_cons.mp hq with rfl | hq
      · exact .inl rfl
      · exact .inr (List.mem_cons_of_mem _ hq)
    · rcases List.mem_cons.mp hq with rfl | hq
      · exact .inl rfl
      · exact .inr hq
    · rcases List.mem_cons.mp hq with rfl | hq
      · exact .inr List.mem_cons_self
      · exact (ih hq).imp_right (List.mem_cons_of_mem _)

theorem Options.pairwise_insert {α : Type} {l : List (String × α)} (k : String) (v : α)
    (hl : l.Pairwise fun a b => a.1 < b.1) :
    (Options.insert l k v).Pairwise fun a b => a.1 < b.1 := by
  induction l with
  | nil => simp [Options.insert]
  | cons p rest ih =>
    obtain ⟨k', v'⟩ := p
    rw [List.pairwise_cons] at hl
    simp only [Options.insert]
    split_ifs with heq hlt
    · subst heq
      exact List.pairwise_cons.mpr ⟨hl.1, hl.2⟩
    · refine List.pairwise_cons.mpr ⟨fun q hq => ?_, List.pairwise_cons.mpr hl⟩
      rcases List.mem_cons.mp hq with rfl | hq
      · exact hlt
      · exact lt_trans hlt (hl.1 q hq)
    · -- the key goes further in, above `k'`
      have hgt : k' < k := lt_of_le_of_ne (not_lt.mp hlt) (Ne.symm heq)
      refine List.pairwise_cons.mpr ⟨fun q hq => ?_, ih hl.2⟩
      rcases Options.mem_insert hq with rfl | hq
      · exact hgt
      · exact hl.1 q hq

/-- After setting pieces in order, a key holds the value of the last piece naming it, or else
what it held before. -/
theorem get?_foldl_setPiece (ps : List (List Char)) (n : Node) (k : String) :
    (ps.foldl setPiece n).get? k =
      ((ps.reverse.find? (segmentKey · == k)).map fun p => .value (segmentValue p)).or (n.get? k) := by
  induction ps generalizing n with
  | nil => simp
  | cons p rest ih =>
    rw [List.foldl_cons, ih, List.reverse_cons, List.find?_append]
    by_cases hk : segmentKey p = k
    · have hget : (setPiece n p).get? k = some (.value (segmentValue p)) := by
        rw [setPiece_eq, ← hk]
        exact Options.lookup_insert_self _ _ _
      cases rest.reverse.find? (segmentKey · == k) <;> simp [hget, hk]
    · have hget : (setPiece n p).get? k = n.get? k := by
        rw [setPiece_eq]
        exact Options.lookup_insert_ne _ _ (Ne.symm hk)
      cases rest.reverse.find? (segmentKey · == k) <;> simp [hget, hk]

theorem rule_foldl_setPiece (ps : List (List Char)) (n : Node) : (ps.foldl setPiece n).rule = n.rule := by
  induction ps generalizing n with
  | nil => rfl
  | cons p rest ih => rw [List.foldl_cons, ih, setPiece_eq]; rfl

theorem pairwise_foldl_setPiece (ps : List (List Char)) {n : Node}
    (hn : n.options.Pairwise fun a b => a.1 < b.1) :
    (ps.foldl setPiece n).options.Pairwise fun a b => a.1 < b.1 := by
  induction ps generalizing n with
  | nil => exact hn
  | cons p rest ih =>
    rw [List.foldl_cons]
    exact ih (by rw [setPiece_eq]; exact Options.pairwise_insert _ _ hn)

/-! ### The grammar -/

/-- The grammar of shorthand: a rule tag, then options set segment by segment, the last setting of a
key winning. -/
theorem expand_follows_grammar (t : String) :
    ∃ tag pieces, segments t = tag :: pieces ∧
      ((tag = [] ∧ expand t = .error (.schema s!"shorthand '{t}' has no rule tag")) ∨
        (tag ≠ [] ∧ ∃ n, expand t = .ok n ∧ n.rule = String.ofList tag ∧
          n.options.Pairwise (fun a b => a.1 < b.1) ∧
          ∀ k, n.get? k = ((pieces.filter (· ≠ [])).reverse.find? (segmentKey · == k)).map
            fun p => .value (segmentValue p))) := by
  obtain ⟨part, parts, hparts⟩ := List.exists_cons_of_ne_nil (List.splitOn_ne_nil '|' t.toList)
  have hsplit : (splitChars '|' t.toList).map Text.trimChars =
      Text.trimChars part :: parts.map Text.trimChars := by
    rw [splitChars_eq_splitOn, hparts, List.map_cons]
  refine ⟨Text.trimChars part, parts.map Text.trimChars, by rw [segments, hparts, List.map_cons], ?_⟩
  by_cases htag : Text.trimChars part = []
  · refine .inl ⟨htag, ?_⟩
    rw [expand, hsplit, htag]
    rfl
  · refine .inr ⟨htag, _, by rw [expand, hsplit]; dsimp only; rw [if_neg (by simpa using htag)],
      rule_foldl_setPiece _ _,
      pairwise_foldl_setPiece _ (by simp [Node.ofRule]), fun k => ?_⟩
    -- the model skips a piece by `isEmpty`, the grammar by being `[]`
    have hfilter : (parts.map Text.trimChars).filter (fun p => !p.isEmpty) =
        (parts.map Text.trimChars).filter (· ≠ []) :=
      List.filter_congr fun p _ => by cases p <;> simp
    rw [hfilter, get?_foldl_setPiece]
    simp [Node.get?, Node.ofRule]

/-! ### Texts cut from a shorthand -/

theorem afterColon_suffix {p : List Char} (hp : ':' ∈ p) :
    (p.dropWhile (· != ':')).drop 1 <:+ p ∧ ((p.dropWhile (· != ':')).drop 1).length < p.length := by
  have hsuf : p.dropWhile (· != ':') <:+ p := List.dropWhile_suffix _
  refine ⟨(List.drop_suffix 1 _).trans hsuf, ?_⟩
  have hne : p.dropWhile (· != ':') ≠ [] := by
    intro h
    have := List.dropWhile_eq_nil_iff.mp h ':' hp
    simp at this
  have hlen := hsuf.length_le
  have hpos : 0 < (p.dropWhile (· != ':')).length := List.length_pos_iff.mpr hne
  simp only [List.length_drop]
  omega

/-- A text a segment sets is cut from the segment: the trimmed text after its first `:`,
strictly shorter than the segment. -/
theorem segmentValue_eq_str {p : List Char} {v : String} (h : segmentValue p = .str v) :
    v.toList <:+: p ∧ v.length < p.length := by
  unfold segmentValue at h
  split_ifs at h with hcolon
  obtain rfl := scalar_eq_str h
  obtain ⟨hsuf, hshort⟩ := afterColon_suffix hcolon
  have htrim := Text.trimChars_infix ((p.dropWhile (· != ':')).drop 1)
  rw [String.toList_ofList, String.length_ofList]
  exact ⟨htrim.trans hsuf.isInfix, lt_of_le_of_lt htrim.length_le hshort⟩

theorem mem_segments_tail {t : String} {tag p : List Char} {pieces : List (List Char)}
    (hseg : segments t = tag :: pieces) (hp : p ∈ pieces) :
    ∃ part ∈ (t.toList.splitOn '|').tail, Text.trimChars part = p := by
  obtain ⟨first, parts, hparts⟩ := List.exists_cons_of_ne_nil (List.splitOn_ne_nil '|' t.toList)
  rw [segments, hparts, List.map_cons, List.cons.injEq] at hseg
  rw [← hseg.2] at hp
  simpa [hparts] using hp

/-- A text that a shorthand sets an option to is a strict substring of the shorthand with no `|`. -/
theorem expand_text_option {t : String} {n : Node} (h : expand t = .ok n) {k v : String}
    (hk : n.get? k = some (.value (.str v))) :
    v.toList <:+: t.toList ∧ v.length < t.length ∧ '|' ∉ v.toList := by
  obtain ⟨tag, pieces, hseg, htag | ⟨-, n', hn', -, -, hget⟩⟩ := expand_follows_grammar t
  · rw [htag.2] at h
    cases h
  rw [h] at hn'
  cases hn'
  rw [hget k] at hk
  obtain ⟨p, hfind, hp⟩ := Option.map_eq_some_iff.mp hk
  have hpmem : p ∈ pieces :=
    (List.mem_filter.mp (List.mem_reverse.mp (List.mem_of_find?_eq_some hfind))).1
  obtain ⟨part, hpart, rfl⟩ := mem_segments_tail hseg hpmem
  have hpiece := (splitOn_pieces t.toList).1 part (List.mem_of_mem_tail hpart)
  -- the value lies in the segment, which lies in a piece of the text cut at `|`
  obtain ⟨hin, hshort⟩ := segmentValue_eq_str (Opt.value.inj hp)
  have hwithin := (Text.trimChars_infix part).trans hpiece.1
  have hlen := hwithin.length_le
  rw [String.length_toList] at hlen
  exact ⟨hin.trans hwithin, by omega,
    fun hbar => hpiece.2 ((Text.trimChars_infix part).subset (hin.subset hbar))⟩

end Shorthand

end Conform
