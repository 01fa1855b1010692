import Conform.Proofs.Runs
/-! The string rule, run. Its options are read exactly as `Rule.TextRule.ReadFrom` says: the
pattern a string that compiles, six flags that are false when absent, `empty` true when
absent, and three counts. Compiled, it is the string step over those options. The step takes a
string, and with `convert` a number or a boolean as its text; anything else is reported
`string` once and returned as it is. The text taken is trimmed, then recased, and every check
is made on that sanitized text: the records are exactly those of the checks that fail on it
(`Rule.TextRule.Fails`), where a length counts characters, in the order `stringEmpty`,
`stringMin`, `stringMax`, `stringLength`, `stringPattern`, each at most once. -/

namespace Conform

namespace Descriptor

variable {d : Descriptor} {key : String}

theorem flag_eq_ok_iff {b : Bool} : d.flag key = .ok b ↔ d.ReadsFlag key false b := by
  have h : d.flag key = (d.optionalFlag key).map (·.getD false) := by
    unfold flag
    cases d.optionalFlag key <;> rfl
  rw [h, optionalFlag_getD_eq_ok_iff]

/-- The option `pattern` of `d` gives `p`: none when it is absent, and else a string that
compiles to `p`. -/
def ReadsPattern (d : Descriptor) : Option Pattern.Regex → Prop
  | none => d.option? "pattern" = none
  | some p => d.option? "pattern" = some (.value (.str p.source)) ∧
      Pattern.Regex.compile p.source = .ok p

end Descriptor

theorem Pattern.Regex.source_of_compile {source : String} {p : Pattern.Regex}
    (h : Pattern.Regex.compile source = .ok p) : p.source = source := by
  unfold Pattern.Regex.compile at h
  split at h
  · cases h
  · split at h
    · cases h
    · cases h
      rfl

namespace Rule.TextRule

/-! ### Reading the options -/

/-- The options of a string rule read from `d` are those of `r`: the pattern, the flags
`convert`, `trim`, `trimLeft`, `trimRight`, `lowercase` and `uppercase`, the flag `empty`, true
when absent, and the counts `min`, `max` and `length`. -/
def ReadFrom (d : Descriptor) (r : TextRule) : Prop :=
  d.ReadsPattern r.pattern ∧ d.ReadsFlag "convert" false r.convert ∧
    d.ReadsFlag "trim" false r.trim ∧ d.ReadsFlag "trimLeft" false r.trimLeft ∧
    d.ReadsFlag "trimRight" false r.trimRight ∧ d.ReadsFlag "lowercase" false r.lowercase ∧
    d.ReadsFlag "uppercase" false r.uppercase ∧ d.ReadsFlag "empty" true r.empty ∧
    d.ReadsCount "min" r.min ∧ d.ReadsCount "max" r.max ∧ d.ReadsCount "length" r.length

theorem string_pattern_of_reads {d : Descriptor} {p : Option Pattern.Regex}
    (h : d.ReadsPattern p) : d.string "pattern" = .ok (p.map (·.source)) := by
  cases p with
  | none => simp [Descriptor.string, show d.option? "pattern" = none from h]
  | some p => simp [Descriptor.string, h.1]

theorem ofDescriptor_eq_ok_iff {d : Descriptor} {r : TextRule} :
    ofDescriptor d = .ok r ↔ ReadFrom d r := by
  constructor
  · intro h
    unfold ofDescriptor at h
    obtain ⟨src, hsrc, h⟩ := except_bind_eq_ok.mp h
    extract_lets jp at h
    -- the pattern: absent, or a source that compiles
    obtain ⟨pattern, hpat, h⟩ : ∃ pattern, d.ReadsPattern pattern ∧ jp pattern = .ok r := by
      unfold Descriptor.string at hsrc
      split at hsrc <;> cases hsrc
      case h_1 hnone => exact ⟨none, hnone, by simpa using h⟩
      case h_2 source hsome =>
        simp only at h
        split at h
        case h_1 p hp =>
          have hs := Pattern.Regex.source_of_compile hp
          refine ⟨some p, ⟨by rw [hs]; exact hsome, by rw [hs]; exact hp⟩, by simpa using h⟩
        case h_2 => cases h
    simp only [jp] at h
    obtain ⟨convert, hconvert, h⟩ := except_bind_eq_ok.mp h
    obtain ⟨trim, htrim, h⟩ := except_bind_eq_ok.mp h
    obtain ⟨trimLeft, htrimLeft, h⟩ := except_bind_eq_ok.mp h
    obtain ⟨trimRight, htrimRight, h⟩ := except_bind_eq_ok.mp h
    obtain ⟨lowercase, hlowercase, h⟩ := except_bind_eq_ok.mp h
    obtain ⟨uppercase, huppercase, h⟩ := except_bind_eq_ok.mp h
    obtain ⟨empty, hempty, h⟩ := except_bind_eq_ok.mp h
    obtain ⟨min, hmin, h⟩ := except_bind_eq_ok.mp h
    obtain ⟨max, hmax, h⟩ := except_bind_eq_ok.mp h
    obtain ⟨length, hlength, h⟩ := except_bind_eq_ok.mp h
    cases h
    refine ⟨hpat, Descriptor.flag_eq_ok_iff.mp hconvert, Descriptor.flag_eq_ok_iff.mp htrim,
      Descriptor.flag_eq_ok_iff.mp htrimLeft, Descriptor.flag_eq_ok_iff.mp htrimRight,
      Descriptor.flag_eq_ok_iff.mp hlowercase, Descriptor.flag_eq_ok_iff.mp huppercase,
      Descriptor.optionalFlag_getD_eq_ok_iff.mp ?_, Descriptor.count_eq_ok_iff.mp hmin,
      Descriptor.count_eq_ok_iff.mp hmax, Descriptor.count_eq_ok_iff.mp hlength⟩
    rw [hempty]
    rfl
  · rintro ⟨hpat, hconvert, htrim, htrimLeft, htrimRight, hlowercase, huppercase, hempty, hmin,
      hmax, hlength⟩
    obtain ⟨e, he, hget⟩ := except_map_eq_ok.mp (Descriptor.optionalFlag_getD_eq_ok_iff.mpr hempty)
    unfold ofDescriptor
    rw [string_pattern_of_reads hpat, Descriptor.flag_eq_ok_iff.mpr hconvert,
      Descriptor.flag_eq_ok_iff.mpr htrim, Descriptor.flag_eq_ok_iff.mpr htrimLeft,
      Descriptor.flag_eq_ok_iff.mpr htrimRight, Descriptor.flag_eq_ok_iff.mpr hlowercase,
      Descriptor.flag_eq_ok_iff.mpr huppercase, he, Descriptor.count_eq_ok_iff.mpr hmin,
      Descriptor.count_eq_ok_iff.mpr hmax, Descriptor.count_eq_ok_iff.mpr hlength]
    simp only [bind, Except.bind, hget]
    -- the pattern option, absent or compiled, gives the rule's pattern
    cases hp : r.pattern with
    | none =>
      simp only [Option.map_none, pure, Except.pure]
      rw [← hp]
    | some p =>
      rw [hp] at hpat
      simp only [Option.map_some, hpat.2, pure, Except.pure]
      rw [← hp]

/-! ### The checks -/

/-- The checks of a string rule that a text fails, each with the issue it reports. A length is
the count of the text's characters, its Unicode scalar values. -/
inductive Fails (r : TextRule) (u : String) : Issue → Prop
  | empty : r.empty = false → u.toList.length = 0 →
      Fails r u { kind := "stringEmpty", actual := some (.str u) }
  | min {m : Nat} : r.min = some m → u.toList.length < m →
      Fails r u
        { kind := "stringMin", expected := some (.ofNat m), actual := some (.ofNat u.toList.length) }
  | max {m : Nat} : r.max = some m → m < u.toList.length →
      Fails r u
        { kind := "stringMax", expected := some (.ofNat m), actual := some (.ofNat u.toList.length) }
  | length {m : Nat} : r.length = some m → u.toList.length ≠ m →
      Fails r u
        { kind := "stringLength", expected := some (.ofNat m), actual := some (.ofNat u.toList.length) }
  | pattern {p : Pattern.Regex} : r.pattern = some p → p.isMatch u = false →
      Fails r u { kind := "stringPattern", expected := some (.str p.source), actual := some (.str u) }

def checkKinds : List String :=
  ["stringEmpty", "stringMin", "stringMax", "stringLength", "stringPattern"]

theorem issues_eq (r : TextRule) (u : String) :
    r.issues u =
      (if !r.empty && u.length = 0 then [{ kind := "stringEmpty", actual := some (.str u) }]
        else []) ++
      boundIssues "stringMin" r.min (fun x => u.length < x) u.length ++
      boundIssues "stringMax" r.max (fun x => u.length > x) u.length ++
      boundIssues "stringLength" r.length (fun x => u.length != x) u.length ++
      match r.pattern with
      | some p =>
        if p.isMatch u then []
        else [{ kind := "stringPattern", expected := some (.str p.source), actual := some (.str u) }]
      | none => [] := rfl

/-- An issue is reported on a sanitized text exactly when its check fails there. -/
theorem mem_issues_iff {r : TextRule} {u : String} {i : Issue} :
    i ∈ r.issues u ↔ r.Fails u i := by
  constructor
  · intro h
    simp only [issues_eq, List.mem_append, mem_boundIssues_iff, ← String.length_toList] at h
    rcases h with (((h | ⟨m, hm, hc, rfl⟩) | ⟨m, hm, hc, rfl⟩) | ⟨m, hm, hc, rfl⟩) | h
    · split at h
      case isTrue hc =>
        simp only [Bool.and_eq_true, Bool.not_eq_eq_eq_not, Bool.not_true,
          decide_eq_true_eq] at hc
        rw [List.mem_singleton.mp h]
        exact .empty hc.1 hc.2
      case isFalse => cases h
    · exact .min hm (by simpa using hc)
    · exact .max hm (by simpa using hc)
    · exact .length hm (by simpa using hc)
    · split at h
      case h_1 p hp =>
        split at h
        case isTrue => cases h
        case isFalse hc =>
          rw [List.mem_singleton.mp h]
          exact .pattern hp (by simpa using hc)
      case h_2 => cases h
  · intro h
    cases h with
    | empty he hl => simp [issues, he, ← String.length_toList, hl]
    | min hm hlt => simp [issues, hm, ← String.length_toList, hlt]
    | max hm hlt => simp [issues, hm, ← String.length_toList, hlt]
    | length hm hne => simp [issues, hm, ← String.length_toList, hne]
    | pattern hp hn => simp [issues, hp, hn]

theorem kinds_issues_sublist (r : TextRule) (u : String) :
    ((r.issues u).map (·.kind)).Sublist checkKinds := by
  rw [issues_eq]
  simp only [List.map_append, checkKinds]
  refine ((((?_ : List.Sublist _ ["stringEmpty"]).append
    (kinds_boundIssues_sublist _ _ _ _)).append (kinds_boundIssues_sublist _ _ _ _)).append
    (kinds_boundIssues_sublist _ _ _ _)).append (?_ : List.Sublist _ ["stringPattern"])
  · split <;> simp
  · split
    · split <;> simp
    · simp

/-! ### The step -/

/-- The values a string rule takes as text: a string, and with `convert` a number, as its JSON
text, or a boolean. -/
theorem read?_eq_some_iff {r : TextRule} {v : Json} {t : String} :
    r.read? v = some t ↔ v = .str t ∨ r.convert = true ∧
      ((∃ n, v = .num n ∧ t = n.text) ∨ ∃ b, v = .bool b ∧ t = toString b) := by
  cases v with
  | str s => simp [read?]
  | num n =>
    cases hc : r.convert
    · simp [read?, hc]
    · simp [read?, hc]
      exact eq_comm
  | bool b =>
    cases hc : r.convert
    · simp [read?, hc]
    · cases b <;> simp [read?, hc] <;> exact eq_comm
  | null => simp [read?]
  | arr _ => simp [read?]
  | obj _ => simp [read?]

theorem step_of_read? {r : TextRule} {v : Json} {t : String} (s : Scope)
    (h : r.read? v = some t) :
    r.step v s = (.str (r.sanitize t), (r.issues (r.sanitize t)).map s.record) := by
  simp [step, h]

theorem step_of_read?_none {r : TextRule} {v : Json} (s : Scope) (h : r.read? v = none) :
    r.step v s = (v, [s.record { kind := "string", actual := some v }]) := by
  simp [step, h]

end Rule.TextRule

open Rule

theorem runRequests_text_eq_ok_iff {reg : Registry} {d : Descriptor} {ctx c : Context}
    {f : Fragment} :
    runRequests reg (Rule.text d) ctx = some (.ok (f, c)) ↔
      ∃ r, TextRule.ofDescriptor d = .ok r ∧ f = ⟨ctx.mode, r.step⟩ ∧ c = ctx := by
  unfold Rule.text
  rw [runRequests_bind, runRequests_ofExcept]
  cases TextRule.ofDescriptor d with
  | error e => simp [Except.map]
  | ok r =>
    simp only [Except.map, thenOk_ok, runRequests_leaf, Option.some.injEq, Except.ok.injEq,
      Prod.mk.injEq]
    constructor
    · rintro ⟨rfl, rfl⟩
      exact ⟨r, rfl, rfl, rfl⟩
    · rintro ⟨r', ⟨⟩, rfl, rfl⟩
      exact ⟨rfl, rfl⟩

/-- The string rule: its options as read, its compiled step, and the records of a run, those of the
checks that fail on the sanitized text. -/
theorem string_rule_checks_sanitized_text :
    (∀ d r, TextRule.ofDescriptor d = .ok r ↔ TextRule.ReadFrom d r) ∧
    (∀ (reg : Registry) d ctx f c, runRequests reg (Rule.text d) ctx = some (.ok (f, c)) ↔
      ∃ r, TextRule.ofDescriptor d = .ok r ∧ f = ⟨ctx.mode, r.step⟩ ∧ c = ctx) ∧
    ∀ (r : TextRule) (v : Json) (s : Scope),
      (∀ t, r.read? v = some t ↔ v = .str t ∨ r.convert = true ∧
        ((∃ n, v = .num n ∧ t = n.text) ∨ ∃ b, v = .bool b ∧ t = toString b)) ∧
      (r.read? v = none →
        r.step v s = (v, [s.record { kind := "string", actual := some v }])) ∧
      ∀ t, r.read? v = some t →
        let trimmed := if r.trim then Text.trim t else if r.trimLeft then Text.trimStart t
          else if r.trimRight then Text.trimEnd t else t
        let u := if r.lowercase then Text.toLower trimmed
          else if r.uppercase then Text.toUpper trimmed else trimmed
        (r.step v s).1 = .str u ∧
        (∀ rec, rec ∈ (r.step v s).2 ↔ ∃ i, r.Fails u i ∧ rec = s.record i) ∧
        ((r.step v s).2.map (·.kind)).Sublist TextRule.checkKinds := by
  refine ⟨fun d r => TextRule.ofDescriptor_eq_ok_iff,
    fun reg d ctx f c => runRequests_text_eq_ok_iff, fun r v s => ⟨fun t => TextRule.read?_eq_some_iff,
      TextRule.step_of_read?_none s, fun t ht => ?_⟩⟩
  -- the sanitized text is `r.sanitize t`, and the records are its issues, recorded in order
  rw [TextRule.step_of_read? s ht]
  refine ⟨rfl, fun rec => ?_, ?_⟩
  · simp only [List.mem_map, TextRule.mem_issues_iff]
    exact ⟨fun ⟨i, hi, he⟩ => ⟨i, hi, he.symm⟩, fun ⟨i, hi, he⟩ => ⟨i, hi, he.symm⟩⟩
  · rw [List.map_map]
    exact TextRule.kinds_issues_sublist r _

end Conform
