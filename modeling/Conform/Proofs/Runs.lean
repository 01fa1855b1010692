import Conform.Proofs.Containers
/-! The container steps, run. An array step reports its bounds and then, with an element step,
runs it on every element in index order, each one index deeper and after the records reported
before it, and writes each output back at its index: no element's failure stops the next. An
object step runs its field steps in declaration order, each on the member under its key or on
null, one key deeper and after the records before it; a present field takes its output in place,
an absent one is added after the object's members when its output is not null, and the
undeclared members are kept, reported or removed as the strictness says. Both loops are runs in
turn (`runInTurn`), and both rules read their options exactly as `Descriptor.ReadsCount`,
`Descriptor.ReadsFlag` and `Descriptor.SetsStrictness` say. -/

namespace Conform

open Rule

/-! ### Steps run in turn -/

/-- Steps run one after another, each on its input one segment below the scope, after the records
given and those of the runs before it; gives each run's output and records. -/
def runInTurn (s : Scope) :
    List Record → List (Step × Json × Segment) → List (Json × List Record)
  | _, [] => []
  | records, (step, input, seg) :: jobs =>
    let r := step input ((s.extend records).enter seg)
    r :: runInTurn s (records ++ r.2) jobs

section InTurn

variable (s : Scope)

@[simp] theorem length_runInTurn (records : List Record) (jobs : List (Step × Json × Segment)) :
    (runInTurn s records jobs).length = jobs.length := by
  induction jobs generalizing records with
  | nil => rfl
  | cons job jobs ih => simp [runInTurn, ih]

theorem getElem_runInTurn (records : List Record) (jobs : List (Step × Json × Segment)) (i : Nat)
    (h : i < (runInTurn s records jobs).length) (h' : i < jobs.length) :
    (runInTurn s records jobs)[i] = jobs[i].1 jobs[i].2.1
      ((s.extend (records ++ ((runInTurn s records jobs).take i).flatMap (·.2))).enter
        jobs[i].2.2) := by
  induction jobs generalizing records i with
  | nil => cases h'
  | cons job jobs ih =>
    obtain ⟨step, input, seg⟩ := job
    cases i with
    | zero => simp [runInTurn]
    | succ i =>
      simp only [runInTurn, List.getElem_cons_succ, List.take_succ_cons, List.flatMap_cons,
        ← List.append_assoc]
      exact ih _ i _ _

end InTurn

/-! ### Reading the options -/

theorem Number.toNat?_eq_some {n : Number} {k : Nat} :
    n.toNat? = some k ↔ n = .int k ∧ k < 18446744073709551616 := by
  cases n with
  | int i =>
    simp only [Number.toNat?, Number.int.injEq]
    split
    next hi =>
      simp only [Option.some.injEq]
      omega
    next hi =>
      simp only [reduceCtorEq, false_iff, not_and]
      omega
  | float f => simp [Number.toNat?]

namespace Descriptor

variable {d : Descriptor} {key : String}

/-- The option `key` of `d`, read as a count, gives `x`: none when it is absent, and an integer
literal below `2^64` as itself. -/
def ReadsCount (d : Descriptor) (key : String) : Option Nat → Prop
  | none => d.option? key = none
  | some k => k < 18446744073709551616 ∧ d.option? key = some (.value (.ofNat k))

/-- The boolean option `key` of `d` reads as `b`, which is `absent` when the option is absent. -/
def ReadsFlag (d : Descriptor) (key : String) (absent b : Bool) : Prop :=
  d.option? key = some (.value (.bool b)) ∨ (d.option? key = none ∧ b = absent)

/-- A count is read exactly from an absent option or an integer literal below `2^64`. -/
theorem count_eq_ok_iff {x : Option Nat} : d.count key = .ok x ↔ d.ReadsCount key x := by
  unfold count
  split
  case h_1 hn => cases x <;> simp [ReadsCount, hn]
  case h_2 n hn =>
    rcases hk : n.toNat? with _ | k
    · -- no count: the number is not an integer below `2^64`
      cases x with
      | none => simp [ReadsCount, hn]
      | some k =>
        simp only [reduceCtorEq, false_iff, ReadsCount, hn, Json.ofNat, Option.some.injEq,
          Opt.value.injEq, Json.num.injEq, not_and]
        rintro hlt rfl
        simp [Number.toNat?] at hk
        omega
    · cases x with
      | none => simp [ReadsCount, hn]
      | some k' =>
        obtain ⟨rfl, hlt⟩ := Number.toNat?_eq_some.mp hk
        simp only [Except.ok.injEq, Option.some.injEq, ReadsCount, hn, Json.ofNat,
          Opt.value.injEq, Json.num.injEq, Number.int.injEq]
        constructor
        · rintro rfl
          exact ⟨hlt, rfl⟩
        · rintro ⟨-, h⟩
          omega
  case h_3 o hother hn =>
    cases x with
    | none => simp [ReadsCount, hn]
    | some k =>
      simp only [reduceCtorEq, false_iff, ReadsCount, hn, Option.some.injEq, not_and]
      exact fun _ h => hother _ h

theorem optionalFlag_getD_eq_ok_iff {absent b : Bool} :
    (d.optionalFlag key).map (·.getD absent) = .ok b ↔ d.ReadsFlag key absent b := by
  unfold optionalFlag
  split
  case h_1 hn => simp [Except.map, ReadsFlag, hn, eq_comm]
  case h_2 b' hn => simp [Except.map, ReadsFlag, hn]
  case h_3 o hother hn =>
    simp only [Except.map, reduceCtorEq, false_iff, ReadsFlag, hn, Option.some.injEq,
      false_and, or_false]
    exact hother _

/-- A count is refused exactly when its option is present and no integer literal below `2^64`,
with the invalid-option error naming its key. -/
theorem count_eq_error_iff {e : Error} :
    d.count key = .error e ↔
      (∀ x, ¬d.ReadsCount key x) ∧ e = d.invalid key "expected a non-negative integer" := by
  simp only [← count_eq_ok_iff]
  unfold count
  split
  · simp
  · split <;> simp [eq_comm]
  · simp [eq_comm]

theorem optionalFlag_eq_error_iff (absent : Bool) {e : Error} :
    d.optionalFlag key = .error e ↔
      (∀ b, ¬d.ReadsFlag key absent b) ∧ e = d.invalid key "expected a boolean" := by
  simp only [← optionalFlag_getD_eq_ok_iff]
  unfold optionalFlag
  split <;> simp [Except.map, eq_comm]

end Descriptor

/-! ### Bounds on a count -/

namespace Rule

/-- The issues of one bound on a count: one when the bound is set and the count fails it. -/
def boundIssues (kind : String) (b : Option Nat) (fails : Nat → Bool) (len : Nat) : List Issue :=
  match b with
  | some x =>
    if fails x then [{ kind, expected := some (.ofNat x), actual := some (.ofNat len) }] else []
  | none => []

theorem mem_boundIssues_iff {kind : String} {b : Option Nat} {fails : Nat → Bool} {len : Nat}
    {i : Issue} : i ∈ boundIssues kind b fails len ↔
      ∃ x, b = some x ∧ fails x = true ∧
        i = { kind, expected := some (.ofNat x), actual := some (.ofNat len) } := by
  cases b with
  | none => simp [boundIssues]
  | some x => by_cases hx : fails x <;> simp [boundIssues, hx]

theorem kinds_boundIssues_sublist (kind : String) (b : Option Nat) (fails : Nat → Bool)
    (len : Nat) : ((boundIssues kind b fails len).map (·.kind)).Sublist [kind] := by
  unfold boundIssues
  split
  · split <;> simp
  · simp

namespace Bounds

theorem ofDescriptor_eq_ok_iff {d : Descriptor} {b : Bounds} :
    ofDescriptor d = .ok b ↔ d.ReadsFlag "empty" true b.empty ∧
      d.ReadsCount "min" b.min ∧ d.ReadsCount "max" b.max ∧ d.ReadsCount "length" b.length := by
  constructor
  · intro h
    obtain ⟨e, he, h⟩ := except_bind_eq_ok.mp h
    obtain ⟨min, hmin, h⟩ := except_bind_eq_ok.mp h
    obtain ⟨max, hmax, h⟩ := except_bind_eq_ok.mp h
    obtain ⟨length, hlength, h⟩ := except_bind_eq_ok.mp h
    cases h
    refine ⟨Descriptor.optionalFlag_getD_eq_ok_iff.mp ?_, Descriptor.count_eq_ok_iff.mp hmin,
      Descriptor.count_eq_ok_iff.mp hmax, Descriptor.count_eq_ok_iff.mp hlength⟩
    rw [he]
    rfl
  · rintro ⟨he, hmin, hmax, hlength⟩
    obtain ⟨e, he, hget⟩ := except_map_eq_ok.mp (Descriptor.optionalFlag_getD_eq_ok_iff.mpr he)
    unfold ofDescriptor
    rw [he, Descriptor.count_eq_ok_iff.mpr hmin, Descriptor.count_eq_ok_iff.mpr hmax,
      Descriptor.count_eq_ok_iff.mpr hlength]
    simp only [bind, Except.bind, pure, Except.pure, hget]

/-- How the bounds of an array rule are refused: at the first option, in the order `empty`,
`min`, `max`, `length`, that does not read, with the invalid-option error naming it. -/
inductive Refused (d : Descriptor) : Error → Prop
  | empty : (∀ b, ¬d.ReadsFlag "empty" true b) →
      Refused d (.invalidOption d.rule "empty" d.label "expected a boolean")
  | min : (∃ b, d.ReadsFlag "empty" true b) → (∀ x, ¬d.ReadsCount "min" x) →
      Refused d (.invalidOption d.rule "min" d.label "expected a non-negative integer")
  | max : (∃ b, d.ReadsFlag "empty" true b) → (∃ x, d.ReadsCount "min" x) →
      (∀ x, ¬d.ReadsCount "max" x) →
      Refused d (.invalidOption d.rule "max" d.label "expected a non-negative integer")
  | length : (∃ b, d.ReadsFlag "empty" true b) → (∃ x, d.ReadsCount "min" x) →
      (∃ x, d.ReadsCount "max" x) → (∀ x, ¬d.ReadsCount "length" x) →
      Refused d (.invalidOption d.rule "length" d.label "expected a non-negative integer")

theorem ofDescriptor_eq_error_iff {d : Descriptor} {e : Error} :
    ofDescriptor d = .error e ↔ Refused d e := by
  -- an option that reads gives the `∃` a later refusal needs
  have flag_reads {o} (h : d.optionalFlag "empty" = .ok o) : ∃ b, d.ReadsFlag "empty" true b :=
    ⟨o.getD true, Descriptor.optionalFlag_getD_eq_ok_iff.mp (by rw [h]; rfl)⟩
  have count_reads {key x} (h : d.count key = .ok x) : ∃ x, d.ReadsCount key x :=
    ⟨x, Descriptor.count_eq_ok_iff.mp h⟩
  constructor
  · -- peel the reads off in order: the first that fails is the refusal
    intro h
    unfold ofDescriptor at h
    rcases except_bind_eq_error.mp h with he | ⟨o, he, h⟩
    · obtain ⟨hno, rfl⟩ := (Descriptor.optionalFlag_eq_error_iff true).mp he
      exact .empty hno
    rcases except_bind_eq_error.mp h with hmin | ⟨min, hmin, h⟩
    · obtain ⟨hno, rfl⟩ := Descriptor.count_eq_error_iff.mp hmin
      exact .min (flag_reads he) hno
    rcases except_bind_eq_error.mp h with hmax | ⟨max, hmax, h⟩
    · obtain ⟨hno, rfl⟩ := Descriptor.count_eq_error_iff.mp hmax
      exact .max (flag_reads he) (count_reads hmin) hno
    rcases except_bind_eq_error.mp h with hlength | ⟨length, hlength, h⟩
    · obtain ⟨hno, rfl⟩ := Descriptor.count_eq_error_iff.mp hlength
      exact .length (flag_reads he) (count_reads hmin) (count_reads hmax) hno
    · cases h
  · -- the options before the refused one read, and the refused one fails with its error
    have flag_ok (h : ∃ b, d.ReadsFlag "empty" true b) : ∃ o, d.optionalFlag "empty" = .ok o := by
      obtain ⟨b, hb⟩ := h
      obtain ⟨o, ho, -⟩ := except_map_eq_ok.mp (Descriptor.optionalFlag_getD_eq_ok_iff.mpr hb)
      exact ⟨o, ho⟩
    have count_ok {key} (h : ∃ x, d.ReadsCount key x) : ∃ x, d.count key = .ok x :=
      h.imp fun _ => Descriptor.count_eq_ok_iff.mpr
    intro h
    unfold ofDescriptor
    cases h with
    | empty hno =>
      rw [(Descriptor.optionalFlag_eq_error_iff true).mpr ⟨hno, rfl⟩]
      rfl
    | min he hno =>
      obtain ⟨o, he⟩ := flag_ok he
      rw [he, Descriptor.count_eq_error_iff.mpr ⟨hno, rfl⟩]
      rfl
    | max he hmin hno =>
      obtain ⟨o, he⟩ := flag_ok he
      obtain ⟨min, hmin⟩ := count_ok hmin
      rw [he, hmin, Descriptor.count_eq_error_iff.mpr ⟨hno, rfl⟩]
      rfl
    | length he hmin hmax hno =>
      obtain ⟨o, he⟩ := flag_ok he
      obtain ⟨min, hmin⟩ := count_ok hmin
      obtain ⟨max, hmax⟩ := count_ok hmax
      rw [he, hmin, hmax, Descriptor.count_eq_error_iff.mpr ⟨hno, rfl⟩]
      rfl

/-- The bounds an array of `len` elements fails, each with the issue it reports. -/
inductive Fails (b : Bounds) (len : Nat) : Issue → Prop
  | empty : b.empty = false → len = 0 → Fails b len { kind := "arrayEmpty", actual := some (.arr []) }
  | min {m : Nat} : b.min = some m → len < m →
      Fails b len { kind := "arrayMin", expected := some (.ofNat m), actual := some (.ofNat len) }
  | max {m : Nat} : b.max = some m → m < len →
      Fails b len { kind := "arrayMax", expected := some (.ofNat m), actual := some (.ofNat len) }
  | length {m : Nat} : b.length = some m → len ≠ m →
      Fails b len { kind := "arrayLength", expected := some (.ofNat m), actual := some (.ofNat len) }

def checkKinds : List String := ["arrayEmpty", "arrayMin", "arrayMax", "arrayLength"]

theorem issues_eq (b : Bounds) (len : Nat) :
    b.issues len =
      (if !b.empty && len = 0 then [{ kind := "arrayEmpty", actual := some (.arr []) }] else []) ++
      boundIssues "arrayMin" b.min (fun n => len < n) len ++
      boundIssues "arrayMax" b.max (fun n => len > n) len ++
      boundIssues "arrayLength" b.length (fun n => len != n) len := rfl

theorem mem_issues_iff {b : Bounds} {len : Nat} {i : Issue} : i ∈ b.issues len ↔ b.Fails len i := by
  constructor
  · intro h
    simp only [issues_eq, List.mem_append, mem_boundIssues_iff] at h
    rcases h with ((h | ⟨m, hm, hc, rfl⟩) | ⟨m, hm, hc, rfl⟩) | ⟨m, hm, hc, rfl⟩
    · split at h
      case isTrue hc =>
        simp only [Bool.and_eq_true, Bool.not_eq_eq_eq_not, Bool.not_true,
          decide_eq_true_eq] at hc
        rw [List.mem_singleton.mp h]
        exact .empty hc.1 hc.2
      case isFalse => cases h
    · exact .min hm (by simpa using hc)
    · exact .max hm (by simpa using hc)
    · exact .length hm (by simpa using hc)
  · intro h
    cases h with
    | empty he hl => simp [issues, he, hl]
    | min hm hlt => simp [issues, hm, hlt]
    | max hm hlt => simp [issues, hm, hlt]
    | length hm hne => simp [issues, hm, hne]

theorem kinds_issues_sublist (b : Bounds) (len : Nat) :
    ((b.issues len).map (·.kind)).Sublist checkKinds := by
  rw [issues_eq]
  simp only [List.map_append, checkKinds]
  refine (((?_ : List.Sublist _ ["arrayEmpty"]).append (kinds_boundIssues_sublist _ _ _ _)).append
    (kinds_boundIssues_sublist _ _ _ _)).append (kinds_boundIssues_sublist _ _ _ _)
  split <;> simp

end Bounds

end Rule

/-! ### Arrays -/

def elementJobs (step : Step) (i : Nat) (es : List Json) : List (Step × Json × Segment) :=
  (es.zipIdx i).map fun p => (step, p.1, .index p.2)

theorem runElements_eq (s : Scope) (step : Step) (i : Nat) (es : List Json)
    (records : List Record) :
    runElements s step i es records =
      ((runInTurn s records (elementJobs step i es)).map (·.1),
        records ++ (runInTurn s records (elementJobs step i es)).flatMap (·.2)) := by
  induction es generalizing i records with
  | nil => simp [runElements, elementJobs, runInTurn]
  | cons e es ih =>
    simp only [runElements, elementJobs, List.zipIdx_cons, List.map_cons, runInTurn]
    rw [ih]
    simp [elementJobs, List.append_assoc]

theorem runRequests_array_eq_ok {reg : Registry} {d : Descriptor} {ctx c : Context}
    {f : Fragment} (h : runRequests reg (Rule.array d) ctx = some (.ok (f, c))) :
    ∃ b items, Bounds.ofDescriptor d = .ok b ∧ f = ⟨ctx.mode, arrayStep b items⟩ ∧
      (items = none ↔ d.schema "items" = .ok none) := by
  rw [runRequests_array] at h
  obtain ⟨b, hb, h⟩ := thenOk_eq_ok.mp h
  obtain ⟨items, hitems, h⟩ := thenOk_eq_ok.mp h
  cases items with
  | none =>
    cases h
    exact ⟨b, none, Option.some.inj hb, rfl, by simp [Option.some.inj hitems]⟩
  | some schema =>
    obtain ⟨⟨f', c'⟩, -, h⟩ := thenOk_eq_ok.mp h
    cases h
    exact ⟨b, some f'.step, Option.some.inj hb, rfl, by simp [Option.some.inj hitems]⟩

theorem runRequests_array_eq_error {reg : Registry} {d : Descriptor} {ctx : Context} {e : Error}
    (h : Bounds.ofDescriptor d = .error e) : runRequests reg (Rule.array d) ctx = some (.error e) := by
  rw [runRequests_array, h]
  rfl

/-- The array rule: its bounds as read or refused, its compiled step, and a run of that step. -/
theorem array_rule_checks_bounds_then_elements :
    (∀ d b, Bounds.ofDescriptor d = .ok b ↔ d.ReadsFlag "empty" true b.empty ∧
      d.ReadsCount "min" b.min ∧ d.ReadsCount "max" b.max ∧ d.ReadsCount "length" b.length) ∧
    (∀ d e, Bounds.ofDescriptor d = .error e ↔ Bounds.Refused d e) ∧
    (∀ (reg : Registry) d ctx e, Bounds.Refused d e →
      runRequests reg (Rule.array d) ctx = some (.error e)) ∧
    (∀ (reg : Registry) d ctx f c, runRequests reg (Rule.array d) ctx = some (.ok (f, c)) →
      ∃ b items, Bounds.ofDescriptor d = .ok b ∧ f = ⟨ctx.mode, arrayStep b items⟩ ∧
        (items = none ↔ d.schema "items" = .ok none)) ∧
    ∀ (b : Bounds) (s : Scope),
      (∀ len i, i ∈ b.issues len ↔ b.Fails len i) ∧
      (∀ len, ((b.issues len).map (·.kind)).Sublist Bounds.checkKinds) ∧
      (∀ v items, (∀ es, v ≠ .arr es) →
        arrayStep b items v s = (v, [s.record { kind := "array", actual := some v }])) ∧
      (∀ es, arrayStep b none (.arr es) s = (.arr es, (b.issues es.length).map s.record)) ∧
      ∀ es step, ∃ runs : List (Json × List Record), runs.length = es.length ∧
        (∀ i (h : i < es.length) (h' : i < runs.length), runs[i] = step es[i]
          ((s.extend ((b.issues es.length).map s.record ++ (runs.take i).flatMap (·.2))).enter
            (.index i))) ∧
        arrayStep b (some step) (.arr es) s =
          (.arr (runs.map (·.1)), (b.issues es.length).map s.record ++ runs.flatMap (·.2)) := by
  refine ⟨fun d b => Bounds.ofDescriptor_eq_ok_iff, fun d e => Bounds.ofDescriptor_eq_error_iff,
    fun reg d ctx e h => runRequests_array_eq_error (Bounds.ofDescriptor_eq_error_iff.mpr h),
    fun reg d ctx f c h => runRequests_array_eq_ok h,
    fun b s => ⟨fun len i => Bounds.mem_issues_iff, Bounds.kinds_issues_sublist b,
      ?_, fun es => rfl, fun es step => ?_⟩⟩
  · intro v items hv
    cases v
    case arr es => exact absurd rfl (hv es)
    all_goals rfl
  · -- the runs are the element step's runs in turn, from index 0
    let bounds := (b.issues es.length).map s.record
    refine ⟨runInTurn s bounds (elementJobs step 0 es), by simp [elementJobs],
      fun i h h' => ?_, ?_⟩
    · rw [getElem_runInTurn _ _ _ _ _ (by simpa [elementJobs] using h)]
      simp [elementJobs, List.getElem_zipIdx, bounds]
    · simp only [arrayStep, runElements_eq, bounds]

/-- A bound of `2^64` is a float when read from JSON, so the array rule refuses it. -/
theorem array_bound_beyond_u64_refused :
    let S : Schema := .node "array" [("min", .value (.num (.float 18446744073709551616.0)))]
    ({ registry := Registry.builtins } : Compiler).compile S =
      some (.error (.invalidOption "array" "min" "" "expected a non-negative integer")) := by
  intro S
  let d : Descriptor :=
    ⟨{ rule := "array", options := [("min", .value (.num (.float 18446744073709551616.0)))] },
      renderPath []⟩
  have hr : Registry.builtins.resolve S (renderPath []) = .ok (d, Rule.array) := rfl
  have hb : Bounds.ofDescriptor d =
      .error (.invalidOption "array" "min" "" "expected a non-negative integer") := rfl
  have hroot : compileRule Registry.builtins S none { mode := .sync } =
      some (.error (.invalidOption "array" "min" "" "expected a non-negative integer")) := by
    rw [compileRule_of_resolve hr rfl, runRequests_array, hb]
    rfl
  have hmode : Compiler.declaredMode { registry := Registry.builtins } S = .ok .sync := rfl
  simp only [Compiler.compile, hmode, hroot]
  rfl

/-! ### Objects -/

namespace Members

variable {α : Type}

theorem insert_of_lookup_none {ms : List (String × α)} {k : String} {v : α}
    (h : ms.lookup k = none) : insert ms k v = ms ++ [(k, v)] := by
  induction ms with
  | nil => rfl
  | cons p rest ih =>
    obtain ⟨k', v'⟩ := p
    have hne : k' ≠ k := by
      intro heq
      simp [heq] at h
    simp only [List.lookup_cons] at h
    rw [beq_false_of_ne (Ne.symm hne)] at h
    simp [insert, hne, ih h]

theorem insert_of_mem {ms : List (String × α)} {k : String} {v : α}
    (hk : k ∈ ms.map (·.1)) (hnd : (ms.map (·.1)).Nodup) :
    insert ms k v = ms.map fun p => if p.1 = k then (k, v) else p := by
  induction ms with
  | nil => cases hk
  | cons p rest ih =>
    obtain ⟨k', v'⟩ := p
    simp only [List.map_cons, List.nodup_cons, List.mem_cons] at hk hnd
    by_cases hkk : k' = k
    · -- the first member is replaced; the others keep their keys, none of which is `k`
      subst hkk
      have hrest : (rest.map fun p => if p.1 = k' then (k', v) else p) = rest :=
        List.map_congr_left (fun p hp => if_neg fun h : p.1 = k' =>
          hnd.1 (h ▸ List.mem_map_of_mem (f := (·.1)) hp)) |>.trans (List.map_id _)
      simp [insert, hrest]
    · have hk' : k ∈ rest.map (·.1) := hk.resolve_left (Ne.symm hkk)
      simp [insert, hkk, ih hk' hnd.2]

theorem insert_append_of_mem {l₁ l₂ : List (String × α)} {k : String} {v : α}
    (hk : k ∈ l₁.map (·.1)) : insert (l₁ ++ l₂) k v = insert l₁ k v ++ l₂ := by
  induction l₁ with
  | nil => cases hk
  | cons p rest ih =>
    obtain ⟨k', v'⟩ := p
    by_cases hkk : k' = k
    · simp [insert, hkk]
    · simp only [List.map_cons, List.mem_cons] at hk
      simp [insert, hkk, ih (hk.resolve_left (Ne.symm hkk))]

theorem lookup_map_snd (g : String → α → α) (l : List (String × α)) (k : String) :
    (l.map fun p => (p.1, g p.1 p.2)).lookup k = (l.lookup k).map (g k) := by
  induction l with
  | nil => rfl
  | cons p rest ih =>
    obtain ⟨k', a⟩ := p
    by_cases hk : k = k'
    · subst hk
      simp
    · simp [List.lookup_cons, beq_false_of_ne hk, ih]

/-- `m` with the outputs `outs` written back: a key of `m` takes its output in place, and an
output for a key that `m` lacks is added after `m`'s members, in order, when it is not null. -/
def writtenBack (m outs : List (String × Json)) : List (String × Json) :=
  m.map (fun p => (p.1, (outs.lookup p.1).getD p.2)) ++
    outs.filter fun p => (m.lookup p.1).isNone && !p.2.isNull

theorem keys_writtenBack (m outs : List (String × Json)) :
    (writtenBack m outs).map (·.1) = m.map (·.1) ++
      (outs.filter fun p => (m.lookup p.1).isNone && !p.2.isNull).map (·.1) := by
  simp [writtenBack, List.map_map, Function.comp_def]

variable {m done : List (String × Json)}

@[simp] theorem writtenBack_nil : writtenBack m [] = m := by
  simp [writtenBack]

theorem lookup_eq_none_of_not_mem {l : List (String × α)} {k : String}
    (hk : k ∉ l.map (·.1)) : l.lookup k = none := by
  rw [List.lookup_eq_none_iff]
  intro p hp
  have : p.1 ≠ k := fun h => hk (h ▸ List.mem_map_of_mem hp)
  simpa [bne_iff_ne] using this.symm

theorem lookup_writtenBack {k : String} (hk : k ∉ done.map (·.1)) :
    (writtenBack m done).lookup k = m.lookup k := by
  have hnone := lookup_eq_none_of_not_mem hk
  have hfilter : (done.filter fun p => (m.lookup p.1).isNone && !p.2.isNull).lookup k = none :=
    lookup_eq_none_of_not_mem fun h => hk ((List.filter_sublist.map Prod.fst).subset h)
  rw [writtenBack, List.lookup_append, lookup_map_snd (fun k v => (done.lookup k).getD v),
    hnone, hfilter]
  cases m.lookup k <;> rfl

theorem writtenBack_snoc (hm : (m.map (·.1)).Nodup) {key : String} {out : Json}
    (hk : key ∉ done.map (·.1)) :
    (if (m.lookup key).isSome || !out.isNull then
      insert (writtenBack m done) key out else writtenBack m done) =
      writtenBack m (done ++ [(key, out)]) := by
  have hnone := lookup_eq_none_of_not_mem hk
  -- the outputs before this one read the same with it added
  have hlookup : ∀ k, k ≠ key → (done ++ [(key, out)]).lookup k = done.lookup k := by
    intro k hne
    simp [List.lookup_append, List.lookup_cons, beq_false_of_ne hne]
  rcases hmk : m.lookup key with _ | v
  · -- an absent key: the member part is as it was
    have hmap : (m.map fun p => (p.1, ((done ++ [(key, out)]).lookup p.1).getD p.2)) =
        m.map fun p => (p.1, (done.lookup p.1).getD p.2) := by
      refine List.map_congr_left fun p hp => ?_
      have hne : p.1 ≠ key := by
        rintro rfl
        simp [List.lookup_eq_none_iff] at hmk
        exact absurd rfl (hmk p.1 p.2 hp)
      rw [hlookup _ hne]
    cases hout : out.isNull
    · have hins := insert_of_lookup_none (v := out) (show (writtenBack m done).lookup key = none by
        rw [lookup_writtenBack hk, hmk])
      simp only [Option.isSome_none, Bool.not_false, Bool.or_true, if_true]
      rw [hins]
      simp [writtenBack, hmap, List.filter_append, hmk, hout]
    · simp [hout, writtenBack, hmap, List.filter_append, hmk]
  · -- a present key: its member takes the output in place
    have hmem : key ∈ m.map (·.1) := by
      apply Decidable.byContradiction
      intro hn
      rw [lookup_eq_none_of_not_mem hn] at hmk
      cases hmk
    have hkeys : (m.map fun p => (p.1, (done.lookup p.1).getD p.2)).map (·.1) = m.map (·.1) := by
      simp [List.map_map, Function.comp_def]
    simp only [Option.isSome_some, Bool.true_or, if_true]
    rw [writtenBack, insert_append_of_mem (hkeys ▸ hmem),
      insert_of_mem (hkeys ▸ hmem) (hkeys ▸ hm), List.map_map, writtenBack, List.filter_append]
    congr 1
    · refine List.map_congr_left fun p hp => ?_
      by_cases hpk : p.1 = key
      · simp [hpk, List.lookup_append, hnone]
      · simp [hpk, hlookup _ hpk]
    · simp [hmk]

end Members

theorem compileFields_keys {reg : Registry} {props : List (String × Schema)} {c c' : Context}
    {fs : List (String × Fragment)} (h : compileFields reg props c = some (.ok (fs, c'))) :
    fs.map (·.1) = props.map (·.1) := by
  induction props generalizing c fs with
  | nil =>
    cases h
    rfl
  | cons p rest ih =>
    obtain ⟨key, s⟩ := p
    obtain ⟨⟨f, c₁⟩, -, h⟩ := thenOk_eq_ok.mp h
    obtain ⟨⟨fs', c₂⟩, hfs, h⟩ := thenOk_eq_ok.mp h
    cases h
    simp [ih hfs]

/-- A compiled object rule is the object step over its fields, keyed as its field schemas, with
the strictness its options give. -/
theorem runRequests_object_eq_ok {reg : Registry} {d : Descriptor} {ctx c : Context}
    {f : Fragment} (h : runRequests reg (Rule.object d) ctx = some (.ok (f, c))) :
    ∃ props fields st, d.objectProps = .ok props ∧ Strictness.ofDescriptor d = .ok st ∧
      fields.map (·.1) = props.map (·.1) ∧ f = ⟨ctx.mode, objectStep fields st⟩ := by
  rw [runRequests_object] at h
  obtain ⟨props, hprops, h⟩ := thenOk_eq_ok.mp h
  obtain ⟨st, hst, h⟩ := thenOk_eq_ok.mp h
  obtain ⟨⟨fs, c'⟩, hfs, h⟩ := thenOk_eq_ok.mp h
  cases h
  refine ⟨props, fs.map fun p => (p.1, p.2.step), st, Option.some.inj hprops, Option.some.inj hst,
    ?_, rfl⟩
  simp [List.map_map, Function.comp_def, ← compileFields_keys hfs]

/-- The field steps of an object as jobs: each on the member under its key, or on null, one key
deeper. -/
def fieldJobs (m : List (String × Json)) (fields : List (String × Step)) :
    List (Step × Json × Segment) :=
  fields.map fun p => (p.2, (m.lookup p.1).getD .null, .key p.1)

/-- The field loop, from outputs `done` already written back over keys no field has: the fields
run in turn, each on the member as the input has it, and their outputs are written back. -/
theorem runFields_eq (s : Scope) {m : List (String × Json)} (hm : (m.map (·.1)).Nodup)
    (fields : List (String × Step)) (done : List (String × Json)) (records : List Record)
    (hf : (fields.map (·.1)).Nodup) (hdone : ∀ k ∈ fields.map (·.1), k ∉ done.map (·.1)) :
    runFields s fields (Members.writtenBack m done) records =
      (Members.writtenBack m (done ++ (fields.map (·.1)).zip
          ((runInTurn s records (fieldJobs m fields)).map (·.1))),
        records ++ (runInTurn s records (fieldJobs m fields)).flatMap (·.2)) := by
  induction fields generalizing done records with
  | nil => simp [runFields, fieldJobs, runInTurn]
  | cons field rest ih =>
    obtain ⟨key, step⟩ := field
    simp only [List.map_cons, List.nodup_cons, List.mem_cons, forall_eq_or_imp] at hf hdone
    -- the field reads its member as the input has it: no output before it has its key
    simp only [runFields, Members.lookup_writtenBack hdone.1]
    rcases hr : step ((m.lookup key).getD .null) ((s.extend records).enter (.key key)) with
      ⟨out, found⟩
    have hrest : ∀ k ∈ rest.map (·.1), k ∉ (done ++ [(key, out)]).map (·.1) := by
      intro k hk
      simp only [List.map_append, List.map_cons, List.map_nil, List.mem_append, List.mem_singleton,
        not_or]
      exact ⟨hdone.2 k hk, fun h => hf.1 (h ▸ hk)⟩
    simp only [Members.writtenBack_snoc hm hdone.1, ih _ _ hf.2 hrest, fieldJobs, List.map_cons,
      runInTurn, hr, List.zip_cons_cons, List.flatMap_cons, List.append_assoc, List.cons_append,
      List.nil_append]

namespace Descriptor

/-- The option `key` of `d` sets the strictness `st`: absent or false keeps undeclared keys,
true reports them and "remove" drops them. -/
def SetsStrictness (d : Descriptor) (key : String) : Strictness → Prop
  | .off => d.option? key = none ∨ d.option? key = some (.value (.bool false))
  | .reject => d.option? key = some (.value (.bool true))
  | .remove => d.option? key = some (.value (.str "remove"))

end Descriptor

section Strictness

variable {d : Descriptor}

theorem Strictness.ofDescriptor_eq_ok_iff {st : Strictness} :
    Strictness.ofDescriptor d = .ok st ↔
      d.SetsStrictness (if d.has "strict" then "strict" else "$$strict") st := by
  simp only [Strictness.ofDescriptor]
  split
  case h_1 hn => cases st <;> simp [Descriptor.SetsStrictness, hn]
  case h_2 hn => cases st <;> simp [Descriptor.SetsStrictness, hn]
  case h_3 hn => cases st <;> simp [Descriptor.SetsStrictness, hn]
  case h_4 hn => cases st <;> simp [Descriptor.SetsStrictness, hn]
  case h_5 o hnone hfalse htrue hremove =>
    simp only [reduceCtorEq, false_iff]
    cases st
    case off => exact fun h => h.elim hnone hfalse
    case reject => exact htrue
    case remove => exact hremove

theorem Strictness.ofDescriptor_error {e : Error} (h : Strictness.ofDescriptor d = .error e) :
    e = d.invalid (if d.has "strict" then "strict" else "$$strict")
      "expected a boolean or \"remove\"" := by
  simp only [Strictness.ofDescriptor] at h
  split at h
  case h_5 => exact (Except.error.inj h).symm
  all_goals cases h

end Strictness

/-- The object rule: its strictness as read or refused, its compiled step, and a run of that step,
field by field in declaration order. -/
theorem object_rule_runs_fields_in_order :
    (∀ d st, Strictness.ofDescriptor d = .ok st ↔
      d.SetsStrictness (if d.has "strict" then "strict" else "$$strict") st) ∧
    (∀ d e, Strictness.ofDescriptor d = .error e →
      e = d.invalid (if d.has "strict" then "strict" else "$$strict")
        "expected a boolean or \"remove\"") ∧
    (∀ (reg : Registry) d ctx f c, runRequests reg (Rule.object d) ctx = some (.ok (f, c)) →
      ∃ props fields st, d.objectProps = .ok props ∧ Strictness.ofDescriptor d = .ok st ∧
        fields.map (·.1) = props.map (·.1) ∧ f = ⟨ctx.mode, objectStep fields st⟩) ∧
    ∀ (fields : List (String × Step)) (st : Strictness) (s : Scope),
      (∀ v, (∀ m, v ≠ .obj m) →
        objectStep fields st v s = (v, [s.record { kind := "object", actual := some v }])) ∧
      ((fields.map (·.1)).Nodup → ∀ m : List (String × Json), (m.map (·.1)).Nodup →
        ∃ runs : List (Json × List Record), runs.length = fields.length ∧
          (∀ i (h : i < fields.length) (h' : i < runs.length), runs[i] = fields[i].2
            ((m.lookup fields[i].1).getD .null)
            ((s.extend ((runs.take i).flatMap (·.2))).enter (.key fields[i].1))) ∧
          let members := Members.writtenBack m ((fields.map (·.1)).zip (runs.map (·.1)))
          let records := runs.flatMap (·.2)
          let extra := (m.map (·.1)).filter fun k => !fields.any (·.1 == k)
          objectStep fields st (.obj m) s = match st with
            | .off => (.obj members, records)
            | .reject =>
              if extra.isEmpty then (.obj members, records)
              else (.obj members, records ++ [(s.extend records).record
                { kind := "objectStrict", actual := some (.str (", ".intercalate extra)) }])
            | .remove => (.obj (members.filter fun p => fields.any (·.1 == p.1)), records)) := by
  refine ⟨fun d st => Strictness.ofDescriptor_eq_ok_iff,
    fun d e h => Strictness.ofDescriptor_error h, fun reg d ctx f c h => runRequests_object_eq_ok h,
    fun fields st s => ⟨?_, fun hf m hm => ?_⟩⟩
  · intro v hv
    cases v
    case obj m => exact absurd rfl (hv m)
    all_goals rfl
  · -- the runs are the field steps' runs in turn, on the members of the input
    let runs := runInTurn s [] (fieldJobs m fields)
    let outs := (fields.map (·.1)).zip (runs.map (·.1))
    have hrun : runFields s fields m [] = (Members.writtenBack m outs, runs.flatMap (·.2)) := by
      simpa using runFields_eq s hm fields [] [] hf (by simp)
    -- every output written back is declared, so the undeclared members are the input's
    have hextra : ((Members.writtenBack m outs).map (·.1)).filter
        (fun k => !fields.any (·.1 == k)) =
        (m.map (·.1)).filter fun k => !fields.any (·.1 == k) := by
      have hnil : ((outs.filter fun p => (m.lookup p.1).isNone && !p.2.isNull).map (·.1)).filter
          (fun k => !fields.any (·.1 == k)) = [] := by
        refine List.filter_eq_nil_iff.mpr fun k hk => ?_
        have hk' : k ∈ outs.map (·.1) := (List.filter_sublist.map Prod.fst).subset hk
        have hdecl : k ∈ fields.map (·.1) := by
          rw [List.map_fst_zip (by simp [runs, fieldJobs])] at hk'
          exact hk'
        simpa using List.mem_map.mp hdecl
      rw [Members.keys_writtenBack, List.filter_append, hnil, List.append_nil]
    refine ⟨runs, by simp [runs, fieldJobs], fun i h h' => ?_, ?_⟩
    · rw [getElem_runInTurn _ _ _ _ _ (by simpa [fieldJobs] using h)]
      simp [runs, fieldJobs]
    · cases st <;> simp only [objectStep, hrun, hextra] <;> rfl

/-- Two declared fields over an object with one of them and one undeclared member, under `reject`.
-/
theorem object_rule_runs_name_and_age :
    let fields : List (String × Step) := [("name", Step.identity), ("age", Step.identity)]
    let m : List (String × Json) := [("id", .ofNat 7), ("name", .str "Ada")]
    let s : Scope := {}
    (fields.map (·.1)).Nodup ∧ (m.map (·.1)).Nodup ∧
      ∃ runs : List (Json × List Record), runs.length = fields.length ∧
        (∀ i (h : i < fields.length) (h' : i < runs.length), runs[i] = fields[i].2
          ((m.lookup fields[i].1).getD .null)
          ((s.extend ((runs.take i).flatMap (·.2))).enter (.key fields[i].1))) ∧
        let members := Members.writtenBack m ((fields.map (·.1)).zip (runs.map (·.1)))
        let records := runs.flatMap (·.2)
        let extra := (m.map (·.1)).filter fun k => !fields.any (·.1 == k)
        objectStep fields .reject (.obj m) s =
          if extra.isEmpty then (.obj members, records)
          else (.obj members, records ++ [(s.extend records).record
            { kind := "objectStrict", actual := some (.str (", ".intercalate extra)) }]) := by
  intro fields m s
  have hf : (fields.map (·.1)).Nodup := by decide
  have hm : (m.map (·.1)).Nodup := by decide
  exact ⟨hf, hm, (object_rule_runs_fields_in_order.2.2.2 fields .reject s).2 hf m hm⟩

end Conform
