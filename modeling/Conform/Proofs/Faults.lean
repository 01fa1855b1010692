import Conform.Proofs.Reach
/-! Compile errors name the first faulty node. A node's reading of its options refuses an option
by an invalid-option error that names the node's rule, the option and the node's compile label;
a tag that names no rule is refused by an unknown-rule error naming that label, and a shorthand
that does not expand by a schema error. Proved: compiling a schema with the built-in rules fails
exactly when the walk over the nodes it reaches, in pre-order, meets a faulty node; the error is
that node's first fault, and an unknown rule or an invalid option carries that node's compile
label, one key per object field and one item marker per array `items` from the root, pipe steps
adding nothing. -/

namespace Conform

/-! ### Readings that blame their node -/

namespace Descriptor

variable {α β : Type} (d : Descriptor)

/-- Every error of a reading is an invalid option of the node: it names the node's rule, one of
its options and its label. -/
def Blames (x : Except Error α) : Prop :=
  ∀ e, x = .error e → ∃ key message, e = d.invalid key message

variable {d}

theorem blames_ok (a : α) : d.Blames (.ok a) := fun _ h => by cases h

theorem blames_invalid (key message : String) :
    d.Blames (.error (d.invalid key message) : Except Error α) := fun _ h => by
  cases h
  exact ⟨key, message, rfl⟩

theorem Blames.bind {x : Except Error α} {f : α → Except Error β} (hx : d.Blames x)
    (hf : ∀ a, d.Blames (f a)) : d.Blames (x >>= f) := by
  intro e h
  cases x with
  | error e' =>
    obtain rfl : e' = e := Except.error.inj h
    exact hx e' rfl
  | ok a => exact hf a e h

theorem Blames.map {x : Except Error α} (f : α → β) (hx : d.Blames x) :
    d.Blames (x.map f) := by
  intro e h
  cases x with
  | error e' =>
    obtain rfl : e' = e := Except.error.inj h
    exact hx e' rfl
  | ok a => cases h

theorem blames_optionalFlag (key : String) : d.Blames (d.optionalFlag key) := by
  unfold optionalFlag
  split
  · exact blames_ok _
  · exact blames_ok _
  · exact blames_invalid _ _

theorem blames_flag (key : String) : d.Blames (d.flag key) :=
  (blames_optionalFlag key).bind fun _ => blames_ok _

theorem blames_number (key : String) : d.Blames (d.number key) := by
  unfold number
  split
  · exact blames_ok _
  · exact blames_ok _
  · exact blames_invalid _ _

theorem blames_count (key : String) : d.Blames (d.count key) := by
  unfold count
  split
  · exact blames_ok _
  · split
    · exact blames_ok _
    · exact blames_invalid _ _
  · exact blames_invalid _ _

theorem blames_string (key : String) : d.Blames (d.string key) := by
  unfold string
  split
  · exact blames_ok _
  · exact blames_ok _
  · exact blames_invalid _ _

theorem blames_check (key : String) : d.Blames (d.check key) := by
  unfold check
  split
  · exact blames_ok _
  · exact blames_ok _
  · exact blames_invalid _ _

theorem blames_schema (key : String) : d.Blames (d.schema key) := by
  unfold schema
  split
  · exact blames_ok _
  · exact blames_ok _
  · split
    · exact blames_ok _
    · exact blames_invalid _ _
  · exact blames_invalid _ _

theorem blames_fieldsOfMembers (key : String) (ms : List (String × Json)) :
    d.Blames (d.fieldsOfMembers key ms) := by
  induction ms with
  | nil => exact blames_ok _
  | cons m rest ih =>
    obtain ⟨name, raw⟩ := m
    unfold fieldsOfMembers
    split
    · exact blames_invalid _ _
    · exact ih.bind fun _ => blames_ok _

theorem blames_fields (key : String) : d.Blames (d.fields key) := by
  unfold fields
  split
  · exact blames_ok _
  · exact blames_ok _
  · exact (blames_fieldsOfMembers key _).map _
  · exact blames_invalid _ _

theorem blames_stepsOfItems (key : String) (index : Nat) (items : List Json) :
    d.Blames (d.stepsOfItems key index items) := by
  induction items generalizing index with
  | nil => exact blames_ok _
  | cons raw rest ih =>
    unfold stepsOfItems
    split
    · exact blames_invalid _ _
    · exact (ih (index + 1)).bind fun _ => blames_ok _

theorem blames_sequence (key : String) : d.Blames (d.sequence key) := by
  unfold sequence
  split
  · exact blames_ok _
  · exact (blames_stepsOfItems key 0 _).map _
  · exact blames_ok _

theorem blames_objectProps : d.Blames d.objectProps := by
  unfold objectProps
  refine (blames_fields "props").bind fun props => ?_
  cases props with
  | some props => exact blames_ok _
  | none => exact (blames_fields "properties").bind fun _ => blames_ok _

theorem blames_held : d.Blames d.held := by
  unfold held
  split
  · exact blames_objectProps.map _
  · exact (blames_schema "items").map _
  · exact (blames_sequence "steps").map _
  · exact blames_ok _

end Descriptor

section Rules

open Descriptor

variable {d : Descriptor}

theorem blames_presence : d.Blames (Presence.ofDescriptor d) := by
  unfold Presence.ofDescriptor
  split
  · exact blames_ok _
  · refine (blames_flag "optional").bind fun o => ?_
    cases o
    · refine (blames_flag "nullable").bind fun n => ?_
      cases n
      · by_cases hp : d.rule = "pipe"
        · rw [if_pos hp]
          exact blames_ok _
        · rw [if_neg hp]
          exact blames_ok _
      · exact blames_ok _
    · exact blames_ok _

theorem blames_strictness : d.Blames (Rule.Strictness.ofDescriptor d) := by
  intro e h
  simp only [Rule.Strictness.ofDescriptor] at h
  split at h
  case h_5 => exact ⟨_, _, (Except.error.inj h).symm⟩
  all_goals cases h

theorem blames_bounds : d.Blames (Rule.Bounds.ofDescriptor d) := by
  unfold Rule.Bounds.ofDescriptor
  exact (blames_optionalFlag "empty").bind fun _ => (blames_count "min").bind fun _ =>
    (blames_count "max").bind fun _ => (blames_count "length").bind fun _ => blames_ok _

theorem blames_numberRule : d.Blames (Rule.NumberRule.ofDescriptor d) := by
  unfold Rule.NumberRule.ofDescriptor
  exact (blames_flag "convert").bind fun _ => (blames_number "min").bind fun _ =>
    (blames_number "max").bind fun _ => (blames_number "equal").bind fun _ =>
    (blames_number "notEqual").bind fun _ => (blames_flag "integer").bind fun _ =>
    (blames_flag "positive").bind fun _ => (blames_flag "negative").bind fun _ => blames_ok _

theorem blames_textRule : d.Blames (Rule.TextRule.ofDescriptor d) := by
  unfold Rule.TextRule.ofDescriptor
  extract_lets +lift rest
  -- after the pattern, the flags and counts are read in turn
  have hrest : ∀ pattern, d.Blames (rest pattern) := fun _ =>
    (blames_flag "convert").bind fun _ => (blames_flag "trim").bind fun _ =>
    (blames_flag "trimLeft").bind fun _ => (blames_flag "trimRight").bind fun _ =>
    (blames_flag "lowercase").bind fun _ => (blames_flag "uppercase").bind fun _ =>
    (blames_optionalFlag "empty").bind fun _ => (blames_count "min").bind fun _ =>
    (blames_count "max").bind fun _ => (blames_count "length").bind fun _ => blames_ok _
  refine (blames_string "pattern").bind fun source => ?_
  split
  · split
    · exact (blames_ok _).bind hrest
    · exact (blames_invalid _ _).bind hrest
  · exact (blames_ok _).bind hrest

theorem blames_ruleChecks (m : Mode) : d.Blames (d.ruleChecks m) := by
  unfold Descriptor.ruleChecks
  split
  · exact blames_held.bind fun _ => blames_strictness.bind fun _ => blames_ok _
  · exact blames_bounds.bind fun _ => blames_held
  · exact blames_held
  · exact blames_textRule.map _
  · exact blames_numberRule.map _
  · exact (blames_flag "convert").map _
  · refine (blames_check "check").bind fun c => ?_
    rcases c with _ | ⟨_ | _, step⟩
    · exact blames_invalid _ _
    · exact blames_ok _
    · cases m
      · exact blames_invalid _ _
      · exact blames_ok _
  · exact blames_ok _

end Rules

/-! ### Faults name their node -/

theorem Shorthand.expand_error {text : String} {e : Error} (h : Shorthand.expand text = .error e) :
    ∃ message, e = .schema message := by
  unfold Shorthand.expand at h
  split at h
  · cases h
    exact ⟨_, rfl⟩
  · split at h
    · cases h
      exact ⟨_, rfl⟩
    · cases h

theorem Descriptor.Blames.namesPlace {α : Type} {d : Descriptor} {x : Except Error α}
    (hx : d.Blames x) {e : Error} (h : x = .error e) : e.NamesPlace d.label := by
  obtain ⟨key, message, rfl⟩ := hx e h
  rfl

theorem Registry.normalize_error {s : Schema} {label : String} {e : Error}
    (h : Registry.normalize s label = .error e) : ∃ message, e = .schema message := by
  cases s with
  | shorthand text =>
    rcases hexp : Shorthand.expand text with e' | n
    · simp only [Registry.normalize, hexp] at h
      obtain rfl : e' = e := Except.error.inj h
      exact Shorthand.expand_error hexp
    · simp [Registry.normalize, hexp, bind, Except.bind, pure, Except.pure] at h
  | node rule options => cases h

/-- A node is refused before its options are read only by a shorthand that does not expand or by
a tag that names no rule, and the latter names the node's label. -/
theorem Schema.builtinNode_error {s : Schema} {label : String} {e : Error}
    (h : s.builtinNode label = .error e) : e.NamesPlace label := by
  unfold Schema.builtinNode at h
  rcases hn : Registry.normalize s label with e' | d
  · rw [hn] at h
    obtain rfl : e' = e := Except.error.inj h
    obtain ⟨message, rfl⟩ := Registry.normalize_error hn
    trivial
  · rw [hn] at h
    simp only [bind, Except.bind] at h
    split at h
    · cases h
    · cases h
      rfl

theorem Schema.builtinNode_label {s : Schema} {label : String} {d : Descriptor}
    (h : s.builtinNode label = .ok d) : d.label = label := by
  unfold Schema.builtinNode at h
  obtain ⟨d', hd', h⟩ := except_bind_eq_ok.mp h
  split at h
  · cases h
    exact Registry.normalize_label hd'
  · cases h

theorem Schema.ownChecks_namesPlace {m : Mode} {label : List Segment} {s : Schema} {e : Error}
    (h : s.ownChecks m label = .error e) : e.NamesPlace (renderPath label) := by
  unfold Schema.ownChecks at h
  rcases hnode : s.builtinNode (renderPath label) with e' | d
  · rw [hnode] at h
    obtain rfl : e' = e := Except.error.inj h
    exact Schema.builtinNode_error hnode
  · rw [hnode] at h
    -- the presence options are read first, then the rule's own options
    have h' : (Presence.ofDescriptor d >>= fun p => d.ruleChecks m >>= fun held =>
        pure (p, held)) = .error e := h
    rw [← Schema.builtinNode_label hnode]
    exact (blames_presence.bind fun _ => (blames_ruleChecks m).bind fun _ =>
      Descriptor.blames_ok _).namesPlace h'

theorem exists_of_mapM_eq_error {α β ε : Type} {f : α → Except ε β} {l : List α} {x : ε}
    (h : l.mapM f = .error x) : ∃ a ∈ l, f a = .error x := by
  induction l with
  | nil => cases h
  | cons a rest ih =>
    rw [List.mapM_cons] at h
    rcases ha : f a with e | b
    · rw [ha] at h
      cases h
      exact ⟨a, List.mem_cons_self, ha⟩
    · rw [ha] at h
      rcases hr : rest.mapM f with e | bs
      · rw [hr] at h
        cases h
        obtain ⟨a', ha', hfa'⟩ := ih hr
        exact ⟨a', List.mem_cons_of_mem a ha', hfa'⟩
      · rw [hr] at h
        cases h

theorem Schema.walk_error_namesPlace :
    ∀ n (s : Schema), s.weight < n → ∀ m label place e, s.walk m label = .error (place, e) →
      e.NamesPlace (renderPath place)
  | 0, _, hw, _, _, _, _, _ => absurd hw (Nat.not_lt_zero _)
  | n + 1, s, hw, m, label, place, e, h => by
    rw [Schema.walk_eq] at h
    rcases hown : s.ownChecks m label with e' | ⟨p, held⟩
    · rw [hown] at h
      cases h
      exact Schema.ownChecks_namesPlace hown
    · rw [hown] at h
      dsimp only at h
      -- the walk stopped inside a schema the node holds, which is smaller
      obtain ⟨⟨seg, c⟩, hmem, hc⟩ :
          ∃ q ∈ held, q.2.walk m (label ++ q.1.toList) = .error (place, e) := by
        rcases hms : held.mapM (fun (sc : Option Segment × Schema) =>
            sc.2.walk m (label ++ sc.1.toList)) with x | ks
        · rw [hms] at h
          cases h
          exact exists_of_mapM_eq_error hms
        · rw [hms] at h
          cases h
      have hlt := Schema.ownChecks_weight hown (seg, c) hmem
      exact Schema.walk_error_namesPlace n c (by simp only at hlt; omega) m _ place e hc

/-! ### Compilations fail at the first fault -/

/-- The first fault names its node's label, when it names one: the root's `$$async` is refused at
the empty label, and the walk stops at a node whose fault names it. -/
theorem Compiler.firstFault_namesPlace (c : Compiler) (S : Schema) {label : List Segment}
    {e : Error} (h : c.firstFault S = some (label, e)) : e.NamesPlace (renderPath label) := by
  unfold Compiler.firstFault at h
  rcases hm : c.declaredMode S with e' | m
  · rw [hm] at h
    cases h
    cases S with
    | shorthand t => cases hm
    | node rule options =>
      simp only [Compiler.declaredMode] at hm
      split at hm <;> cases hm
      rfl
  · rw [hm] at h
    dsimp only at h
    split at h
    · next hw =>
      cases h
      exact Schema.walk_error_namesPlace _ S (Nat.lt_succ_self _) m [] label e hw
    · cases h

/-- What the first fault decides of a compilation with the built-in rules: with no fault it
gives a validator, and with one it fails with that fault's error. -/
theorem Compiler.compile_by_firstFault (config : Config) (S : Schema) :
    (({ registry := Registry.builtins, config } : Compiler).firstFault S = none ∧
      ∃ v, ({ registry := Registry.builtins, config } : Compiler).compile S = some (.ok v)) ∨
    ∃ label e, ({ registry := Registry.builtins, config } : Compiler).firstFault S =
      some (label, e) ∧
      ({ registry := Registry.builtins, config } : Compiler).compile S = some (.error e) := by
  unfold Compiler.firstFault
  rcases hm : Compiler.declaredMode { registry := Registry.builtins, config } S with e | m
  · -- the root's `$$async` is refused before anything is compiled
    exact .inr ⟨[], e, rfl, by simp [Compiler.compile, hm]⟩
  dsimp only
  have hwalk := Schema.compilesAsWalked (S.weight + 1) S (Nat.lt_succ_self _) { mode := m }
  rcases hw : S.walk m [] with ⟨label, e⟩ | k
  · refine .inr ⟨label, e, rfl, ?_⟩
    simp only [Compiler.compile, hm, hwalk.1 label e hw]
    rfl
  · obtain ⟨f, ctx, bs, hrule, -⟩ := hwalk.2 k hw
    refine .inl ⟨rfl, ⟨f, ctx.table, m, config.buildMessages⟩, ?_⟩
    simp only [Compiler.compile, hm, hrule]
    rfl

/-- Compile errors name the first faulty node: a compile fails exactly with the first fault the
pre-order walk meets, and that fault carries the node's compile label. -/
theorem compile_fails_at_first_fault (config : Config) (S : Schema) :
    let c : Compiler := { registry := Registry.builtins, config }
    (∀ e, c.compile S = some (.error e) ↔ ∃ label, c.firstFault S = some (label, e)) ∧
    ((∃ v, c.compile S = some (.ok v)) ↔ c.firstFault S = none) ∧
    (∀ label e, c.firstFault S = some (label, e) → e.NamesPlace (renderPath label)) := by
  intro c
  refine ⟨fun e => ?_, ?_, fun label e h => c.firstFault_namesPlace S h⟩
  · rcases Compiler.compile_by_firstFault config S with ⟨hf, v, hc⟩ | ⟨label, e', hf, hc⟩
    · simp [c, hf, hc]
    · simp [c, hf, hc, eq_comm]
  · rcases Compiler.compile_by_firstFault config S with ⟨hf, v, hc⟩ | ⟨label, e', hf, hc⟩
    · simp [c, hf, hc]
    · simp [c, hf, hc]

end Conform
