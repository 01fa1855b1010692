import Conform.Proofs.Frame
/-! The pipe rule. A pipe threads one value through its steps: each step runs on the output of
the one before until one reports, and that step's output is the pipe's. Proved: a pipe node
whose tag is compiled by the built-in pipe compiler, and that has no raw `default` and no true
`optional` or `nullable`, compiles to that short-circuit fold of its steps, each step compiled as
a rule of its own with its own frame and in the context the previous one left; a `steps` option
that is not a sequence gives the identity; a raw array with an element that is no schema is an
invalid option naming that element. -/

namespace Conform

/-! ### The fold of the steps -/

/-- One step of the fold: run the step on the value so far unless something was reported
already. The scope is that of the pipe, since no step that ran before reported anything. -/
def foldStage (s : Scope) (acc : Json × List Record) (step : Step) : Json × List Record :=
  if acc.2.isEmpty then
    let (w, rs) := step acc.1 s
    (w, acc.2 ++ rs)
  else acc

/-- The steps of a pipe run left to right from `v`: a step runs while nothing has been reported,
on the output of the step before, and the records are those of the steps that ran. -/
def foldStages (stages : List Step) (v : Json) (s : Scope) : Json × List Record :=
  stages.foldl (foldStage s) (v, [])

@[simp] theorem foldStage_clean (s : Scope) (v : Json) (step : Step) :
    foldStage s (v, []) step = step v s := by
  simp [foldStage]

theorem foldStage_of_reported {s : Scope} {acc : Json × List Record} (h : acc.2 ≠ [])
    (step : Step) : foldStage s acc step = acc := by
  simp [foldStage, List.isEmpty_iff, h]

theorem foldl_foldStage_of_reported {s : Scope} {acc : Json × List Record} (h : acc.2 ≠ [])
    (stages : List Step) : stages.foldl (foldStage s) acc = acc := by
  induction stages with
  | nil => rfl
  | cons step rest ih => rw [List.foldl_cons, foldStage_of_reported h, ih]

theorem pipeStep_eq_foldStages (stages : List Step) : Rule.pipeStep stages = foldStages stages := by
  funext v s
  induction stages generalizing v with
  | nil => rfl
  | cons step rest ih =>
    simp only [Rule.pipeStep, foldStages, List.foldl_cons, foldStage_clean]
    rcases step v s with ⟨w, _ | ⟨r, rs⟩⟩
    · exact ih w
    · exact (foldl_foldStage_of_reported (by simp) rest).symm

theorem foldStages_nil (v : Json) (s : Scope) : foldStages [] v s = (v, []) := rfl

theorem foldStages_append (xs ys : List Step) (v : Json) (s : Scope) :
    foldStages (xs ++ ys) v s = afterBody (some (foldStages ys)) (foldStages xs v s) s := by
  simp only [← pipeStep_eq_foldStages]
  induction xs generalizing v with
  | nil => rfl
  | cons x xs ih =>
    simp only [List.cons_append, Rule.pipeStep]
    rcases x v s with ⟨w, _ | ⟨r, rs⟩⟩
    · exact ih w
    · rfl

theorem foldStages_cons (k : Step) (ks : List Step) (v : Json) (s : Scope) :
    foldStages (k :: ks) v s = afterBody (some (foldStages ks)) (k v s) s := by
  rw [← List.singleton_append, foldStages_append]
  rfl

theorem foldStages_splice (fs gs hs : List Step) :
    foldStages (fs ++ foldStages gs :: hs) = foldStages (fs ++ gs ++ hs) := by
  funext v s
  rw [List.append_assoc, foldStages_append, foldStages_append fs]
  congr 2
  funext w s'
  rw [foldStages_cons, foldStages_append]

/-! ### The steps of a pipe, compiled -/

/-- The steps of a pipe compiled one after another, each as a rule of its own with its own frame
and no continuation, in the context the one before left. -/
def compileSteps (reg : Registry) : List Schema → Context →
    Option (Except Error (List Fragment × Context))
  | [], c => some (.ok ([], c))
  | s :: rest, c => thenOk (compileRule reg s none c) fun (f, c') =>
    thenOk (compileSteps reg rest c') fun (fs, c'') => some (.ok (f :: fs, c''))

section Steps

variable {reg : Registry}

theorem runRequests_compileNested_none (s : Schema) (c : Context) :
    runRequests reg (Emit.compileNested none s none) c = compileRule reg s none c := by
  rw [runRequests_compileNested, Context.enter_none]
  conv => rhs; rw [← thenOk_ok_right (r := compileRule reg s none c)]
  apply thenOk_congr
  rintro ⟨f, c'⟩ h
  have hl : c'.label = c.label := (compileRule_extends h).2.2.1
  simp [← hl]

theorem runEach_compileNested (steps : List Schema) (c : Context) :
    runEach reg (fun s => Emit.compileNested none s none) steps c = compileSteps reg steps c := by
  induction steps generalizing c with
  | nil => rfl
  | cons s rest ih => simp only [runEach, compileSteps, runRequests_compileNested_none, ih]

theorem compileSteps_extends {steps : List Schema} {c c' : Context} {fs : List Fragment}
    (h : compileSteps reg steps c = some (.ok (fs, c'))) :
    (∀ f ∈ fs, f.mode = c.mode) ∧ c.Extends c' := by
  induction steps generalizing c fs with
  | nil => cases h; exact ⟨by simp, .refl _⟩
  | cons s rest ih =>
    obtain ⟨⟨f, c₁⟩, hf, h⟩ := thenOk_eq_ok.mp h
    obtain ⟨⟨fs', c₂⟩, hfs, h⟩ := thenOk_eq_ok.mp h
    cases h
    obtain ⟨hmode, hext⟩ := compileRule_extends hf
    obtain ⟨hmodes, hext'⟩ := ih hfs
    refine ⟨?_, hext.trans hext'⟩
    intro g hg
    rcases List.mem_cons.mp hg with rfl | hg
    · exact hmode
    · exact (hmodes g hg).trans hext.1

end Steps

/-! ### The pipe compiler -/

section Program

variable {reg : Registry} {d : Descriptor} (ctx : Context)

theorem runRequests_pipe_of_steps {steps : List Schema}
    (h : d.sequence "steps" = .ok (some steps)) :
    runRequests reg (Rule.pipe d) ctx = thenOk (compileSteps reg steps ctx) fun (fs, c) =>
      some (.ok (⟨ctx.mode, Rule.pipeStep (fs.map (·.step))⟩, c)) := by
  simp only [Rule.pipe, runRequests_bind, runRequests_ofExcept, h, Except.map, thenOk_ok,
    runRequests_forIn_append, runEach_compileNested, List.nil_append, thenOk_assoc]
  apply thenOk_congr
  rintro ⟨fs, c⟩ hc
  -- the steps compiled in the pipe's mode, so staging them takes their steps as they are
  obtain ⟨hm, hext⟩ := compileSteps_extends hc
  have hmodes : ∀ f ∈ fs, f.mode = c.mode := fun f hf => (hm f hf).trans hext.1.symm
  simp [runEach_stage reg hmodes, hext.1]

theorem runRequests_pipe_of_none (h : d.sequence "steps" = .ok none) :
    runRequests reg (Rule.pipe d) ctx = some (.ok (⟨ctx.mode, Step.identity⟩, ctx)) := by
  simp [Rule.pipe, runRequests_bind, h, Except.map, Emit.identity]

theorem runRequests_pipe_of_error {e : Error} (h : d.sequence "steps" = .error e) :
    runRequests reg (Rule.pipe d) ctx = some (.error e) := by
  simp [Rule.pipe, runRequests_bind, h, Except.map]

end Program

/-! ### Reading the steps -/

section Sequence

variable {d : Descriptor} {key : String}

theorem Descriptor.stepsOfItems_of_mapM {items : List Json} {steps : List Schema} (n : Nat)
    (h : items.mapM Schema.ofJson = .ok steps) : d.stepsOfItems key n items = .ok steps := by
  induction items generalizing n steps with
  | nil => cases h; rfl
  | cons x rest ih =>
    rw [List.mapM_cons] at h
    obtain ⟨sx, hx, h⟩ := except_bind_eq_ok.mp h
    obtain ⟨sr, hr, h⟩ := except_bind_eq_ok.mp h
    cases h
    simp [Descriptor.stepsOfItems, hx, ih (n + 1) hr, bind, Except.bind]

theorem Descriptor.stepsOfItems_of_bad {pre post : List Json} {bad : Json} {e : Error} (n : Nat)
    (hpre : ∀ x ∈ pre, ∃ sc, Schema.ofJson x = .ok sc) (hbad : Schema.ofJson bad = .error e) :
    d.stepsOfItems key n (pre ++ bad :: post) =
      .error (d.invalid key s!"element {n + pre.length}: {e.message}") := by
  induction pre generalizing n with
  | nil => simp [Descriptor.stepsOfItems, hbad]
  | cons x rest ih =>
    obtain ⟨sx, hx⟩ := hpre x (by simp)
    have hrest := ih (n + 1) fun y hy => hpre y (by simp [hy])
    simp only [List.cons_append, Descriptor.stepsOfItems, hx, hrest, bind, Except.bind]
    simp only [List.length_cons]
    rw [Nat.add_right_comm, Nat.add_assoc]

theorem Descriptor.sequence_of_steps {steps : List Schema}
    (h : d.option? key = some (.sequence steps) ∨
      ∃ items, d.option? key = some (.value (.arr items)) ∧
        items.mapM Schema.ofJson = .ok steps) :
    d.sequence key = .ok (some steps) := by
  rcases h with h | ⟨items, h, hitems⟩
  · simp [Descriptor.sequence, h]
  · simp [Descriptor.sequence, h, Descriptor.stepsOfItems_of_mapM 0 hitems, Except.map]

theorem Descriptor.sequence_of_other (hs : ∀ steps, d.option? key ≠ some (.sequence steps))
    (ha : ∀ items, d.option? key ≠ some (.value (.arr items))) : d.sequence key = .ok none := by
  unfold Descriptor.sequence
  split
  · exact absurd ‹_› (hs _)
  · exact absurd ‹_› (ha _)
  · rfl

end Sequence

/-! ### A pipe node -/

section Node

variable {reg : Registry} {s : Schema} {next : Option Fragment} {ctx : Context} {d : Descriptor}

theorem presence_of_pipe (hpipe : d.rule = "pipe") (hd : d.value? "default" = none)
    (ho : d.FlagOff "optional") (hn : d.FlagOff "nullable") :
    Presence.ofDescriptor d = .ok .delegated := by
  rw [presence_of_flags_off hd (Descriptor.flag_of_off ho) (Descriptor.flag_of_off hn),
    if_pos hpipe]

theorem closeRule_delegated {c : Context} {body : Step}
    (hnext : ∀ k ∈ next, k.mode = ctx.mode) :
    closeRule ctx .delegated next ⟨ctx.mode, body⟩ c =
      .ok (⟨ctx.mode, fun v sc => afterBody (next.map (·.step)) (body v sc) sc⟩,
        { c with table := c.table.push ⟨ctx.mode, body⟩ }) := by
  rw [closeRule_of_step hnext, frameStep_delegated_eq]

/-- A pipe node with a sequence of steps, in whatever frame its options give: its steps are
compiled in order, and the fold of their steps is framed and registered. -/
theorem compileRule_pipe_of_steps {p : Presence} {steps : List Schema}
    (hr : reg.resolve s (renderPath ctx.label) = .ok (d, Rule.pipe))
    (hp : Presence.ofDescriptor d = .ok p) (hnext : ∀ k ∈ next, k.mode = ctx.mode)
    (hseq : d.sequence "steps" = .ok (some steps)) :
    compileRule reg s next ctx = thenOk (compileSteps reg steps ctx) fun (fs, c) =>
      some (.ok (⟨ctx.mode, frameStep p (foldStages (fs.map (·.step))) (next.map (·.step))⟩,
        { c with table := c.table.push ⟨ctx.mode, foldStages (fs.map (·.step))⟩ })) := by
  rw [compileRule_of_resolve hr hp, runRequests_pipe_of_steps ctx hseq, thenOk_assoc]
  apply thenOk_congr
  rintro ⟨fs, c⟩ -
  simp only [thenOk_ok, closeRule_of_step hnext, pipeStep_eq_foldStages]

/-- A pipe node compiles exactly when its steps do, and runs their short-circuit fold, then the
continuation if nothing was reported. -/
theorem compileRule_pipe (hr : reg.resolve s (renderPath ctx.label) = .ok (d, Rule.pipe))
    (hpipe : d.rule = "pipe") (hd : d.value? "default" = none) (ho : d.FlagOff "optional")
    (hn : d.FlagOff "nullable") (hnext : ∀ k ∈ next, k.mode = ctx.mode) :
    (∀ steps, (d.option? "steps" = some (.sequence steps) ∨
        ∃ items, d.option? "steps" = some (.value (.arr items)) ∧
          items.mapM Schema.ofJson = .ok steps) →
      compileRule reg s next ctx = thenOk (compileSteps reg steps ctx) fun (fs, c) =>
        some (.ok (⟨ctx.mode, fun v sc =>
            afterBody (next.map (·.step)) (foldStages (fs.map (·.step)) v sc) sc⟩,
          { c with table := c.table.push ⟨ctx.mode, foldStages (fs.map (·.step))⟩ }))) ∧
    ((∀ steps, d.option? "steps" ≠ some (.sequence steps)) →
      (∀ items, d.option? "steps" ≠ some (.value (.arr items))) →
      compileRule reg s next ctx =
        some (.ok (⟨ctx.mode, fun v sc => afterBody (next.map (·.step)) (v, []) sc⟩,
          { ctx with table := ctx.table.push ⟨ctx.mode, Step.identity⟩ }))) ∧
    (∀ pre bad post e, d.option? "steps" = some (.value (.arr (pre ++ bad :: post))) →
      (∀ x ∈ pre, ∃ sc, Schema.ofJson x = .ok sc) → Schema.ofJson bad = .error e →
      compileRule reg s next ctx =
        some (.error (d.invalid "steps" s!"element {pre.length}: {e.message}"))) := by
  have hp := presence_of_pipe hpipe hd ho hn
  refine ⟨fun steps hsteps => ?_, fun hs ha => ?_, fun pre bad post e harr hpre hbad => ?_⟩
  · rw [compileRule_pipe_of_steps hr hp hnext (Descriptor.sequence_of_steps hsteps)]
    simp only [frameStep_delegated_eq]
  · rw [compileRule_of_resolve hr hp,
      runRequests_pipe_of_none ctx (Descriptor.sequence_of_other hs ha)]
    simp only [thenOk_ok, closeRule_delegated hnext]
    rfl
  · -- the raw array is read element by element, and the first that is no schema stops it
    have hseq : d.sequence "steps" =
        .error (d.invalid "steps" s!"element {pre.length}: {e.message}") := by
      have hitems := @Descriptor.stepsOfItems_of_bad d "steps" pre post bad e 0 hpre hbad
      rw [Nat.zero_add] at hitems
      simp [Descriptor.sequence, harr, hitems, Except.map]
    rw [compileRule_of_resolve hr hp, runRequests_pipe_of_error ctx hseq, thenOk_error]

end Node

/-- A synchronous pipe of one `any` step, compiled by the built-in registry. -/
theorem compileRule_pipe_any :
    let d : Descriptor :=
      ⟨{ rule := "pipe", options := [("steps", .sequence [.node "any" []])] }, ""⟩
    Registry.builtins.resolve (.node "pipe" [("steps", .sequence [.node "any" []])])
        (renderPath ([] : List Segment)) = .ok (d, Rule.pipe) ∧
      d.rule = "pipe" ∧ d.value? "default" = none ∧ d.FlagOff "optional" ∧
      d.FlagOff "nullable" ∧ (∀ k ∈ (none : Option Fragment), k.mode = Mode.sync) ∧
      ((∀ steps, (d.option? "steps" = some (.sequence steps) ∨
          ∃ items, d.option? "steps" = some (.value (.arr items)) ∧
            items.mapM Schema.ofJson = .ok steps) →
        compileRule Registry.builtins (.node "pipe" [("steps", .sequence [.node "any" []])]) none
            { mode := .sync } = thenOk (compileSteps Registry.builtins steps { mode := .sync })
          fun (fs, c) => some (.ok (⟨.sync, fun v sc =>
              afterBody none (foldStages (fs.map (·.step)) v sc) sc⟩,
            { c with table := c.table.push ⟨.sync, foldStages (fs.map (·.step))⟩ })))) ∧
      ((∀ steps, d.option? "steps" ≠ some (.sequence steps)) →
        (∀ items, d.option? "steps" ≠ some (.value (.arr items))) →
        compileRule Registry.builtins (.node "pipe" [("steps", .sequence [.node "any" []])]) none
            { mode := .sync } =
          some (.ok (⟨.sync, fun v sc => afterBody none (v, []) sc⟩,
            { mode := .sync, table := #[⟨.sync, Step.identity⟩] }))) ∧
      (∀ pre bad post e, d.option? "steps" = some (.value (.arr (pre ++ bad :: post))) →
        (∀ x ∈ pre, ∃ sc, Schema.ofJson x = .ok sc) → Schema.ofJson bad = .error e →
        compileRule Registry.builtins (.node "pipe" [("steps", .sequence [.node "any" []])]) none
            { mode := .sync } =
          some (.error (d.invalid "steps" s!"element {pre.length}: {e.message}"))) :=
  ⟨rfl, rfl, rfl, .inl rfl, .inl rfl, by simp,
    compileRule_pipe rfl rfl rfl (.inl rfl) (.inl rfl) (by simp)⟩

end Conform
