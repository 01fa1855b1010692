import Conform.Proofs.SyncChecks
/-! Synchronous and asynchronous compilations agree. A synchronous compilation builds each rule
body as a synchronous fragment; an asynchronous one builds the same step as an asynchronous
fragment, lifting any synchronous fragment it stages. Lifting keeps a fragment's step, and the
only rule whose answer depends on the mode is `custom`, which refuses an asynchronous check in a
synchronous compilation. Proved: for a schema of the built-in rules with only synchronous
checks whose root declares no mode, compiling it synchronously and asynchronously either both
never end, or both fail with the same error, or give validators with the same number of
fragments that, each called in its own mode, give the same outcome and leave the same value on
every input. So the synchronous validator answers every call, never as the asynchronous one
could not. -/

namespace Conform

/-! ### The built-in registry -/

theorem Registry.get?_override (r : Registry) (tag t : String) (c : RuleCompiler) :
    (r.override tag c).2.get? t = if t = tag then some c else r.get? t := by
  by_cases h : t = tag
  · subst h
    simp [Registry.override, Registry.get?, Options.lookup_insert_self]
  · simp [Registry.override, Registry.get?, Options.lookup_insert_ne _ _ h, h]

theorem Registry.get?_foldl_override {P : RuleCompiler → Prop} (l : List (String × RuleCompiler))
    (r : Registry) (hr : ∀ t c, r.get? t = some c → P c) (hl : ∀ p ∈ l, P p.2) (t : String)
    (c : RuleCompiler) (h : (l.foldl (fun r (tag, c) => (r.override tag c).2) r).get? t = some c) :
    P c := by
  induction l generalizing r with
  | nil => exact hr t c h
  | cons p rest ih =>
    refine ih _ ?_ (fun q hq => hl q (List.mem_cons_of_mem p hq)) h
    intro t' c' h'
    rw [Registry.get?_override] at h'
    split at h'
    · cases h'
      exact hl p List.mem_cons_self
    · exact hr t' c' h'

theorem Registry.get?_builtins {tag : String} {comp : RuleCompiler}
    (h : Registry.builtins.get? tag = some comp) : comp ∈ Registry.builtinRules.map Prod.snd :=
  Registry.get?_foldl_override _ {} (fun _ _ h => by simp [Registry.get?] at h)
    (fun _ hp => List.mem_map_of_mem hp) tag comp h

/-! ### A synchronous and an asynchronous compilation side by side -/

@[simp] theorem Fragment.lift_async (f : Fragment) :
    f.lift .async = .ok { f with mode := .async } := by
  rcases f with ⟨_ | _, step⟩ <;> rfl

/-- A synchronous and an asynchronous compilation side by side, at one label and with tables
of one size, compiling schemas whose checks are synchronous into fragments of one step, the
first synchronous and the second asynchronous. -/
def Lockstep.modes : Lockstep :=
  ⟨fun c c' => c.mode = .sync ∧ c'.mode = .async ∧ c'.label = c.label ∧
      c'.table.size = c.table.size,
    fun f f' => f.mode = .sync ∧ f'.mode = .async ∧ f'.step = f.step,
    fun s => s.syncChecks = true⟩

namespace Lockstep

theorem modes_leaf (step : Step) (c c' : Context) (hc : modes.ctx c c') :
    modes.frag ⟨c.mode, step⟩ ⟨c'.mode, step⟩ :=
  ⟨hc.1, hc.2.1, rfl⟩

theorem modes_stage (f f' : Fragment) (c c' : Context) (hc : modes.ctx c c')
    (hf : modes.frag f f') : (f.lift c.mode).map (·.step) = (f'.lift c'.mode).map (·.step) := by
  obtain ⟨hsync, -, hstep⟩ := hf
  rw [hc.1, hc.2.1, ← hsync, Fragment.lift_self, Fragment.lift_async]
  simp [Except.map, hstep]

theorem modes_next {next next' : Option Fragment} (hnext : Option.Rel modes.frag next next') :
    (∀ k ∈ next, k.mode = .sync) ∧ ∀ k ∈ next', k.mode = .async := by
  cases hnext with
  | none => simp
  | some hk =>
    exact ⟨fun _ h => Option.some_inj.mp h ▸ hk.1, fun _ h => Option.some_inj.mp h ▸ hk.2.1⟩

theorem modes_close {ctx ctx' d d' : Context} {body body' : Fragment}
    {next next' : Option Fragment} (p : Presence) (hc : modes.ctx ctx ctx')
    (hbody : modes.frag body body') (hnext : Option.Rel modes.frag next next')
    (hd : modes.ctx d d') :
    modes.Ends modes.frag (closeBody ctx.mode p next body d)
      (closeBody ctx'.mode p next' body' d') := by
  obtain ⟨hsync, hasync⟩ := modes_next hnext
  have hsteps : next.map (·.step) = next'.map (·.step) :=
    rel_eq (rel_map hnext fun _ _ hk => hk.2.2.symm)
  rw [closeBody_of_modes (hbody.1.trans hc.1.symm) (fun k hk => (hsync k hk).trans hc.1.symm),
    closeBody_of_modes (hbody.2.1.trans hc.2.1.symm)
      (fun k hk => (hasync k hk).trans hc.2.1.symm)]
  exact ⟨⟨hc.1, hc.2.1, by rw [hbody.2.2, hsteps]⟩, hd.1, hd.2.1, hd.2.2.1, by simp [hd.2.2.2]⟩

theorem keeps_modes : modes.Keeps where
  label hc := hc.2.2.1.symm
  enter seg hc := by
    cases seg <;> exact ⟨hc.1, hc.2.1, by simp [hc.2.2.1], hc.2.2.2⟩
  restore hc hd := ⟨hd.1, hd.2.1, hc.2.2.1, hd.2.2.2⟩
  push hc _ := ⟨hc.1, hc.2.1, hc.2.2.1, by simp [hc.2.2.2]⟩
  close p hc hbody hnext hd := modes_close p hc hbody hnext hd

theorem Par.custom_modes (d : Descriptor) (hd : Opt.syncChecksAll d.node.options = true) :
    modes.Par modes.frag (Rule.custom d) (Rule.custom d) := by
  unfold Rule.custom
  refine Par.bind (Par.ofExcept _) ?_
  rintro check _ ⟨rfl, hcheck⟩
  cases check with
  | none => exact .fail _
  | some c =>
    have hsync : c.mode = .sync := Descriptor.check_sync hd hcheck
    refine Par.bind (@Par.mode modes (fun _ _ => True) fun _ _ _ => trivial) ?_
    intro m m' _
    rw [hsync]
    exact Par.leaf _ (modes_leaf _)

/-- Every built-in rule compiler runs alike in both modes on a node with only synchronous
checks. -/
theorem supports_modes_builtins : modes.Supports Registry.builtins := by
  intro s label d comp hs hr
  have hd := Registry.resolve_syncChecks hs hr
  have hmem := Registry.get?_builtins (Registry.get?_of_resolve hr)
  simp only [Registry.builtinRules, List.map_cons, List.map_nil, List.mem_cons,
    List.not_mem_nil, or_false] at hmem
  rcases hmem with rfl | rfl | rfl | rfl | rfl | rfl | rfl | rfl
  · exact Par.leaf _ (modes_leaf _)
  · exact Par.ofExcept_leaf modes_leaf _ _
  · exact Par.ofExcept_leaf modes_leaf _ _
  · exact Par.ofExcept_leaf modes_leaf _ _
  · exact Par.object modes_leaf modes_stage d fun _ _ h => Descriptor.fields_syncChecks hd h
  · exact Par.array modes_leaf modes_stage d fun _ h => Descriptor.schema_syncChecks hd h
  · exact Par.custom_modes d hd
  · exact Par.pipe modes_leaf modes_stage d fun _ h => Descriptor.sequence_syncChecks hd h

end Lockstep

/-! ### The two validators -/

@[simp] theorem Config.buildMessages_withDefaultMode (cfg : Config) (m : Mode) :
    (cfg.withDefaultMode m).buildMessages = cfg.buildMessages := rfl

theorem Validator.validate_own (v : Validator) {call : Mode} (h : v.root.mode = call) (x : Json) :
    v.validate call x = .ok (v.run x) := by
  simp [Validator.validate, h]

/-- A synchronous and an asynchronous compilation of one schema agree: the same error, or
validators with as many fragments that, each called in its own mode, both answer, with the same
outcome and the same value left. -/
def ModesAgree : Except Error Validator → Except Error Validator → Prop
  | .error e, .error e' => e = e'
  | .ok v, .ok v' => v.fragmentCount = v'.fragmentCount ∧
      ∀ x, ∃ r, v.validate .sync x = .ok r ∧ v'.validate .async x = .ok r
  | _, _ => False

/-- Sync/async parity: a schema of synchronous checks compiles alike in both default modes, and each
validator, called in its own mode, gives the same outcome and value. -/
theorem compile_sync_async_agree (cfg : Config) (S : Schema) (hs : S.syncChecks = true)
    (hroot : ∀ rule opts, S = .node rule opts → opts.lookup "$$async" = none) :
    Option.Rel ModesAgree
      (Compiler.compile ⟨Registry.builtins, cfg.withDefaultMode .sync⟩ S)
      (Compiler.compile ⟨Registry.builtins, cfg.withDefaultMode .async⟩ S) := by
  have hmode : ∀ m, Compiler.declaredMode ⟨Registry.builtins, cfg.withDefaultMode m⟩ S = .ok m := by
    intro m
    cases S with
    | shorthand t => rfl
    | node rule opts =>
      simp [Compiler.declaredMode, hroot rule opts rfl, Config.withDefaultMode]
  unfold Compiler.compile
  rw [hmode, hmode]
  refine Lockstep.rel_map (Lockstep.compileRule_rel Lockstep.keeps_modes
    Lockstep.supports_modes_builtins hs ⟨rfl, rfl, rfl, rfl⟩ .none) ?_
  intro r r' hr
  rcases r with e | ⟨root, ctx⟩ <;> rcases r' with e' | ⟨root', ctx'⟩
  · exact hr
  · exact hr.elim
  · exact hr.elim
  · -- one step, in each compilation's own mode, over tables of one size
    obtain ⟨⟨hsync, hasync, hstep⟩, hc⟩ := hr
    refine ⟨hc.2.2.2.symm, fun x => ⟨_, Validator.validate_own _ hsync x, ?_⟩⟩
    rw [Validator.validate_own _ hasync x]
    simp [Validator.run, hstep]

/-- A pipe of a shorthand number and a synchronous custom check compiles alike in both modes. -/
theorem compile_sync_async_agree_pipe :
    let S : Schema := .node "pipe" [("steps", .sequence [.shorthand "number",
      .node "custom" [("check", .check ⟨.sync, Rule.booleanStep true⟩)]])]
    S.syncChecks = true ∧ (∀ rule opts, S = .node rule opts → opts.lookup "$$async" = none) ∧
      Option.Rel ModesAgree
        (Compiler.compile ⟨Registry.builtins, ({} : Config).withDefaultMode .sync⟩ S)
        (Compiler.compile ⟨Registry.builtins, ({} : Config).withDefaultMode .async⟩ S) :=
  ⟨rfl, fun _ _ h => by cases h; rfl,
    compile_sync_async_agree {} _ rfl fun _ _ h => by cases h; rfl⟩

end Conform
