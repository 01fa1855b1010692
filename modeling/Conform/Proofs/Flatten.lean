import Conform.Proofs.Pipe
import Conform.Proofs.Lockstep.Rules
import Conform.Rule.Sample
/-! Nested pipes flatten. A pipe whose steps hold a pipe node with only a `steps` option
compiles like the pipe with that node's steps spliced in, as long as no rule compiler looks at
the fragment table. Proved: for a compiler whose registry has the built-in pipe and whose rule
compilers ignore the table, the nested and the flattened pipe either both fail to compile
with the same error or both compile, to validators that answer every call alike, the nested
one with exactly one more compiled body; a rule that reads the table size tells them apart. -/

namespace Conform

/-! ### Setting one option -/

namespace Options

variable {α : Type}

theorem lookup_insert_self (opts : List (String × α)) (k : String) (v : α) :
    (insert opts k v).lookup k = some v := by
  induction opts with
  | nil => simp [insert]
  | cons kv rest ih =>
    obtain ⟨k', v'⟩ := kv
    by_cases h : k = k'
    · simp [insert, h]
    · have hb : (k == k') = false := beq_eq_false_iff_ne.mpr h
      by_cases hl : k < k'
      · simp [insert, h, hl]
      · simp [insert, h, hl, List.lookup_cons, hb, ih]

theorem lookup_insert_ne (opts : List (String × α)) {k k' : String} (v : α) (hne : k' ≠ k) :
    (insert opts k v).lookup k' = opts.lookup k' := by
  have hb : (k' == k) = false := beq_eq_false_iff_ne.mpr hne
  induction opts with
  | nil => simp [insert, List.lookup_cons, hb]
  | cons kv rest ih =>
    obtain ⟨k'', v'⟩ := kv
    by_cases h : k = k''
    · subst h
      simp [insert, List.lookup_cons, hb]
    · by_cases hl : k < k''
      · simp [insert, h, hl, List.lookup_cons, hb]
      · simp [insert, h, hl, List.lookup_cons, ih]

end Options

/-! ### Contexts alike but for their tables -/

/-- Two compilations in the same mode and at the same label, whatever their fragment tables
hold, producing the same fragments. -/
def Lockstep.tableBlind : Lockstep :=
  ⟨fun c c' => c'.mode = c.mode ∧ c'.label = c.label, Eq, fun _ => True⟩

/-- Rule compilers that never look at the fragment table: not its size, not its entries, not
the indices registering returns. Each runs alike in any two contexts of one mode and label. -/
def Registry.IgnoresTable (reg : Registry) : Prop := Lockstep.tableBlind.Supports reg

/-- Two compilations in the same mode and at the same label, the first with `n` more fragments
in its table, producing the same fragments. -/
def Lockstep.ahead (n : Nat) : Lockstep :=
  ⟨fun c c' => c'.mode = c.mode ∧ c'.label = c.label ∧ c.table.size = c'.table.size + n, Eq,
    fun _ => True⟩

namespace Lockstep

@[simp] theorem ahead_frag (n : Nat) : (ahead n).frag = Eq := rfl

theorem Par.ahead {α β : Type} {R : α → β → Prop} {n : Nat} {p : Emit α} {q : Emit β}
    (h : tableBlind.Par R p q) : (ahead n).Par R p q := by
  induction h with
  | pure hab => exact .pure hab
  | fail e => exact .fail e
  | context _ ih => exact .context fun c c' hc => ih c c' ⟨hc.1, hc.2.1⟩
  | register hf _ ih => exact .register hf fun c c' hc => ih c c' ⟨hc.1, hc.2.1⟩
  | nested hs hnext _ ih => exact .nested hs hnext fun r r' hr => ih r r' hr

theorem Supports.ahead {reg : Registry} (hreg : reg.IgnoresTable) (n : Nat) :
    (ahead n).Supports reg :=
  fun s label d comp hs hr => (hreg s label d comp hs hr).ahead

theorem closeBody_ends_of_mode {L : Lockstep} {m : Mode} {d d' : Context} {p : Presence}
    {next : Option Fragment} {body : Fragment} (hd : L.ctx d d')
    (hpush : ∀ b, L.ctx { d with table := d.table.push b } { d' with table := d'.table.push b }) :
    L.Ends Eq (closeBody m p next body d) (closeBody m p next body d') := by
  unfold closeBody
  rcases body.lift m with e | b
  · exact ⟨rfl, hd⟩
  · exact ⟨Res.refl_eq, hpush b⟩

theorem keeps_ahead (n : Nat) : (ahead n).Keeps where
  label hc := hc.2.1.symm
  enter seg hc := by
    cases seg <;> exact ⟨hc.1, by simp [Context.enter, hc.2.1], hc.2.2⟩
  restore hc hd := ⟨hd.1, hc.2.1, hd.2.2⟩
  push hc hf := by
    subst hf
    exact ⟨hc.1, hc.2.1, by simp [hc.2.2]; omega⟩
  close p hc hbody hnext hd := by
    subst hbody
    rw [rel_eq hnext, hc.1]
    exact closeBody_ends_of_mode hd fun b => ⟨hd.1, hd.2.1, by simp [hd.2.2]; omega⟩

theorem tableBlind_leaf (step : Step) (c c' : Context) (hc : tableBlind.ctx c c') :
    tableBlind.frag ⟨c.mode, step⟩ ⟨c'.mode, step⟩ := by
  show Fragment.mk _ _ = Fragment.mk _ _
  rw [hc.1]

theorem tableBlind_stage (f f' : Fragment) (c c' : Context) (hc : tableBlind.ctx c c')
    (hf : tableBlind.frag f f') :
    (f.lift c.mode).map (·.step) = (f'.lift c'.mode).map (·.step) := by
  show _ = Except.map _ (Fragment.lift f' _)
  rw [← show f = f' from hf, hc.1]

end Lockstep

theorem Registry.get?_of_resolve {reg : Registry} {s : Schema} {label : String} {d : Descriptor}
    {comp : RuleCompiler} (h : reg.resolve s label = .ok (d, comp)) :
    reg.get? d.rule = some comp := by
  obtain ⟨d', -, h⟩ := except_bind_eq_ok.mp h
  split at h
  · next comp' hget => cases h; exact hget
  · cases h

theorem Registry.ignoresTable_any_pipe :
    (⟨[("any", Rule.any), ("pipe", Rule.pipe)]⟩ : Registry).IgnoresTable := by
  intro s label d comp _ hr
  have hget := Registry.get?_of_resolve hr
  simp only [Registry.get?, List.lookup_cons] at hget
  split at hget
  · cases hget
    exact Lockstep.Par.leaf Step.identity (Lockstep.tableBlind_leaf Step.identity)
  · split at hget
    · cases hget
      exact Lockstep.Par.pipe Lockstep.tableBlind_leaf Lockstep.tableBlind_stage d
        fun _ _ _ _ => trivial
    · cases hget

/-! ### Steps compiled side by side -/

section Steps

variable {reg : Registry}

theorem compileSteps_rel {L : Lockstep} (hk : L.Keeps) (hreg : L.Supports reg)
    {steps : List Schema} (hs : ∀ s ∈ steps, L.schema s) {c c' : Context} (hc : L.ctx c c') :
    Option.Rel (L.Out (List.Forall₂ L.frag)) (compileSteps reg steps c)
      (compileSteps reg steps c') := by
  induction steps generalizing c c' with
  | nil => exact .some (And.intro .nil hc)
  | cons s rest ih =>
    refine Lockstep.rel_thenOk
      (Lockstep.compileRule_rel hk hreg (hs s List.mem_cons_self) hc .none) ?_
    intro f f' c₁ c₁' hf hc₁
    refine Lockstep.rel_thenOk (ih (fun t ht => hs t (List.mem_cons_of_mem s ht)) hc₁) ?_
    intro fs fs' c₂ c₂' hfs hc₂
    exact .some (And.intro (.cons hf hfs) hc₂)

theorem compileSteps_append (xs ys : List Schema) (c : Context) :
    compileSteps reg (xs ++ ys) c = thenOk (compileSteps reg xs c) fun (fs, c₁) =>
      thenOk (compileSteps reg ys c₁) fun (gs, c₂) => some (.ok (fs ++ gs, c₂)) := by
  induction xs generalizing c with
  | nil => simp [compileSteps]
  | cons s rest ih => simp [compileSteps, ih, thenOk_assoc]

theorem Registry.resolve_node {rule : String} {opts : List (String × Opt)} {comp : RuleCompiler}
    (label : String) (h : reg.get? rule = some comp) :
    reg.resolve (.node rule opts) label = .ok (⟨{ rule, options := opts }, label⟩, comp) := by
  simp [Registry.resolve, Registry.normalize, Descriptor.rule, h, bind, Except.bind]

theorem compileRule_inner_pipe (hpipe : reg.get? "pipe" = some Rule.pipe) (ys : List Schema)
    (c : Context) :
    compileRule reg (Schema.pipe ys).toSchema none c = thenOk (compileSteps reg ys c)
      fun (gs, c₂) => some (.ok (⟨c.mode, foldStages (gs.map (·.step))⟩,
        { c₂ with table := c₂.table.push ⟨c.mode, foldStages (gs.map (·.step))⟩ })) := by
  have hr : reg.resolve (Schema.pipe ys).toSchema (renderPath c.label) =
      .ok (⟨Schema.pipe ys, renderPath c.label⟩, Rule.pipe) := Registry.resolve_node _ hpipe
  have hp : Presence.ofDescriptor ⟨Schema.pipe ys, renderPath c.label⟩ = .ok .delegated :=
    presence_of_pipe rfl rfl (.inl rfl) (.inl rfl)
  rw [compileRule_pipe_of_steps hr hp (by simp) (Descriptor.sequence_of_steps (.inl rfl))]
  simp [frameStep_delegated_none]

/-- Splicing a pipe node's steps in its place: both step lists compile alike, the spliced one
with one body fewer, and the folds of their steps agree. -/
theorem compileSteps_splice (hpipe : reg.get? "pipe" = some Rule.pipe) (hblind : reg.IgnoresTable)
    (xs ys zs : List Schema) (c : Context) :
    Option.Rel ((Lockstep.ahead 1).Out fun fs fs' =>
        foldStages (fs.map (·.step)) = foldStages (fs'.map (·.step)))
      (compileSteps reg (xs ++ (Schema.pipe ys).toSchema :: zs) c)
      (compileSteps reg (xs ++ ys ++ zs) c) := by
  rw [compileSteps_append, List.append_assoc, compileSteps_append]
  refine Lockstep.rel_thenOk_same ?_
  rintro ⟨fs, c₁⟩ -
  dsimp only
  rw [compileSteps, compileRule_inner_pipe hpipe, compileSteps_append]
  simp only [thenOk_assoc]
  refine Lockstep.rel_thenOk_same ?_
  rintro ⟨gs, c₂⟩ -
  simp only [thenOk_ok]
  -- the rest compiles in a table holding the inner pipe's body, and in one without it
  have hc : (Lockstep.ahead 1).ctx
      { c₂ with table := c₂.table.push ⟨c₁.mode, foldStages (gs.map (·.step))⟩ } c₂ :=
    ⟨rfl, rfl, by simp⟩
  refine Lockstep.rel_thenOk (compileSteps_rel (Lockstep.keeps_ahead 1)
    (Lockstep.Supports.ahead hblind 1) (fun _ _ => trivial) hc) ?_
  intro hs hs' c₃ c₃' hhs hc₃
  rw [Lockstep.ahead_frag, List.forall₂_eq_eq_eq] at hhs
  subst hhs
  refine .some (And.intro ?_ hc₃)
  simp only [List.map_append, List.map_cons]
  rw [foldStages_splice, List.append_assoc]

end Steps

/-! ### The outer pipe -/

theorem Compiler.declaredMode_set_steps (c : Compiler) (n : Node) (o : Opt) :
    c.declaredMode (n.set "steps" o).toSchema = c.declaredMode n.toSchema := by
  simp only [Node.toSchema, Node.set, Compiler.declaredMode,
    Options.lookup_insert_ne n.options o (show "$$async" ≠ "steps" by decide)]

theorem Presence.ofDescriptor_set_steps (n : Node) (o : Opt) (label : String) :
    Presence.ofDescriptor ⟨n.set "steps" o, label⟩ = Presence.ofDescriptor ⟨n, label⟩ := by
  have hd := Options.lookup_insert_ne n.options o (show "default" ≠ "steps" by decide)
  have ho := Options.lookup_insert_ne n.options o (show "optional" ≠ "steps" by decide)
  have hn := Options.lookup_insert_ne n.options o (show "nullable" ≠ "steps" by decide)
  simp only [Presence.ofDescriptor, Descriptor.value?, Descriptor.flag, Descriptor.optionalFlag,
    Descriptor.invalid, Descriptor.option?, Descriptor.rule, Node.get?, Node.set, hd, ho, hn]
  rfl

section Outer

variable {reg : Registry}

/-- A pipe node with a nested pipe among its steps, and with those steps spliced in, compile
alike from any context: the same error, or the same fragment with one more body registered. -/
theorem compileRule_flattens (hpipe : reg.get? "pipe" = some Rule.pipe) (hblind : reg.IgnoresTable)
    (n : Node) (hn : n.rule = "pipe") (xs ys zs : List Schema) (ctx : Context) :
    Option.Rel ((Lockstep.ahead 1).Out Eq)
      (compileRule reg (n.set "steps" (.sequence (xs ++ (Schema.pipe ys).toSchema :: zs))).toSchema
        none ctx)
      (compileRule reg (n.set "steps" (.sequence (xs ++ ys ++ zs))).toSchema none ctx) := by
  have hr : ∀ steps, reg.resolve (n.set "steps" (.sequence steps)).toSchema (renderPath ctx.label) =
      .ok (⟨n.set "steps" (.sequence steps), renderPath ctx.label⟩, Rule.pipe) := fun _ =>
    Registry.resolve_node _ (show reg.get? n.rule = some Rule.pipe by rw [hn]; exact hpipe)
  have hseq : ∀ steps, Descriptor.sequence ⟨n.set "steps" (.sequence steps), renderPath ctx.label⟩
      "steps" = .ok (some steps) := fun steps =>
    Descriptor.sequence_of_steps (.inl (Options.lookup_insert_self n.options "steps" _))
  rcases hp : Presence.ofDescriptor ⟨n, renderPath ctx.label⟩ with e | p
  · -- both refuse their presence options alike
    have hp' : ∀ steps, Presence.ofDescriptor
        ⟨n.set "steps" (.sequence steps), renderPath ctx.label⟩ = .error e := fun _ => by
      rw [Presence.ofDescriptor_set_steps, hp]
    rw [compileRule_of_presence_error (hr _) (hp' _), compileRule_of_presence_error (hr _) (hp' _)]
    exact .some rfl
  · have hp' : ∀ steps, Presence.ofDescriptor
        ⟨n.set "steps" (.sequence steps), renderPath ctx.label⟩ = .ok p := fun _ => by
      rw [Presence.ofDescriptor_set_steps, hp]
    rw [compileRule_pipe_of_steps (hr _) (hp' _) (by simp) (hseq _),
      compileRule_pipe_of_steps (hr _) (hp' _) (by simp) (hseq _)]
    refine Lockstep.rel_thenOk (compileSteps_splice hpipe hblind xs ys zs ctx) ?_
    intro fs fs' c c' hfold hc
    refine .some (And.intro ?_ ⟨hc.1, hc.2.1, by simp [hc.2.2]⟩)
    simp only [hfold]

end Outer

/-- Two compilation results alike but for one more compiled body in the first: the same error,
or validators that answer every call alike, the first with one more fragment. -/
def OneMoreBody : Except Error Validator → Except Error Validator → Prop
  | .error e, .error e' => e = e'
  | .ok v, .ok v' =>
    v.fragmentCount = v'.fragmentCount + 1 ∧ ∀ call x, v.validate call x = v'.validate call x
  | _, _ => False

/-- Nested pipes flatten: splicing a nested pipe's steps into its parent changes neither the error
nor any outcome, only the number of fragments. -/
theorem compile_flattens_nested_pipe (c : Compiler)
    (hpipe : c.registry.get? "pipe" = some Rule.pipe) (hblind : c.registry.IgnoresTable)
    (n : Node) (hn : n.rule = "pipe") (xs ys zs : List Schema) :
    Option.Rel OneMoreBody
      (c.compile (n.set "steps" (.sequence (xs ++ (Schema.pipe ys).toSchema :: zs))).toSchema)
      (c.compile (n.set "steps" (.sequence (xs ++ ys ++ zs))).toSchema) := by
  unfold Compiler.compile
  rw [Compiler.declaredMode_set_steps, Compiler.declaredMode_set_steps]
  rcases c.declaredMode n.toSchema with e | m
  · exact .some rfl
  · -- the two roots are equal; only the tables differ, by the inner pipe's body
    refine Lockstep.rel_map (compileRule_flattens hpipe hblind n hn xs ys zs { mode := m }) ?_
    intro r r' hr
    rcases r with e | ⟨root, ctx⟩ <;> rcases r' with e' | ⟨root', ctx'⟩
    · exact hr
    · exact hr.elim
    · exact hr.elim
    · obtain ⟨rfl, hc⟩ := hr
      exact ⟨hc.2.2, fun _ _ => rfl⟩

/-- Flattening `pipe [pipe [any], any]` into `pipe [any, any]` under the `any` and `pipe`
rules. -/
theorem compile_flattens_pipe_of_any :
    let c : Compiler := { registry := ⟨[("any", Rule.any), ("pipe", Rule.pipe)]⟩ }
    c.registry.get? "pipe" = some Rule.pipe ∧ c.registry.IgnoresTable ∧
      (Node.ofRule "pipe").rule = "pipe" ∧
      Option.Rel OneMoreBody
        (c.compile ((Node.ofRule "pipe").set "steps"
          (.sequence ([] ++ (Schema.pipe [.node "any" []]).toSchema :: [.node "any" []]))).toSchema)
        (c.compile ((Node.ofRule "pipe").set "steps"
          (.sequence ([] ++ [.node "any" []] ++ [.node "any" []]))).toSchema) :=
  ⟨rfl, Registry.ignoresTable_any_pipe, rfl,
    compile_flattens_nested_pipe _ rfl Registry.ignoresTable_any_pipe _ rfl [] [.node "any" []]
      [.node "any" []]⟩

/-- A rule that reads the table size tells a nested pipe from its flattening: on `0`,
`pipe [pipe [any], fragments]` gives 2 and `pipe [any, fragments]` gives 1. -/
theorem compile_fragments_sees_nesting :
    let reg : Registry :=
      ⟨[("any", Rule.any), ("fragments", Rule.fragments), ("pipe", Rule.pipe)]⟩
    (∃ v, Compiler.compile { registry := reg }
        (Schema.pipe [(Schema.pipe [.node "any" []]).toSchema, .node "fragments" []]).toSchema =
          some (.ok v) ∧ v.validate .sync (.ofNat 0) = .ok (.valid, .ofNat 2)) ∧
    (∃ v, Compiler.compile { registry := reg }
        (Schema.pipe [.node "any" [], .node "fragments" []]).toSchema =
          some (.ok v) ∧ v.validate .sync (.ofNat 0) = .ok (.valid, .ofNat 1)) := by
  intro reg
  -- each leaf compiles to its step behind a `required` frame, in any context
  have hany : ∀ c : Context, compileRule reg (.node "any" []) none c =
      some (.ok (⟨c.mode, frameStep .required Step.identity none⟩,
        { c with table := c.table.push ⟨c.mode, Step.identity⟩ })) := fun c => by
    rw [compileRule_of_resolve (Registry.resolve_node _ rfl) rfl]
    simp [Rule.any, Emit.identity, closeRule_of_step]
  -- the `fragments` step yields the table size met when it was compiled
  have hfragments : ∀ c : Context, compileRule reg (.node "fragments" []) none c =
      some (.ok (⟨c.mode, frameStep .required (fun _ _ => (.ofNat c.table.size, [])) none⟩,
        { c with table := c.table.push ⟨c.mode, fun _ _ => (.ofNat c.table.size, [])⟩ })) :=
    fun c => by
      rw [compileRule_of_resolve (Registry.resolve_node _ rfl) rfl]
      simp [Rule.fragments, Emit.count, closeRule_of_step]
  have hpipe : ∀ (steps : List Schema) (c : Context),
      compileRule reg (Schema.pipe steps).toSchema none c =
        thenOk (compileSteps reg steps c) fun (fs, c') =>
          some (.ok (⟨c.mode, foldStages (fs.map (·.step))⟩,
            { c' with table := c'.table.push ⟨c.mode, foldStages (fs.map (·.step))⟩ })) :=
    compileRule_inner_pipe rfl
  have hmode : ∀ steps, Compiler.declaredMode { registry := reg } (Schema.pipe steps).toSchema =
      .ok .sync := fun _ => rfl
  constructor
  · simp [Compiler.compile, hmode, hpipe, compileSteps, hany, hfragments]
    rfl
  · simp [Compiler.compile, hmode, hpipe, compileSteps, hany, hfragments]
    rfl

end Conform
