import Conform.Proofs.Flatten
/-! Shorthand is normalization. Resolving a shorthand text expands it to a node, and from then
on a rule compilation sees only that node: the text and the node compile to the same fragment
in every context. The compiler reads the mode of a compilation from the root before any rule
is resolved, and only from a root given as a node. Proved: a shorthand root compiles as the node
it expands to would in the configured default mode, so when that node declares no mode or
declares the default, the two compile to the same result; a shorthand such as `any|$$async`
still compiles in the default mode. -/

namespace Conform

variable {t : String} {n : Node}

/-! ### Resolving a shorthand -/

theorem Registry.normalize_shorthand (h : Shorthand.expand t = .ok n) (label : String) :
    Registry.normalize (.shorthand t) label = Registry.normalize n.toSchema label := by
  simp [Registry.normalize, h, Node.toSchema, bind, Except.bind, pure, Except.pure]

theorem Registry.resolve_shorthand (reg : Registry) (h : Shorthand.expand t = .ok n)
    (label : String) : reg.resolve (.shorthand t) label = reg.resolve n.toSchema label := by
  simp only [Registry.resolve, Registry.normalize_shorthand h]

/-- A shorthand compiles as the node it expands to, with any continuation and in any context. -/
theorem compileRule_shorthand (reg : Registry) (h : Shorthand.expand t = .ok n)
    (next : Option Fragment) (ctx : Context) :
    compileRule reg (.shorthand t) next ctx = compileRule reg n.toSchema next ctx := by
  unfold compileRule compileRuleIn
  rw [compileRule._fix.eq_1, compileRule._fix.eq_1, Registry.resolve_shorthand reg h]

/-! ### The mode of a compilation -/

namespace Compiler

variable (c : Compiler)

@[simp] theorem declaredMode_shorthand : c.declaredMode (.shorthand t) = .ok c.config.defaultMode :=
  rfl

theorem declaredMode_of_compile {S : Schema} {v : Validator} (h : c.compile S = some (.ok v)) :
    c.declaredMode S = .ok v.mode := by
  unfold compile at h
  rcases hm : c.declaredMode S with e | m
  · rw [hm] at h
    cases h
  · rw [hm] at h
    obtain ⟨r, -, hr⟩ := Option.map_eq_some_iff.mp h
    obtain ⟨⟨root, ctx⟩, -, hv⟩ := except_bind_eq_ok.mp hr
    cases hv
    rfl

theorem compile_congr {S S' : Schema} (hm : c.declaredMode S = c.declaredMode S')
    (hr : ∀ ctx, compileRule c.registry S none ctx = compileRule c.registry S' none ctx) :
    c.compile S = c.compile S' := by
  unfold compile
  rw [hm]
  rcases c.declaredMode S' with e | m
  · rfl
  · simp only [hr]

end Compiler

/-! ### A shorthand root -/

/-- Shorthand is normalization at the root as far as the mode allows: it compiles as its node when
that node declares no other mode, and always in the configured default mode. -/
theorem compile_shorthand_normalizes (c : Compiler) (h : Shorthand.expand t = .ok n) :
    (c.declaredMode n.toSchema = .ok c.config.defaultMode →
      c.compile (.shorthand t) = c.compile n.toSchema) ∧
    ∀ v, c.compile (.shorthand t) = some (.ok v) → v.mode = c.config.defaultMode := by
  refine ⟨fun hm => ?_, fun v hv => ?_⟩
  · exact c.compile_congr (by rw [hm]; rfl) (compileRule_shorthand c.registry h none)
  · have hd := c.declaredMode_of_compile hv
    rw [Compiler.declaredMode_shorthand] at hd
    exact (Except.ok.inj hd).symm

/-- `number|optional` compiles as its node under the built-in rules. -/
theorem compile_shorthand_number_optional :
    let c : Compiler := { registry := Registry.builtins }
    Shorthand.expand "number|optional" = .ok ((Node.ofRule "number").optional) ∧
      (c.declaredMode ((Node.ofRule "number").optional).toSchema = .ok c.config.defaultMode →
        c.compile (.shorthand "number|optional") = c.compile ((Node.ofRule "number").optional).toSchema) ∧
      ∀ v, c.compile (.shorthand "number|optional") = some (.ok v) → v.mode = c.config.defaultMode :=
  ⟨rfl, compile_shorthand_normalizes _ rfl⟩

/-- `any|$$async` expands to a node that declares asynchronous execution, yet the shorthand
compiles synchronously under the default configuration while the node compiles
asynchronously. -/
theorem compile_shorthand_ignores_async :
    let c : Compiler := { registry := Registry.builtins }
    Shorthand.expand "any|$$async" = .ok ((Node.ofRule "any").asynchronous) ∧
      (c.compile (.shorthand "any|$$async")).map (·.map Validator.mode) = some (.ok .sync) ∧
      (c.compile ((Node.ofRule "any").asynchronous).toSchema).map (·.map Validator.mode) =
        some (.ok .async) := by
  intro c
  have hexp : Shorthand.expand "any|$$async" = .ok ((Node.ofRule "any").asynchronous) := rfl
  -- the node is a required `any`, compiled to the identity behind its frame in either mode
  have hnode : ((Node.ofRule "any").asynchronous).toSchema =
      .node "any" [("$$async", .value (.bool true))] := rfl
  have hany : ∀ m : Mode, compileRule Registry.builtins ((Node.ofRule "any").asynchronous).toSchema
      none { mode := m } = some (.ok (⟨m, frameStep .required Step.identity none⟩,
        { mode := m, table := #[⟨m, Step.identity⟩] })) := fun m => by
    rw [hnode, compileRule_of_resolve (Registry.resolve_node _ rfl) rfl]
    simp only [Rule.any, Emit.identity, runRequests_leaf, thenOk_ok]
    exact congrArg some (@closeRule_of_step { mode := m } _ _ _ _ (by simp))
  refine ⟨hexp, ?_, ?_⟩
  · simp [c, Compiler.compile, compileRule_shorthand _ hexp, hany, Except.map]
  · have hm : c.declaredMode ((Node.ofRule "any").asynchronous).toSchema = .ok .async := rfl
    simp [c, Compiler.compile, hm, hany, Except.map]

end Conform
