import Conform.Proofs.ShorthandGrammar
import Conform.Proofs.Reach
/-! Compilation ends. A rule compiler asks for nested schemas it reads out of its node, and the
compiler answers each request by compiling again, so compiling is not recursion on the schema
type. It ends because every schema a rule asks for is lighter than the node asking, by the
weight that counts shorthand text and raw option values as well as typed schemas. Proved: a
registry whose rule compilers ask only for lighter schemas compiles every schema to an end
(`compileRule_ends`); the built-in rules are such, because a schema read from JSON is no heavier
than the JSON and a text a shorthand sets an option to is a strict substring of the shorthand;
so compiling any schema with the built-in rules ends (`compile_terminates`). Reading a schema
from JSON, `Schema.ofJson`, is structural recursion on the JSON and ends by its definition. -/

namespace Conform

variable {α : Type}

/-- A program of requests asks only for schemas lighter than `w`: each nested compilation it
requests, whatever the earlier ones answered, is of a schema of weight below `w`. -/
def Emit.AsksBelow (w : Nat) (prog : Emit α) : Prop :=
  Emit.Yields (fun s _ => s.weight < w) (fun _ _ => True) (fun _ => True) prog

/-- A registry whose rule compilers, on the node of any schema they resolve, ask only for
schemas lighter than that schema. -/
def Registry.Shrinks (reg : Registry) : Prop :=
  ∀ s label d comp, reg.resolve s label = .ok (d, comp) → Emit.AsksBelow s.weight (comp d)

/-! ### Compilations of lighter and lighter schemas end -/

section Ends

variable {reg : Registry}

/-- Answering a program's requests ends when the nested compilations it asks for end. -/
theorem runRequests_ends {w : Nat} {prog : Emit α} (hp : prog.AsksBelow w)
    (hnested : ∀ t : Schema, t.weight < w → ∀ next ctx, compileRule reg t next ctx ≠ none)
    (c : Context) : runRequests reg prog c ≠ none := by
  induction hp generalizing c with
  | pure => simp
  | fail e => simp
  | context _ ih => simpa using ih c c
  | register _ ih => simpa using ih _ _
  | @nested seg s next k hpre _ _ ihOk ihErr =>
    rw [runRequests_nested]
    -- the nested compilation ends, and the program goes on from what it gave
    rcases hc : compileRuleIn reg s next (c.enter seg) with _ | ⟨_ | f, c'⟩
    · exact absurd (by simp [compileRule, hc]) (hnested s hpre next (c.enter seg))
    · simpa using ihErr _ _
    · simpa using ihOk f trivial _

/-- A registry whose rule compilers ask only for lighter schemas compiles every schema to an end. -/
theorem compileRule_ends (hreg : reg.Shrinks) (s : Schema) (next : Option Fragment)
    (ctx : Context) : compileRule reg s next ctx ≠ none := by
  induction hw : s.weight using Nat.strong_induction_on generalizing s next ctx with
  | _ w ih =>
  rcases hres : reg.resolve s (renderPath ctx.label) with e | ⟨d, comp⟩
  · simp [compileRule_of_unresolved hres]
  rcases hp : Presence.ofDescriptor d with e | p
  · simp [compileRule_of_presence_error hres hp]
  rw [compileRule_of_resolve hres hp]
  -- the rule's requests end, since each nested schema is lighter than `s`
  have hrun := runRequests_ends (hreg s _ d comp hres)
    (fun t ht next' ctx' => ih t.weight (hw ▸ ht) t next' ctx' rfl) ctx
  rcases hr : runRequests reg (comp d) ctx with _ | e | ⟨body, ctx'⟩
  · exact absurd hr hrun
  · simp
  · simp

end Ends

/-! ### The built-in rules ask for lighter schemas -/

namespace Emit

variable {w : Nat}

theorem AsksBelow.leaf (step : Step) : (Emit.leaf step).AsksBelow w :=
  (Yields.leaf step).mono fun _ _ => trivial

theorem AsksBelow.bind {β : Type} {x : Emit α} {f : α → Emit β} (hx : x.AsksBelow w)
    (hf : ∀ a, (f a).AsksBelow w) : (x >>= f).AsksBelow w :=
  Yields.bind hx fun a _ => hf a

theorem AsksBelow.ofExcept (x : Except Error α) : (Emit.ofExcept x).AsksBelow w :=
  (Yields.ofExcept x).mono fun _ _ => trivial

theorem AsksBelow.ofExcept_leaf (x : Except Error α) (step : α → Step) :
    (Emit.ofExcept x >>= fun a => Emit.leaf (step a)).AsksBelow w :=
  (AsksBelow.ofExcept x).bind fun a => AsksBelow.leaf (step a)

theorem AsksBelow.stages {γ δ : Type} (xs : List γ) (f : γ → Fragment) (g : γ → Step → δ)
    (acc : List δ) :
    (forIn xs acc fun x acc => do
      let s ← Emit.stage (f x)
      return ForInStep.yield (acc ++ [g x s])).AsksBelow w := by
  refine Yields.forIn (fun _ => True) trivial fun x _ a _ => ?_
  exact Yields.bind (Yields.stage (f x)) fun s _ => .pure ⟨_, rfl, trivial⟩

end Emit

section Builtin

open Emit

variable {s : Schema} {d : Descriptor} (hd : d.node.toSchema.weight ≤ s.weight)

include hd in
theorem asksBelow_pipe : (Rule.pipe d).AsksBelow s.weight := by
  unfold Rule.pipe
  refine Yields.bind (Yields.ofExcept _) fun seq hseq => ?_
  cases seq with
  | none => exact AsksBelow.leaf _
  | some steps =>
    refine Yields.bind (Yields.forIn (fun _ => True) trivial fun t ht acc _ => ?_) fun _ _ => ?_
    · -- each step is read out of the pipe's node, so it is lighter
      have hlt := Descriptor.sequence_weight hseq t ht
      exact Yields.bind (Yields.compileNested (by omega)) fun f _ => .pure ⟨_, rfl, trivial⟩
    · exact AsksBelow.bind (AsksBelow.stages _ id (fun _ g => g) _) fun _ => AsksBelow.leaf _

include hd in
theorem asksBelow_object : (Rule.object d).AsksBelow s.weight := by
  unfold Rule.object
  extract_lets +lift compiled₀ steps₀ rest
  -- whichever option gives the fields, each field is lighter than the object
  have hrest : ∀ fs, d.objectProps = .ok fs → (rest fs).AsksBelow s.weight := by
    intro fs hfs
    refine AsksBelow.bind (AsksBelow.ofExcept _) fun _ => ?_
    refine Yields.bind (Yields.forIn (fun _ => True) trivial fun kt hkt acc _ => ?_) fun _ _ => ?_
    · have hlt := Descriptor.objectProps_weight hfs kt hkt
      exact Yields.bind (Yields.compileNested (by omega)) fun f _ => .pure ⟨_, rfl, trivial⟩
    · exact AsksBelow.bind (AsksBelow.stages _ Prod.snd (fun kf g => (kf.1, g)) _) fun _ =>
        AsksBelow.leaf _
  refine Yields.bind (Yields.ofExcept _) fun props hprops => ?_
  cases props with
  | some fs =>
    exact hrest fs
      (by simp [Descriptor.objectProps, hprops, Bind.bind, Except.bind, Pure.pure, Except.pure])
  | none =>
    refine Yields.bind (Yields.ofExcept _) fun props hprops' => hrest _ ?_
    simp [Descriptor.objectProps, hprops, hprops', Bind.bind, Except.bind, Pure.pure, Except.pure]

include hd in
theorem asksBelow_array : (Rule.array d).AsksBelow s.weight := by
  unfold Rule.array
  refine AsksBelow.bind (AsksBelow.ofExcept _) fun bounds => ?_
  refine Yields.bind (Yields.ofExcept _) fun items hitems => ?_
  extract_lets +lift leafOf staged
  have hstaged : ∀ fo : Option Fragment, (staged fo).AsksBelow s.weight := by
    intro fo
    cases fo with
    | none => exact AsksBelow.leaf _
    | some f =>
      exact Yields.bind (Yields.map some (Yields.stage f)) fun _ _ => AsksBelow.leaf _
  cases items with
  | none => exact hstaged none
  | some t =>
    -- the items schema is read out of the array's node, so it is lighter
    have hlt := Descriptor.schema_weight hitems
    exact Yields.bind (Yields.map some (Yields.compileNested (by omega))) fun fo _ => hstaged fo

theorem asksBelow_custom : (Rule.custom d).AsksBelow s.weight := by
  unfold Rule.custom
  refine AsksBelow.bind (AsksBelow.ofExcept _) fun check => ?_
  cases check with
  | none => exact AsksBelow.ofExcept _
  | some c =>
    refine Yields.bind Yields.mode fun m _ => ?_
    rcases c with ⟨_ | _, step⟩ <;> cases m
    · exact AsksBelow.leaf _
    · exact AsksBelow.leaf _
    · exact AsksBelow.ofExcept _
    · exact .pure trivial

/-- Each built-in rule asks only for schemas lighter than the schema it compiles. -/
theorem Registry.builtins_shrinks : Registry.builtins.Shrinks := by
  intro s label d comp hr
  have hd : d.node.toSchema.weight ≤ s.weight :=
    Registry.normalize_weight (Registry.normalize_of_resolve hr)
  rcases Registry.get?_builtins_cases (Registry.get?_of_resolve hr) with
    ⟨-, rfl⟩ | ⟨-, rfl⟩ | ⟨-, rfl⟩ | ⟨-, rfl⟩ | ⟨-, rfl⟩ | ⟨-, rfl⟩ | ⟨-, rfl⟩ | ⟨-, rfl⟩
  · exact AsksBelow.leaf _
  · exact asksBelow_array hd
  · exact AsksBelow.ofExcept_leaf _ _
  · exact asksBelow_custom
  · exact AsksBelow.ofExcept_leaf _ _
  · exact asksBelow_object hd
  · exact asksBelow_pipe hd
  · exact AsksBelow.ofExcept_leaf _ _

end Builtin

/-! ### Compiling ends -/

/-- Compilation terminates: every nested schema a built-in rule asks for is lighter than the schema
asking, so every schema compiles to a validator or an error. -/
theorem compile_terminates :
    Registry.builtins.Shrinks ∧
    (∀ (j : Json) (s : Schema), Schema.ofJson j = .ok s → s.weight ≤ j.weight) ∧
    (∀ (t : String) (n : Node), Shorthand.expand t = .ok n → ∀ k v,
      n.get? k = some (.value (.str v)) →
        v.toList <:+: t.toList ∧ v.length < t.length ∧ '|' ∉ v.toList) ∧
    ∀ (config : Config) (S : Schema),
      ∃ r, ({ registry := Registry.builtins, config } : Compiler).compile S = some r := by
  refine ⟨Registry.builtins_shrinks, fun j s h => Schema.ofJson_weight h,
    fun t n h k v hk => Shorthand.expand_text_option h hk, fun config S => ?_⟩
  unfold Compiler.compile
  rcases Compiler.declaredMode { registry := Registry.builtins, config } S with e | m
  · exact ⟨_, rfl⟩
  · -- the root's rule compiles to an end in the declared mode
    obtain ⟨r, hr⟩ := Option.ne_none_iff_exists'.mp
      (compileRule_ends Registry.builtins_shrinks S none { mode := m })
    dsimp only
    rw [hr]
    exact ⟨_, rfl⟩

end Conform
