import Conform.Proofs.Shorthand
import Conform.Proofs.Modes
/-! One execution mode per validator. A compilation reads its mode once, from the root, and
every context it passes to a rule compiler has that mode. Each rule body is brought to the mode
before it is registered and framed: a synchronous body lifts into an asynchronous compilation,
an asynchronous one cannot run in a synchronous compilation, and neither can an asynchronous
continuation. A rule compiler receives the error of a nested compilation that fails and may go
on from it; when every rule compiler passes such an error on, as the built-in ones do, a
mismatch anywhere fails the whole compilation.

Proved: a validator runs in the mode its root declares, its root fragment in that mode, and so
does every fragment of its table when the registry's rule compilers register only fragments of
the compilation's mode (what they register themselves is kept as given); with rule compilers
that pass nested errors on, a synchronous compilation that reaches an asynchronous rule body or
continuation fails with the mode mismatch, and one that reaches a custom rule with an
asynchronous check fails on its `check` option; a validator called in the other mode refuses
with the mode mismatch. A shorthand root takes the configured mode whatever its expansion
declares, and a rule compiler that recovers from a nested error can hide a mismatch. -/

namespace Conform

/-! ### Programs that register fragments of one mode -/

/-- The fragments a request program registers run in mode `m`, in a compilation of mode `m`:
every context it reads and every fragment it gets back then have that mode. -/
inductive Emit.RegistersIn (m : Mode) : {α : Type} → Emit α → Prop
  | pure {α : Type} (a : α) : Emit.RegistersIn m (.pure a)
  | fail {α : Type} (e : Error) : Emit.RegistersIn m (.fail e : Emit α)
  | context {α : Type} {k : Context → Emit α} :
      (∀ c : Context, c.mode = m → Emit.RegistersIn m (k c)) → Emit.RegistersIn m (.context k)
  | register {α : Type} {f : Fragment} {k : Nat → Emit α} :
      f.mode = m → (∀ i, Emit.RegistersIn m (k i)) → Emit.RegistersIn m (.register f k)
  | nested {α : Type} {seg : Option Segment} {s : Schema} {next : Option Fragment}
      {k : Except Error Fragment → Emit α} :
      (∀ f : Fragment, f.mode = m → Emit.RegistersIn m (k (.ok f))) →
      (∀ e, Emit.RegistersIn m (k (.error e))) → Emit.RegistersIn m (.nested seg s next k)

/-- A registry whose rule compilers, in a compilation of either mode, register only fragments
of that mode. -/
def Registry.RegistersInMode (reg : Registry) : Prop :=
  ∀ tag comp, reg.get? tag = some comp → ∀ d m, (comp d).RegistersIn m

/-- Every fragment of a context's table runs in the context's mode. -/
def Context.Uniform (c : Context) : Prop := ∀ f ∈ c.table, f.mode = c.mode

theorem Context.uniform_push {c : Context} {f : Fragment} (hc : c.Uniform) (hf : f.mode = c.mode) :
    Context.Uniform { c with table := c.table.push f } := by
  intro g hg
  rcases Array.mem_push.mp hg with hg | rfl
  · exact hc g hg
  · exact hf

/-! ### The built-in rule compilers register nothing of their own

A request program that runs in lockstep with itself, in contexts of mode `m` and with
fragments of mode `m`, registers fragments of mode `m` only; the built-in rule compilers run in
such a lockstep. -/

def Lockstep.inMode (m : Mode) : Lockstep :=
  ⟨fun c c' => c = c' ∧ c.mode = m, fun f f' => f = f' ∧ f.mode = m, fun _ => True⟩

namespace Lockstep

variable {m : Mode}

theorem Par.registersIn {α β : Type} {R : α → β → Prop} {p : Emit α} {q : Emit β}
    (h : (inMode m).Par R p q) : p.RegistersIn m := by
  induction h with
  | pure _ => exact .pure _
  | fail e => exact .fail e
  | context _ ih => exact .context fun c hc => ih c c ⟨rfl, hc⟩
  | register hf _ ih =>
    -- the index handed back is the size of some table of a context of mode `m`
    refine .register hf.2 fun i => ?_
    have hi := ih { mode := m, table := Array.replicate i (Fragment.identity m) } _ ⟨rfl, rfl⟩
    simpa using hi
  | nested _ _ _ ih =>
    exact .nested (fun f hf => ih (.ok f) (.ok f) ⟨rfl, hf⟩) fun e => ih (.error e) (.error e) rfl

theorem inMode_leaf (step : Step) (c c' : Context) (hc : (inMode m).ctx c c') :
    (inMode m).frag ⟨c.mode, step⟩ ⟨c'.mode, step⟩ := by
  obtain ⟨rfl, hm⟩ := hc
  exact ⟨rfl, hm⟩

theorem inMode_stage (f f' : Fragment) (c c' : Context) (hc : (inMode m).ctx c c')
    (hf : (inMode m).frag f f') : (f.lift c.mode).map (·.step) = (f'.lift c'.mode).map (·.step) := by
  obtain ⟨rfl, -⟩ := hc
  obtain ⟨rfl, -⟩ := hf
  rfl

theorem Par.custom_inMode (d : Descriptor) :
    (inMode m).Par (inMode m).frag (Rule.custom d) (Rule.custom d) := by
  unfold Rule.custom
  refine Par.bind (Par.ofExcept _) ?_
  rintro check _ ⟨rfl, -⟩
  cases check with
  | none => exact .fail _
  | some ck =>
    refine Par.bind (Par.mode (R := fun a b => a = b ∧ a = m) fun c c' hc => ⟨by rw [hc.1], hc.2⟩) ?_
    rintro mc _ ⟨rfl, rfl⟩
    rcases ck with ⟨_ | _, step⟩ <;> cases mc
    · exact Par.leaf _ (inMode_leaf _)
    · exact Par.leaf _ (inMode_leaf _)
    · exact .fail _
    · exact .pure ⟨rfl, rfl⟩

end Lockstep

theorem Registry.registersInMode_builtins : Registry.builtins.RegistersInMode := by
  intro tag comp hget d m
  have hmem := Registry.get?_builtins hget
  simp only [Registry.builtinRules, List.map_cons, List.map_nil, List.mem_cons,
    List.not_mem_nil, or_false] at hmem
  refine Lockstep.Par.registersIn (R := (Lockstep.inMode m).frag) (q := comp d) ?_
  rcases hmem with rfl | rfl | rfl | rfl | rfl | rfl | rfl | rfl
  · exact Lockstep.Par.leaf _ (Lockstep.inMode_leaf _)
  · exact Lockstep.Par.ofExcept_leaf Lockstep.inMode_leaf _ _
  · exact Lockstep.Par.ofExcept_leaf Lockstep.inMode_leaf _ _
  · exact Lockstep.Par.ofExcept_leaf Lockstep.inMode_leaf _ _
  · exact Lockstep.Par.object Lockstep.inMode_leaf Lockstep.inMode_stage d fun _ _ _ _ _ => trivial
  · exact Lockstep.Par.array Lockstep.inMode_leaf Lockstep.inMode_stage d fun _ _ => trivial
  · exact Lockstep.Par.custom_inMode d
  · exact Lockstep.Par.pipe Lockstep.inMode_leaf Lockstep.inMode_stage d fun _ _ _ _ => trivial

/-! ### What a compilation keeps -/

section Keeps

variable {reg : Registry}

theorem closeBody_uniform {m : Mode} {c : Context} (p : Presence) (next : Option Fragment)
    (body : Fragment) (hmode : c.mode = m) :
    (closeBody m p next body c).2.mode = m ∧
      (c.Uniform → (closeBody m p next body c).2.Uniform) := by
  unfold closeBody
  rcases hb : body.lift m with e | b
  · exact ⟨hmode, id⟩
  · have hbm : b.mode = c.mode := by rw [Fragment.lift_eq_ok hb, hmode]
    exact ⟨hmode, fun hc => Context.uniform_push hc hbm⟩

/-- A compilation, failed or not, keeps the mode of its context, and with rule compilers that
register only fragments of that mode it keeps every fragment of the table in that mode. -/
theorem compile_uniform (hreg : reg.RegistersInMode) :
    (∀ s next ctx o, compileRuleIn reg s next ctx = some o →
      o.2.mode = ctx.mode ∧ (∀ f, o.1 = .ok f → f.mode = ctx.mode) ∧
        (ctx.Uniform → o.2.Uniform)) ∧
    (∀ {α} (prog : Emit α) c o, runRequestsIn reg prog c = some o →
      prog.RegistersIn c.mode → o.2.mode = c.mode ∧ (c.Uniform → o.2.Uniform)) := by
  refine compileRule_induction reg _ _ ?pure ?fail ?context ?register ?nested
    ?unresolved ?badPresence ?bodyError ?bodyOk
  case pure => intro _ _ _ _; exact ⟨rfl, id⟩
  case fail => intro _ _ _ _; exact ⟨rfl, id⟩
  case context =>
    intro _ k c _ ih hprog
    cases hprog with
    | context hk => exact ih (hk c rfl)
  case register =>
    intro _ f k c _ ih hprog
    cases hprog with
    | register hf hk =>
      obtain ⟨hm, hu⟩ := ih (hk _)
      exact ⟨hm, fun hc => hu (Context.uniform_push hc hf)⟩
  case nested =>
    intro _ seg s next k c r c₁ _ hnest ih hprog
    cases hprog with
    | nested hok herr =>
      -- the nested rule runs in the caller's mode and gives back a fragment of it, or an error
      obtain ⟨hm₁, hf, hu₁⟩ := hnest
      have hmode : (c.enter seg).mode = c.mode := by cases seg <;> rfl
      have hc₁ : c₁.mode = c.mode := hm₁.trans hmode
      have hk : (k r).RegistersIn c₁.mode := by
        rw [hc₁]
        rcases r with e | f
        · exact herr e
        · exact hok f ((hf f rfl).trans hmode)
      obtain ⟨hm, hu⟩ := ih hk
      refine ⟨hm.trans hc₁, fun hc => hu ?_⟩
      intro g hg
      exact hu₁ (by cases seg <;> exact hc) g hg
  case unresolved => intro _ _ _ _ _; exact ⟨rfl, (fun _ h => by cases h), id⟩
  case badPresence => intro _ _ _ _ _ _ _ _; exact ⟨rfl, (fun _ h => by cases h), id⟩
  case bodyError =>
    intro _ _ ctx d comp _ _ _ hr _ ih
    obtain ⟨hm, hu⟩ := ih (hreg _ comp (Registry.get?_of_resolve hr) d ctx.mode)
    exact ⟨hm, (fun _ h => by cases h), hu⟩
  case bodyOk =>
    intro _ next ctx d comp p body c₁ hr _ ih
    obtain ⟨hm, hu⟩ := ih (hreg _ comp (Registry.get?_of_resolve hr) d ctx.mode)
    obtain ⟨hm', hu'⟩ := closeBody_uniform p next body hm
    exact ⟨hm', (closeBody_extends ctx.mode p next body c₁).2, fun hc => hu' (hu hc)⟩

end Keeps

/-! ### Rule compilers that pass nested errors on

A rule compiler receives the error of a nested compilation that fails. The built-in ones pass it
on at once, as `compileNested` does; a rule compiler of a registry may instead go on, and so hide
a failure below it. -/

namespace Emit

/-- A program that fails with the error of every nested compilation it asks for that fails, at
once. -/
inductive Propagates : {α : Type} → Emit α → Prop
  | pure {α : Type} (a : α) : Propagates (.pure a)
  | fail {α : Type} (e : Error) : Propagates (.fail e : Emit α)
  | context {α : Type} {k : Context → Emit α} : (∀ c, Propagates (k c)) → Propagates (.context k)
  | register {α : Type} {f : Fragment} {k : Nat → Emit α} :
      (∀ i, Propagates (k i)) → Propagates (.register f k)
  | nested {α : Type} {seg : Option Segment} {s : Schema} {next : Option Fragment}
      {k : Except Error Fragment → Emit α} :
      (∀ e, k (.error e) = .fail e) → (∀ f, Propagates (k (.ok f))) →
        Propagates (.nested seg s next k)

namespace Propagates

variable {α β : Type}

theorem bind {x : Emit α} {f : α → Emit β} (hx : x.Propagates) (hf : ∀ a, (f a).Propagates) :
    (x >>= f).Propagates := by
  induction hx with
  | pure a => exact hf a
  | fail e => exact .fail e
  | context _ ih => exact .context ih
  | register _ ih => exact .register ih
  | nested herr _ ih =>
    refine .nested (fun e => ?_) ih
    show _ >>= f = _
    rw [herr e]
    rfl

theorem ofExcept (x : Except Error α) : (Emit.ofExcept x).Propagates := by
  cases x with
  | error e => exact .fail e
  | ok a => exact .pure a

theorem mode : Emit.mode.Propagates := .context fun _ => .pure _

theorem leaf (step : Step) : (Emit.leaf step).Propagates := .context fun _ => .pure _

theorem ofExcept_leaf (x : Except Error α) (step : α → Step) :
    (Emit.ofExcept x >>= fun a => Emit.leaf (step a)).Propagates :=
  (ofExcept x).bind fun a => leaf (step a)

theorem stage (f : Fragment) : (Emit.stage f).Propagates :=
  mode.bind fun _ => (ofExcept _).bind fun _ => .pure _

theorem compileNested (seg : Option Segment) (s : Schema) (next : Option Fragment) :
    (Emit.compileNested seg s next).Propagates :=
  .nested (fun _ => rfl) fun f => .pure f

theorem forIn {σ : Type} {xs : List β} {acc : σ} {body : β → σ → Emit (ForInStep σ)}
    (hbody : ∀ x a, (body x a).Propagates) : (ForIn.forIn xs acc body).Propagates := by
  induction xs generalizing acc with
  | nil => exact .pure acc
  | cons x xs ih =>
    rw [List.forIn_cons]
    refine (hbody x acc).bind fun r => ?_
    cases r with
    | done b => exact .pure b
    | yield b => exact ih

end Propagates

end Emit

/-- A registry whose rule compilers all pass nested errors on. -/
def Registry.Propagates (reg : Registry) : Prop :=
  ∀ tag comp, reg.get? tag = some comp → ∀ d, (comp d).Propagates

namespace Rule

open Emit.Propagates

theorem propagates_pipe (d : Descriptor) : (Rule.pipe d).Propagates := by
  refine (ofExcept _).bind fun steps => ?_
  cases steps with
  | none => exact leaf _
  | some steps =>
    -- the steps are compiled, then staged, in two loops
    refine (forIn fun s acc => (compileNested none s none).bind fun _ => .pure _).bind fun fs => ?_
    exact (forIn fun f acc => (stage f).bind fun _ => .pure _).bind fun _ => leaf _

theorem propagates_object (d : Descriptor) : (Rule.object d).Propagates := by
  unfold Rule.object
  refine (ofExcept _).bind fun props => ?_
  extract_lets +lift compiled₀ steps₀ rest
  have hrest : ∀ ps, (rest ps).Propagates := fun ps =>
    (ofExcept _).bind fun _ =>
      (forIn fun (p : String × Schema) _ => (compileNested _ p.2 none).bind fun _ => .pure _).bind
        fun _ => (forIn fun (p : String × Fragment) _ => (stage p.2).bind fun _ => .pure _).bind
          fun _ => leaf _
  cases props with
  | some ps => exact hrest ps
  | none => exact (ofExcept _).bind fun _ => hrest _

theorem propagates_array (d : Descriptor) : (Rule.array d).Propagates := by
  unfold Rule.array
  refine (ofExcept _).bind fun _ => (ofExcept _).bind fun items => ?_
  extract_lets +lift leafOf staged
  have hstaged : ∀ f, (staged f).Propagates := by
    intro f
    cases f with
    | none => exact leaf _
    | some f => exact ((stage f).bind fun _ => .pure _).bind fun _ => leaf _
  cases items with
  | some s => exact ((compileNested _ s none).bind fun _ => .pure _).bind hstaged
  | none => exact hstaged none

theorem propagates_custom (d : Descriptor) : (Rule.custom d).Propagates := by
  unfold Rule.custom
  refine (ofExcept _).bind fun check => ?_
  cases check with
  | none => exact ofExcept _
  | some c =>
    refine Emit.Propagates.mode.bind fun m => ?_
    rcases c with ⟨_ | _, step⟩ <;> cases m
    · exact leaf _
    · exact leaf _
    · exact ofExcept _
    · exact .pure _

end Rule

theorem Registry.propagates_builtins : Registry.builtins.Propagates := by
  intro tag comp hget d
  have hmem := Registry.get?_builtins hget
  simp only [Registry.builtinRules, List.map_cons, List.map_nil, List.mem_cons,
    List.not_mem_nil, or_false] at hmem
  rcases hmem with rfl | rfl | rfl | rfl | rfl | rfl | rfl | rfl
  · exact Emit.Propagates.leaf _
  · exact Emit.Propagates.ofExcept_leaf _ _
  · exact Emit.Propagates.ofExcept_leaf _ _
  · exact Emit.Propagates.ofExcept_leaf _ _
  · exact Rule.propagates_object d
  · exact Rule.propagates_array d
  · exact Rule.propagates_custom d
  · exact Rule.propagates_pipe d

/-! ### A failure anywhere fails the compilation -/

/-- The rule compilations a request program asks for as it runs from a context, directly or
through the rule compilers of the rules it asks for, each given by its schema, continuation and
context. -/
inductive AsksFor (reg : Registry) :
    {α : Type} → Emit α → Context → Schema → Option Fragment → Context → Prop
  | here {α : Type} {seg : Option Segment} {s : Schema} {next : Option Fragment}
      {k : Except Error Fragment → Emit α} {c : Context} :
      AsksFor reg (.nested seg s next k) c s next (c.enter seg)
  | context {α : Type} {k : Context → Emit α} {c : Context} {s : Schema}
      {next : Option Fragment} {ctx : Context} :
      AsksFor reg (k c) c s next ctx → AsksFor reg (.context k) c s next ctx
  | register {α : Type} {f : Fragment} {k : Nat → Emit α} {c : Context} {s : Schema}
      {next : Option Fragment} {ctx : Context} :
      AsksFor reg (k c.table.size) { c with table := c.table.push f } s next ctx →
        AsksFor reg (.register f k) c s next ctx
  | after {α : Type} {seg : Option Segment} {s' : Schema} {next' : Option Fragment}
      {k : Except Error Fragment → Emit α} {c : Context} {r : Except Error Fragment}
      {c' : Context} {s : Schema} {next : Option Fragment} {ctx : Context} :
      compileRuleIn reg s' next' (c.enter seg) = some (r, c') →
      AsksFor reg (k r) { c' with label := c.label } s next ctx →
        AsksFor reg (.nested seg s' next' k) c s next ctx
  | inside {α : Type} {seg : Option Segment} {s' : Schema} {next' : Option Fragment}
      {k : Except Error Fragment → Emit α} {c : Context} {d : Descriptor} {comp : RuleCompiler}
      {p : Presence} {s : Schema} {next : Option Fragment} {ctx : Context} :
      reg.resolve s' (renderPath (c.enter seg).label) = .ok (d, comp) →
      Presence.ofDescriptor d = .ok p → AsksFor reg (comp d) (c.enter seg) s next ctx →
        AsksFor reg (.nested seg s' next' k) c s next ctx

/-- A rule compilation and those it asks for: the rule itself, and every compilation its rule
compiler asks for. -/
def RuleAsks (reg : Registry) (s : Schema) (next : Option Fragment) (ctx : Context)
    (s' : Schema) (next' : Option Fragment) (ctx' : Context) : Prop :=
  (s' = s ∧ next' = next ∧ ctx' = ctx) ∨
    ∃ d comp p, reg.resolve s (renderPath ctx.label) = .ok (d, comp) ∧
      Presence.ofDescriptor d = .ok p ∧ AsksFor reg (comp d) ctx s' next' ctx'

section Asks

variable {reg : Registry} {α : Type} {prog : Emit α} {c : Context} {s : Schema}
  {next : Option Fragment} {ctx : Context}

theorem runRequests_nested_error {seg : Option Segment} {s' : Schema} {next' : Option Fragment}
    {k : Except Error Fragment → Emit α} {e : Error} (herr : ∀ e, k (.error e) = .fail e)
    (he : compileRule reg s' next' (c.enter seg) = some (.error e)) :
    runRequests reg (.nested seg s' next' k) c = some (.error e) := by
  obtain ⟨c', hc'⟩ := map_withContext_eq_error.mp he
  simp [runRequests_nested, hc', herr e]

/-- Where every rule compiler passes nested errors on, a compilation a program asks for that
fails is the program's failure. -/
theorem runRequests_of_asksFor (hreg : reg.Propagates) {e : Error} (hprog : prog.Propagates)
    (h : AsksFor reg prog c s next ctx) (he : compileRule reg s next ctx = some (.error e)) :
    runRequests reg prog c = some (.error e) := by
  induction h with
  | here =>
    cases hprog with
    | nested herr _ => exact runRequests_nested_error herr he
  | context _ ih =>
    cases hprog with
    | context hk => rw [runRequests_context, ih (hk _) he]
  | register _ ih =>
    cases hprog with
    | register hk => rw [runRequests_register, ih (hk _) he]
  | @after _ _ _ _ k _ r _ _ _ _ hc hasks ih =>
    cases hprog with
    | nested herr hok =>
      rw [runRequests_nested, hc, Option.bind_some]
      rcases r with e' | f
      · -- the program failed with the nested error, and asks for nothing more
        rw [herr e'] at hasks
        cases hasks
      · exact ih (hok f) he
  | inside hr hp _ ih =>
    cases hprog with
    | nested herr _ =>
      refine runRequests_nested_error herr ?_
      rw [compileRule_of_resolve hr hp, ih (hreg _ _ (Registry.get?_of_resolve hr) _) he,
        thenOk_error]

theorem AsksFor.mode (h : AsksFor reg prog c s next ctx) : ctx.mode = c.mode := by
  induction h with
  | here => cases ‹Option Segment› <;> rfl
  | context _ ih => exact ih
  | register _ ih => exact ih
  | after hc _ ih =>
    have hm := (compileRuleIn_extends hc).1
    rw [ih]
    exact hm.trans (by cases ‹Option Segment› <;> rfl)
  | inside _ _ _ ih => exact ih.trans (by cases ‹Option Segment› <;> rfl)

theorem compileRule_of_ruleAsks (hreg : reg.Propagates) {s' : Schema} {next' : Option Fragment}
    {ctx' : Context} {e : Error} (h : RuleAsks reg s next ctx s' next' ctx')
    (he : compileRule reg s' next' ctx' = some (.error e)) :
    compileRule reg s next ctx = some (.error e) := by
  rcases h with ⟨rfl, rfl, rfl⟩ | ⟨d, comp, p, hr, hp, hasks⟩
  · exact he
  · rw [compileRule_of_resolve hr hp,
      runRequests_of_asksFor hreg (hreg _ _ (Registry.get?_of_resolve hr) d) hasks he, thenOk_error]

theorem RuleAsks.mode {s' : Schema} {next' : Option Fragment} {ctx' : Context}
    (h : RuleAsks reg s next ctx s' next' ctx') : ctx'.mode = ctx.mode := by
  rcases h with ⟨-, -, rfl⟩ | ⟨_, _, _, -, -, hasks⟩
  · rfl
  · exact AsksFor.mode hasks

end Asks

/-! ### Bodies and continuations of the other mode -/

theorem closeRule_async {ctx c : Context} {p : Presence} {next : Option Fragment}
    {body : Fragment} (hsync : ctx.mode = .sync)
    (h : body.mode = .async ∨ ∃ k, next = some k ∧ k.mode = .async) :
    closeRule ctx p next body c = .error (.executionMode .sync .async) := by
  rcases body with ⟨_ | _, step⟩
  · -- the body lifts as it is, so the continuation is the asynchronous one
    obtain ⟨k, rfl, hk⟩ := h.resolve_left (by simp)
    rcases k with ⟨_ | _, kstep⟩
    · cases hk
    · simp [closeRule, frame, Fragment.lift, hsync, bind, Except.bind, Functor.map, Except.map]
  · simp [closeRule, Fragment.lift, hsync, bind, Except.bind]

section Failures

variable {reg : Registry} {s : Schema} {next : Option Fragment} {ctx : Context}
  {d : Descriptor} {comp : RuleCompiler} {p : Presence}

theorem compileRule_async (hsync : ctx.mode = .sync)
    (hr : reg.resolve s (renderPath ctx.label) = .ok (d, comp)) (hp : Presence.ofDescriptor d = .ok p)
    {body : Fragment} {c' : Context} (hrun : runRequests reg (comp d) ctx = some (.ok (body, c')))
    (h : body.mode = .async ∨ ∃ k, next = some k ∧ k.mode = .async) :
    compileRule reg s next ctx = some (.error (.executionMode .sync .async)) := by
  rw [compileRule_of_resolve hr hp, hrun, thenOk_ok]
  exact congrArg some (closeRule_async hsync h)

theorem runRequests_custom_async (hsync : ctx.mode = .sync) {ck : Check}
    (hc : d.check "check" = .ok (some ck)) (hck : ck.mode = .async) :
    runRequests reg (Rule.custom d) ctx = some (.error
      (d.invalid "check" "asynchronous checks need a schema compiled with $$async")) := by
  simp [Rule.custom, runRequests_bind, hc, hck, hsync, Emit.ofExcept]

theorem compileRule_custom_async (hsync : ctx.mode = .sync)
    (hr : reg.resolve s (renderPath ctx.label) = .ok (d, Rule.custom))
    (hp : Presence.ofDescriptor d = .ok p) {ck : Check} (hc : d.check "check" = .ok (some ck))
    (hck : ck.mode = .async) :
    compileRule reg s next ctx = some (.error
      (d.invalid "check" "asynchronous checks need a schema compiled with $$async")) := by
  rw [compileRule_of_resolve hr hp, runRequests_custom_async hsync hc hck, thenOk_error]

end Failures

/-! ### The validator -/

namespace Compiler

variable (c : Compiler) {S : Schema}

theorem compile_eq_ok {v : Validator} (h : c.compile S = some (.ok v)) :
    ∃ ctx, c.declaredMode S = .ok v.mode ∧
      compileRule c.registry S none { mode := v.mode } = some (.ok (v.root, ctx)) ∧
      v.table = ctx.table := by
  unfold compile at h
  rcases hm : c.declaredMode S with e | m
  · rw [hm] at h
    cases h
  · rw [hm] at h
    obtain ⟨r, hr, hv⟩ := Option.map_eq_some_iff.mp h
    obtain ⟨⟨root, ctx⟩, rfl, hv⟩ := except_bind_eq_ok.mp hv
    cases hv
    exact ⟨ctx, rfl, hr, rfl⟩

theorem compile_of_root_error {m : Mode} {e : Error} (hm : c.declaredMode S = .ok m)
    (h : compileRule c.registry S none { mode := m } = some (.error e)) :
    c.compile S = some (.error e) := by
  simp [compile, hm, h, bind, Except.bind]

theorem compile_async_not_bool {rule : String} {opts : List (String × Opt)} {o : Opt}
    (ho : opts.lookup "$$async" = some o) (hb : ∀ b, o ≠ .value (.bool b)) :
    c.compile (.node rule opts) =
      some (.error (.invalidOption rule "$$async" "" "expected a boolean")) := by
  have hm : c.declaredMode (.node rule opts) =
      .error (.invalidOption rule "$$async" "" "expected a boolean") := by
    unfold declaredMode
    dsimp only
    rw [ho]
    rcases o with v | _ | _ | _ | _
    · cases v
      case bool b => exact absurd rfl (hb b)
      all_goals rfl
    all_goals rfl
  simp [compile, hm]

end Compiler

theorem Validator.validate_other (v : Validator) (hroot : v.root.mode = v.mode) {call : Mode}
    (hcall : call ≠ v.mode) (x : Json) :
    v.validate call x = .error (.executionMode v.mode call) := by
  simp [Validator.validate, hroot, Ne.symm hcall]

/-! ### One mode per validator -/

/-- A compiled validator runs in its declared mode, at its root and, when the rule compilers
register only fragments of the compilation's mode, throughout its table. -/
theorem Compiler.compile_modes (c : Compiler) {S : Schema} {v : Validator}
    (h : c.compile S = some (.ok v)) :
    c.declaredMode S = .ok v.mode ∧ v.root.mode = v.mode ∧
      (c.registry.RegistersInMode → ∀ f ∈ v.table, f.mode = v.mode) := by
  obtain ⟨ctx, hm, hroot, htable⟩ := c.compile_eq_ok h
  refine ⟨hm, (compileRule_extends hroot).1, fun hreg f hf => ?_⟩
  -- the root context starts with an empty table, which is trivially of one mode
  obtain ⟨hmode, -, huniform⟩ := (compile_uniform hreg).1 _ _ _ _ (map_withContext_eq_ok.mp hroot)
  rw [htable] at hf
  exact (huniform (fun g hg => by simp at hg) f hf).trans hmode

/-- One execution mode per validator: the mode the root declares, throughout the table when rule
compilers register only fragments of it, and a mismatch below fails the compile when they pass
nested errors on. -/
theorem compile_single_mode (c : Compiler) (S : Schema) :
    (∀ v, c.compile S = some (.ok v) →
      c.declaredMode S = .ok v.mode ∧ v.root.mode = v.mode ∧
      (c.registry.RegistersInMode → ∀ f ∈ v.table, f.mode = v.mode) ∧
      ∀ call x, call ≠ v.mode → v.validate call x = .error (.executionMode v.mode call)) ∧
    (∀ rule opts o, S = .node rule opts → opts.lookup "$$async" = some o →
      (∀ b, o ≠ .value (.bool b)) →
      c.compile S = some (.error (.invalidOption rule "$$async" "" "expected a boolean"))) ∧
    (c.registry.Propagates → c.declaredMode S = .ok .sync → ∀ s next ctx d comp p body c',
      RuleAsks c.registry S none { mode := .sync } s next ctx →
      c.registry.resolve s (renderPath ctx.label) = .ok (d, comp) →
      Presence.ofDescriptor d = .ok p →
      runRequests c.registry (comp d) ctx = some (.ok (body, c')) →
      (body.mode = .async ∨ ∃ k, next = some k ∧ k.mode = .async) →
      c.compile S = some (.error (.executionMode .sync .async))) ∧
    (c.registry.Propagates → c.declaredMode S = .ok .sync → ∀ s next ctx d p ck,
      RuleAsks c.registry S none { mode := .sync } s next ctx →
      c.registry.resolve s (renderPath ctx.label) = .ok (d, Rule.custom) →
      Presence.ofDescriptor d = .ok p → d.check "check" = .ok (some ck) → ck.mode = .async →
      c.compile S = some (.error
        (d.invalid "check" "asynchronous checks need a schema compiled with $$async"))) := by
  refine ⟨fun v hv => ?_, fun rule opts o hS ho hb => ?_, fun hprop hm s next ctx d comp p body c'
    hasks hr hp hrun h => ?_, fun hprop hm s next ctx d p ck hasks hr hp hc hck => ?_⟩
  · obtain ⟨hdecl, hroot, htable⟩ := c.compile_modes hv
    exact ⟨hdecl, hroot, htable, fun call x hcall => v.validate_other hroot hcall x⟩
  · subst hS
    exact c.compile_async_not_bool ho hb
  · -- the rule runs in the root's mode, and its failure is the root's
    have hsync : ctx.mode = .sync := hasks.mode
    exact c.compile_of_root_error hm
      (compileRule_of_ruleAsks hprop hasks (compileRule_async hsync hr hp hrun h))
  · have hsync : ctx.mode = .sync := hasks.mode
    exact c.compile_of_root_error hm
      (compileRule_of_ruleAsks hprop hasks (compileRule_custom_async hsync hr hp hc hck))

/-- Where one mode per validator gives way: a shorthand root setting `$$async`, a rule compiler
registering an asynchronous fragment itself, and one that recovers from a nested compile error. -/
theorem compile_mode_exceptions :
    (Shorthand.expand "boolean|$$async" = .ok (Node.ofRule "boolean").asynchronous ∧
      (Compiler.compile { registry := Registry.builtins } (.shorthand "boolean|$$async")).map
        (·.map Validator.mode) = some (.ok .sync)) ∧
    (∃ v, Compiler.compile
        { registry := ⟨[("any", fun _ => .register (Fragment.identity .async) fun _ => Emit.identity)]⟩ }
        (.node "any" []) = some (.ok v) ∧ v.mode = .sync ∧ ∃ f ∈ v.table, f.mode = .async) ∧
    let reg : Registry := ⟨[("suspend", fun _ => .pure (Fragment.identity .async)),
      ("try", fun _ => .nested none (.node "suspend" []) none fun _ => Emit.identity)]⟩
    Compiler.compile { registry := reg } (.node "suspend" []) =
        some (.error (.executionMode .sync .async)) ∧
      (Compiler.compile { registry := reg } (.node "try" [])).map (·.map Validator.mode) =
        some (.ok .sync) := by
  have hexp : Shorthand.expand "boolean|$$async" = .ok (Node.ofRule "boolean").asynchronous := rfl
  refine ⟨⟨hexp, ?_⟩, ?_, ?_⟩
  · -- the root is the required `boolean` without conversion, compiled synchronously
    have hnode : (Node.ofRule "boolean").asynchronous.toSchema =
        .node "boolean" [("$$async", .value (.bool true))] := rfl
    have hrule : compileRule Registry.builtins (.shorthand "boolean|$$async") none { mode := .sync } =
        some (.ok (⟨.sync, frameStep .required (Rule.booleanStep false) none⟩,
          { mode := .sync, table := #[⟨.sync, Rule.booleanStep false⟩] })) := by
      rw [compileRule_shorthand _ hexp, hnode,
        compileRule_of_resolve (Registry.resolve_node _ rfl) rfl]
      simp only [Rule.boolean, runRequests_bind, runRequests_ofExcept, Except.map, runRequests_leaf]
      exact congrArg some (@closeRule_of_step { mode := .sync } _ _ _ _ (by simp))
    simp [Compiler.compile, hrule, Except.map]
  · -- the rule registers an asynchronous identity before its own synchronous body
    have hrule : compileRule ⟨[("any", fun _ => .register (Fragment.identity .async)
          fun _ => Emit.identity)]⟩ (.node "any" []) none { mode := .sync } =
        some (.ok (⟨.sync, frameStep .required Step.identity none⟩,
          { mode := .sync, table := #[Fragment.identity .async, ⟨.sync, Step.identity⟩] })) := by
      rw [compileRule_of_resolve (Registry.resolve_node _ rfl) rfl]
      simp only [runRequests_register, Emit.identity, runRequests_leaf, thenOk_ok]
      exact congrArg some (@closeRule_of_step { mode := .sync } _ _ _ _ (by simp))
    have hm : Compiler.declaredMode { registry := ⟨[("any", fun _ =>
        .register (Fragment.identity .async) fun _ => Emit.identity)]⟩ } (.node "any" []) =
        .ok .sync := rfl
    refine ⟨⟨⟨.sync, frameStep .required Step.identity none⟩,
        #[Fragment.identity .async, ⟨.sync, Step.identity⟩], .sync, ({} : Config).buildMessages⟩,
      ?_, rfl, Fragment.identity .async, by simp, rfl⟩
    simp [Compiler.compile, hm, hrule, bind, Except.bind, pure, Except.pure]

  · intro reg
    -- the asynchronous `suspend` body cannot be closed in a synchronous compilation ...
    have hsuspend : ∀ c : Context, c.mode = .sync →
        compileRuleIn reg (.node "suspend" []) none c =
          some (.error (.executionMode .sync .async), c) := by
      intro c hc
      rw [compileRuleIn_of_resolve (Registry.resolve_node _ rfl) rfl]
      simp [closeBody, Fragment.lift, Fragment.identity, hc]
    -- ... and `try` goes on with the identity when it fails
    have htry : compileRule reg (.node "try" []) none { mode := .sync } =
        some (.ok (⟨.sync, frameStep .required Step.identity none⟩,
          { mode := .sync, table := #[⟨.sync, Step.identity⟩] })) := by
      rw [compileRule_of_resolve (Registry.resolve_node _ rfl) rfl]
      simp only [runRequests_nested, Context.enter_none, hsuspend { mode := .sync } rfl,
        Option.bind_some, Emit.identity, runRequests_leaf, thenOk_ok]
      exact congrArg some (@closeRule_of_step { mode := .sync } _ _ _ _ (by simp))
    have hm : ∀ rule, Compiler.declaredMode { registry := reg } (.node rule []) = .ok .sync :=
      fun _ => rfl
    constructor
    · simp [Compiler.compile, hm, compileRule, hsuspend]
    · simp [Compiler.compile, hm, htry, bind, Except.bind, pure, Except.pure, Except.map]

end Conform
