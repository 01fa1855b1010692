import Conform.Compile.Compiler
/-! How a compilation runs. The requests of a rule compiler are answered one at a time by
`runRequestsIn`; the equations here let a proof follow a rule compiler's program without
unfolding the fixed point, and `compileRule` and `runRequests` read its successes. The one
invariant every compilation keeps, whether it ends well or fails: it never changes the mode or
the label of its context, and it only appends to the fragment table. -/

namespace Conform

variable {α β γ δ : Type}

/-- Continues a result that may be an error or may not exist (a compilation that does not end):
only a success is continued. -/
def thenOk (r : Option (Except Error α)) (f : α → Option (Except Error β)) :
    Option (Except Error β) :=
  r.bind fun
    | .ok a => f a
    | .error e => some (.error e)

section ThenOk

variable {r : Option (Except Error α)} {f : α → Option (Except Error β)}

@[simp] theorem thenOk_none : thenOk none f = none := rfl

@[simp] theorem thenOk_error (e : Error) : thenOk (some (.error e)) f = some (.error e) := rfl

@[simp] theorem thenOk_ok (a : α) : thenOk (some (.ok a)) f = f a := rfl

@[simp] theorem thenOk_ok_right : thenOk r (fun a => some (.ok a)) = r := by
  rcases r with _ | _ | _ <;> rfl

theorem thenOk_congr {g : α → Option (Except Error β)}
    (h : ∀ a, r = some (.ok a) → f a = g a) : thenOk r f = thenOk r g := by
  rcases r with _ | e | a
  · rfl
  · rfl
  · exact h a rfl

theorem thenOk_assoc (g : β → Option (Except Error γ)) :
    thenOk (thenOk r f) g = thenOk r fun a => thenOk (f a) g := by
  rcases r with _ | _ | _ <;> rfl

theorem thenOk_eq_ok {b : β} :
    thenOk r f = some (.ok b) ↔ ∃ a, r = some (.ok a) ∧ f a = some (.ok b) := by
  rcases r with _ | e | a <;> simp

theorem thenOk_bind {o : Option γ} {g : γ → Option (Except Error α)} :
    thenOk (o.bind g) f = o.bind fun x => thenOk (g x) f := by
  cases o <;> rfl

end ThenOk

section WithContext

variable {o : Option (Except Error α × Context)}

@[simp] theorem withContext_ok (a : α) (c : Context) : withContext (.ok a, c) = .ok (a, c) := rfl

@[simp] theorem withContext_error (e : Error) (c : Context) :
    withContext ((.error e : Except Error α), c) = .error e := rfl

theorem map_withContext_eq_ok {a : α} {c : Context} :
    o.map withContext = some (.ok (a, c)) ↔ o = some (.ok a, c) := by
  rcases o with _ | ⟨_ | _, _⟩ <;> simp [withContext, Except.map]

theorem map_withContext_eq_error {e : Error} :
    o.map withContext = some (.error e) ↔ ∃ c, o = some (.error e, c) := by
  rcases o with _ | ⟨_ | _, _⟩ <;> simp [withContext, Except.map]

end WithContext

theorem except_bind_eq_ok {ε : Type} {x : Except ε α} {f : α → Except ε β} {b : β} :
    x >>= f = .ok b ↔ ∃ a, x = .ok a ∧ f a = .ok b := by
  cases x <;> simp [bind, Except.bind]

theorem except_bind_eq_error {ε : Type} {x : Except ε α} {f : α → Except ε β} {e : ε} :
    x >>= f = .error e ↔ x = .error e ∨ ∃ a, x = .ok a ∧ f a = .error e := by
  cases x <;> simp [bind, Except.bind]

theorem except_map_eq_ok {ε : Type} {x : Except ε α} {f : α → β} {b : β} :
    x.map f = .ok b ↔ ∃ a, x = .ok a ∧ f a = b := by
  cases x <;> simp [Except.map]

namespace Emit

@[simp] theorem pure_bind' (a : α) (f : α → Emit β) : (Emit.pure a >>= f) = f a := rfl

@[simp] theorem pure_bind (a : α) (f : α → Emit β) : (pure a >>= f) = f a := rfl

@[simp] theorem fail_bind (e : Error) (f : α → Emit β) : (Emit.fail e >>= f) = .fail e := rfl

@[simp] theorem context_bind (k : Context → Emit α) (f : α → Emit β) :
    (Emit.context k >>= f) = .context fun c => k c >>= f := rfl

@[simp] theorem register_bind (fr : Fragment) (k : Nat → Emit α) (f : α → Emit β) :
    (Emit.register fr k >>= f) = .register fr fun i => k i >>= f := rfl

@[simp] theorem nested_bind (seg : Option Segment) (s : Schema) (next : Option Fragment)
    (k : Except Error Fragment → Emit α) (f : α → Emit β) :
    (Emit.nested seg s next k >>= f) = .nested seg s next fun r => k r >>= f := rfl

end Emit

@[simp] theorem Context.enter_none (c : Context) : c.enter none = c := rfl

@[simp] theorem Context.enter_some (c : Context) (g : Segment) :
    c.enter (some g) = { c with label := c.label ++ [g] } := rfl

/-! ### Answering requests -/

section Requests

variable (reg : Registry)

@[simp] theorem runRequestsIn_pure (a : α) (c : Context) :
    runRequestsIn reg (.pure a) c = some (.ok a, c) := by
  unfold runRequestsIn
  rw [runRequests._fix.eq_1]

@[simp] theorem runRequestsIn_fail (e : Error) (c : Context) :
    runRequestsIn reg (.fail e : Emit α) c = some (.error e, c) := by
  unfold runRequestsIn
  rw [runRequests._fix.eq_2]

@[simp] theorem runRequestsIn_context (k : Context → Emit α) (c : Context) :
    runRequestsIn reg (.context k) c = runRequestsIn reg (k c) c := by
  unfold runRequestsIn
  rw [runRequests._fix.eq_3]

@[simp] theorem runRequestsIn_register (f : Fragment) (k : Nat → Emit α) (c : Context) :
    runRequestsIn reg (.register f k) c =
      runRequestsIn reg (k c.table.size) { c with table := c.table.push f } := by
  unfold runRequestsIn
  rw [runRequests._fix.eq_4]

/-- A nested request compiles its schema and goes on with whatever that gave, from the context
it left with the label restored. -/
@[simp] theorem runRequestsIn_nested (seg : Option Segment) (s : Schema) (next : Option Fragment)
    (k : Except Error Fragment → Emit α) (c : Context) :
    runRequestsIn reg (.nested seg s next k) c = (compileRuleIn reg s next (c.enter seg)).bind
      fun o => runRequestsIn reg (k o.1) { o.2 with label := c.label } := by
  unfold runRequestsIn compileRuleIn
  rw [runRequests._fix.eq_5]
  rfl

@[simp] theorem runRequests_pure (a : α) (c : Context) :
    runRequests reg (.pure a) c = some (.ok (a, c)) := by
  simp [runRequests]

@[simp] theorem runRequests_pure' (a : α) (c : Context) :
    runRequests reg (pure a) c = some (.ok (a, c)) :=
  runRequests_pure reg a c

@[simp] theorem runRequests_fail (e : Error) (c : Context) :
    runRequests reg (.fail e : Emit α) c = some (.error e) := by
  simp [runRequests]

@[simp] theorem runRequests_context (k : Context → Emit α) (c : Context) :
    runRequests reg (.context k) c = runRequests reg (k c) c := by
  simp [runRequests]

@[simp] theorem runRequests_register (f : Fragment) (k : Nat → Emit α) (c : Context) :
    runRequests reg (.register f k) c =
      runRequests reg (k c.table.size) { c with table := c.table.push f } := by
  simp [runRequests]

theorem runRequests_nested (seg : Option Segment) (s : Schema) (next : Option Fragment)
    (k : Except Error Fragment → Emit α) (c : Context) :
    runRequests reg (.nested seg s next k) c = (compileRuleIn reg s next (c.enter seg)).bind
      fun o => runRequests reg (k o.1) { o.2 with label := c.label } := by
  simp [runRequests, Function.comp_def]

/-- Answering a sequence of requests answers the first part, then the rest from where it left
off; an error or a compilation that does not end stops everything. -/
theorem runRequests_bind (x : Emit α) (f : α → Emit β) (c : Context) :
    runRequests reg (x >>= f) c = thenOk (runRequests reg x c) fun (a, c') =>
      runRequests reg (f a) c' := by
  induction x generalizing c with
  | pure a => simp
  | fail e => simp
  | context k ih => simp [ih]
  | register fr k ih => simp [ih]
  | nested seg s next k ih => simp [runRequests_nested, ih, thenOk_bind]

@[simp] theorem runRequests_ofExcept (x : Except Error α) (c : Context) :
    runRequests reg (Emit.ofExcept x) c = some (x.map fun a => (a, c)) := by
  cases x <;> simp [Emit.ofExcept, Except.map]

@[simp] theorem runRequests_compileNested (seg : Option Segment) (s : Schema)
    (next : Option Fragment) (c : Context) :
    runRequests reg (Emit.compileNested seg s next) c =
      thenOk (compileRule reg s next (c.enter seg)) fun (f, c') =>
        some (.ok (f, { c' with label := c.label })) := by
  simp only [Emit.compileNested, runRequests_nested, runRequests_ofExcept, compileRule]
  rcases compileRuleIn reg s next (c.enter seg) with _ | ⟨_ | f, c'⟩ <;> rfl

@[simp] theorem runRequests_mode (c : Context) :
    runRequests reg Emit.mode c = some (.ok (c.mode, c)) := by
  simp [Emit.mode]

@[simp] theorem runRequests_leaf (step : Step) (c : Context) :
    runRequests reg (Emit.leaf step) c = some (.ok (⟨c.mode, step⟩, c)) := by
  simp [Emit.leaf, runRequests_bind]

theorem runRequests_stage (f : Fragment) (c : Context) :
    runRequests reg (Emit.stage f) c = some ((f.lift c.mode).map fun g => (g.step, c)) := by
  simp only [Emit.stage, runRequests_bind, runRequests_mode, thenOk_ok, runRequests_ofExcept]
  cases f.lift c.mode <;> simp [Except.map]

/-- Runs one request program per element of a list, in order, each from the context the
previous one left. -/
def runEach (g : β → Emit γ) :
    List β → Context → Option (Except Error (List γ × Context))
  | [], c => some (.ok ([], c))
  | x :: xs, c => thenOk (runRequests reg (g x) c) fun (y, c') =>
    thenOk (runEach g xs c') fun (ys, c'') => some (.ok (y :: ys, c''))

/-- A `for` loop that appends the answer of one request per element, as rule compilers collect
their nested fragments. -/
theorem runRequests_forIn_append (g : β → Emit γ) (xs : List β) (acc : List γ) (c : Context) :
    runRequests reg (forIn xs acc fun x acc => do
        let y ← g x
        pure (ForInStep.yield (acc ++ [y]))) c =
      thenOk (runEach reg g xs c) fun (ys, c') => some (.ok (acc ++ ys, c')) := by
  induction xs generalizing acc c with
  | nil => simp [runEach]
  | cons x xs ih => simp [runEach, runRequests_bind, thenOk_assoc, ih]

end Requests

/-! ### Stages of fragments of the compilation's own mode -/

@[simp] theorem Fragment.lift_self (f : Fragment) : f.lift f.mode = .ok f := by
  rcases f with ⟨_ | _, step⟩ <;> rfl

theorem runRequests_stage_self (reg : Registry) {f : Fragment} {c : Context}
    (h : f.mode = c.mode) : runRequests reg (Emit.stage f) c = some (.ok (f.step, c)) := by
  rw [runRequests_stage, ← h, Fragment.lift_self]
  simp [Except.map]

/-- Staging fragments that all run in the compilation's mode takes their steps and leaves the
context as it was. -/
theorem runEach_stage (reg : Registry) {fs : List Fragment} {c : Context}
    (h : ∀ f ∈ fs, f.mode = c.mode) :
    runEach reg Emit.stage fs c = some (.ok (fs.map (·.step), c)) := by
  induction fs with
  | nil => rfl
  | cons f fs ih =>
    simp only [List.mem_cons, forall_eq_or_imp] at h
    simp [runEach, runRequests_stage_self reg h.1, ih h.2]

/-! ### One rule -/

/-- The end of a rule's compilation: the body brought to the compilation's mode, framed, and
registered in the table. -/
def closeRule (ctx : Context) (p : Presence) (next : Option Fragment) (body : Fragment)
    (ctx' : Context) : Except Error (Fragment × Context) := do
  let body ← body.lift ctx.mode
  let framed ← frame ctx.mode p body next
  return (framed, { ctx' with table := ctx'.table.push body })

theorem Registry.normalize_label {s : Schema} {label : String} {d : Descriptor}
    (h : Registry.normalize s label = .ok d) : d.label = label := by
  cases s with
  | shorthand text =>
    simp only [Registry.normalize, bind, Except.bind, pure, Except.pure] at h
    split at h
    · cases h
    · cases h; rfl
  | node rule options => cases h; rfl

theorem Registry.resolve_of_normalize {reg : Registry} {s : Schema} {label : String}
    {d : Descriptor} {comp : RuleCompiler} (hd : Registry.normalize s label = .ok d)
    (hc : reg.get? d.rule = some comp) : reg.resolve s label = .ok (d, comp) := by
  simp [Registry.resolve, hd, hc, bind, Except.bind]

section Rule

variable {reg : Registry} {s : Schema} {next : Option Fragment} {ctx : Context}

theorem withContext_closeBody (p : Presence) (body : Fragment) (c : Context) :
    withContext (closeBody ctx.mode p next body c) = closeRule ctx p next body c := by
  unfold closeBody closeRule
  rcases body.lift ctx.mode with e | b
  · rfl
  · rcases hf : frame ctx.mode p b next with e | f <;>
      simp [hf, withContext, Except.map, bind, Except.bind, pure, Except.pure]

theorem compileRuleIn_of_unresolved {e : Error}
    (hr : reg.resolve s (renderPath ctx.label) = .error e) :
    compileRuleIn reg s next ctx = some (.error e, ctx) := by
  unfold compileRuleIn
  rw [compileRule._fix.eq_1, hr]

theorem compileRuleIn_of_presence_error {d : Descriptor} {comp : RuleCompiler} {e : Error}
    (hr : reg.resolve s (renderPath ctx.label) = .ok (d, comp))
    (hp : Presence.ofDescriptor d = .error e) :
    compileRuleIn reg s next ctx = some (.error e, ctx) := by
  unfold compileRuleIn
  rw [compileRule._fix.eq_1, hr]
  simp only [hp]

/-- A rule whose tag resolves and whose presence is read compiles by answering its compiler's
requests: an error is the rule's, in the context the compiler left; a body is closed. -/
theorem compileRuleIn_of_resolve {d : Descriptor} {comp : RuleCompiler} {p : Presence}
    (hr : reg.resolve s (renderPath ctx.label) = .ok (d, comp))
    (hp : Presence.ofDescriptor d = .ok p) :
    compileRuleIn reg s next ctx = (runRequestsIn reg (comp d) ctx).bind fun o =>
      match o.1 with
      | .error e => some (.error e, o.2)
      | .ok body => some (closeBody ctx.mode p next body o.2) := by
  unfold compileRuleIn runRequestsIn
  rw [compileRule._fix.eq_1, hr]
  simp only [hp]
  congr 1
  funext o
  rcases o with ⟨_ | _, _⟩ <;> rfl

theorem compileRule_of_unresolved {e : Error}
    (hr : reg.resolve s (renderPath ctx.label) = .error e) :
    compileRule reg s next ctx = some (.error e) := by
  simp [compileRule, compileRuleIn_of_unresolved hr]

theorem compileRule_of_presence_error {d : Descriptor} {comp : RuleCompiler} {e : Error}
    (hr : reg.resolve s (renderPath ctx.label) = .ok (d, comp))
    (hp : Presence.ofDescriptor d = .error e) :
    compileRule reg s next ctx = some (.error e) := by
  simp [compileRule, compileRuleIn_of_presence_error hr hp]

theorem compileRule_of_resolve {d : Descriptor} {comp : RuleCompiler} {p : Presence}
    (hr : reg.resolve s (renderPath ctx.label) = .ok (d, comp))
    (hp : Presence.ofDescriptor d = .ok p) :
    compileRule reg s next ctx = thenOk (runRequests reg (comp d) ctx) fun (body, ctx') =>
      some (closeRule ctx p next body ctx') := by
  unfold compileRule runRequests
  rw [compileRuleIn_of_resolve hr hp]
  rcases runRequestsIn reg (comp d) ctx with _ | ⟨_ | body, c⟩
  · rfl
  · rfl
  · simp [← withContext_closeBody]

end Rule

/-! ### Compilations that end

A compilation that ends is a finite tree of rule compilations and answered requests. The
principle below lets a property of such compilations be proved one case at a time: one case per
kind of request and one per way a rule compilation ends. A nested request goes on from what the
nested compilation gave, a fragment or an error, and from the context it left. -/

section Induction

variable (reg : Registry)
  (P : Schema → Option Fragment → Context → Except Error Fragment × Context → Prop)
  (Q : {α : Type} → Emit α → Context → Except Error α × Context → Prop)

/-- Induction over the compilations that end. -/
theorem compileRule_induction
    (pure : ∀ {α} (a : α) c, Q (.pure a) c (.ok a, c))
    (fail : ∀ {α} (e : Error) c, Q (.fail e : Emit α) c (.error e, c))
    (context : ∀ {α} (k : Context → Emit α) c o, Q (k c) c o → Q (.context k) c o)
    (register : ∀ {α} f (k : Nat → Emit α) c o,
      Q (k c.table.size) { c with table := c.table.push f } o → Q (.register f k) c o)
    (nested : ∀ {α} seg s next (k : Except Error Fragment → Emit α) c r c' o,
      P s next (c.enter seg) (r, c') → Q (k r) { c' with label := c.label } o →
        Q (.nested seg s next k) c o)
    (unresolved : ∀ s next ctx e, reg.resolve s (renderPath ctx.label) = .error e →
      P s next ctx (.error e, ctx))
    (badPresence : ∀ s next ctx d comp e, reg.resolve s (renderPath ctx.label) = .ok (d, comp) →
      Presence.ofDescriptor d = .error e → P s next ctx (.error e, ctx))
    (bodyError : ∀ s next ctx d comp p e ctx',
      reg.resolve s (renderPath ctx.label) = .ok (d, comp) →
      Presence.ofDescriptor d = .ok p → Q (comp d) ctx (.error e, ctx') →
        P s next ctx (.error e, ctx'))
    (bodyOk : ∀ s next ctx d comp p body ctx',
      reg.resolve s (renderPath ctx.label) = .ok (d, comp) →
      Presence.ofDescriptor d = .ok p → Q (comp d) ctx (.ok body, ctx') →
        P s next ctx (closeBody ctx.mode p next body ctx')) :
    (∀ s next ctx o, compileRuleIn reg s next ctx = some o → P s next ctx o) ∧
      (∀ {α} (prog : Emit α) c o, runRequestsIn reg prog c = some o → Q prog c o) := by
  apply compileRule._fix.mutual_partial_correctness reg P Q
  · intro run ihRun s next ctx o h
    split at h
    · next e hr => cases h; exact unresolved s next ctx e hr
    · next d comp hr =>
      split at h
      · next e hp => cases h; exact badPresence s next ctx d comp e hr hp
      · next p hp =>
        obtain ⟨ob, hrun, h⟩ := Option.bind_eq_some_iff.mp h
        have hq := ihRun _ _ _ hrun
        rcases ob with ⟨_ | body, ctx'⟩
        · cases h; exact bodyError s next ctx d comp p _ ctx' hr hp hq
        · cases h; exact bodyOk s next ctx d comp p body ctx' hr hp hq
  · intro comp run ihComp ihRun α prog c o h
    cases prog with
    | pure a => cases h; exact pure a c
    | fail e => cases h; exact fail e c
    | context k => exact context k c o (ihRun _ _ _ h)
    | register f k => exact register f k c o (ihRun _ _ _ h)
    | nested seg s next k =>
      obtain ⟨⟨r, c'⟩, hcomp, h⟩ := Option.bind_eq_some_iff.mp h
      exact nested seg s next k c r c' o (ihComp _ _ _ _ hcomp) (ihRun _ _ _ h)

end Induction

/-! ### What a compilation does to its context -/

/-- `c'` extends `c`: the same mode and label, and `c`'s fragment table as a prefix. -/
def Context.Extends (c c' : Context) : Prop :=
  c'.mode = c.mode ∧ c'.label = c.label ∧ c.table.toList <+: c'.table.toList

namespace Context.Extends

theorem refl (c : Context) : c.Extends c := ⟨rfl, rfl, List.prefix_refl _⟩

theorem trans {c c' c'' : Context} (h : c.Extends c') (h' : c'.Extends c'') : c.Extends c'' :=
  ⟨h'.1.trans h.1, h'.2.1.trans h.2.1, h.2.2.trans h'.2.2⟩

theorem push (c : Context) (f : Fragment) : c.Extends { c with table := c.table.push f } :=
  ⟨rfl, rfl, by simp⟩

end Context.Extends

theorem frame_mode {m : Mode} {p : Presence} {body : Fragment} {next : Option Fragment}
    {f : Fragment} (h : frame m p body next = .ok f) : f.mode = m := by
  unfold frame at h
  cases next with
  | none => cases h; rfl
  | some k =>
    cases hk : k.lift m with
    | error e => simp only [hk, bind, Except.bind, Functor.map, Except.map, reduceCtorEq] at h
    | ok k' => simp [hk] at h; cases h; rfl

theorem closeBody_extends (m : Mode) (p : Presence) (next : Option Fragment) (body : Fragment)
    (c : Context) :
    c.Extends (closeBody m p next body c).2 ∧ ∀ f, (closeBody m p next body c).1 = .ok f →
      f.mode = m := by
  unfold closeBody
  rcases body.lift m with e | b
  · exact ⟨.refl c, fun _ h => by cases h⟩
  · exact ⟨.push c b, fun _ h => frame_mode h⟩

/-- A compilation that ends, well or not, keeps the mode and the label of its context and only
appends to the fragment table; the fragment of a rule runs in the compilation's mode. -/
theorem compile_extends (reg : Registry) :
    (∀ s next ctx o, compileRuleIn reg s next ctx = some o →
      ctx.Extends o.2 ∧ ∀ f, o.1 = .ok f → f.mode = ctx.mode) ∧
    (∀ {α} (prog : Emit α) c o, runRequestsIn reg prog c = some o → c.Extends o.2) := by
  refine compileRule_induction reg _ _ ?pure ?fail ?context ?register ?nested
    ?unresolved ?badPresence ?bodyError ?bodyOk
  case pure => intro _ _ c; exact .refl c
  case fail => intro _ _ c; exact .refl c
  case context => intro _ _ _ _ ih; exact ih
  case register => intro _ f _ c _ ih; exact (Context.Extends.push c f).trans ih
  case nested =>
    intro _ seg _ _ _ c _ _ _ hp ih
    -- the nested compilation extends the entered context, and the label is restored after it
    obtain ⟨⟨hm, -, ht⟩, -⟩ := hp
    obtain ⟨hm', hl', ht'⟩ := ih
    cases seg <;> exact ⟨hm'.trans hm, hl', ht.trans ht'⟩
  case unresolved => intro _ _ ctx _ _; exact ⟨.refl ctx, fun _ h => by cases h⟩
  case badPresence => intro _ _ ctx _ _ _ _ _; exact ⟨.refl ctx, fun _ h => by cases h⟩
  case bodyError => intro _ _ _ _ _ _ _ _ _ _ ih; exact ⟨ih, fun _ h => by cases h⟩
  case bodyOk =>
    intro _ next ctx _ _ p body c _ _ ih
    obtain ⟨hc, hf⟩ := closeBody_extends ctx.mode p next body c
    exact ⟨ih.trans hc, hf⟩

section Extends

variable {reg : Registry} {s : Schema} {next : Option Fragment} {ctx ctx' : Context}

theorem compileRuleIn_extends {r : Except Error Fragment}
    (h : compileRuleIn reg s next ctx = some (r, ctx')) : ctx.Extends ctx' :=
  ((compile_extends reg).1 _ _ _ _ h).1

theorem runRequestsIn_extends {prog : Emit α} {r : Except Error α}
    (h : runRequestsIn reg prog ctx = some (r, ctx')) : ctx.Extends ctx' :=
  (compile_extends reg).2 _ _ _ h

theorem compileRule_extends {f : Fragment} (h : compileRule reg s next ctx = some (.ok (f, ctx'))) :
    f.mode = ctx.mode ∧ ctx.Extends ctx' := by
  have h' := map_withContext_eq_ok.mp h
  exact ⟨((compile_extends reg).1 _ _ _ _ h').2 f rfl, compileRuleIn_extends h'⟩

theorem runRequests_extends {prog : Emit α} {a : α}
    (h : runRequests reg prog ctx = some (.ok (a, ctx'))) : ctx.Extends ctx' :=
  runRequestsIn_extends (map_withContext_eq_ok.mp h)

end Extends

end Conform
