import Conform.Proofs.Sizes
import Conform.Proofs.Paths
/-! The nodes a compilation reaches. Compiling a schema with the built-in rules checks the node
first (its shorthand expands, its tag names a rule, its presence options and its rule's own
options read, raw nested schemas included) and then compiles the schemas it holds, in order:
an object's fields one key deeper, an array's `items` one item marker deeper, a pipe's steps at
the pipe's own label. So the nodes are reached in pre-order, and each body is registered after
the bodies of the schemas it holds. Here `Schema.walk` follows that order without compiling,
stopping at the first node whose checks fail, and `Laid` says how compiled schemas lie in the
fragment table. Proved: compiling a schema in any context either fails with the fault the walk
stops at, or lays out in the table exactly as many bodies as the walk counts, in post-order. -/

namespace Conform

/-! ### What a node holds and what it is checked for -/

namespace Descriptor

/-- The schemas a node holds for its built-in rule, each with the label segment it is compiled
under: an object's fields (`props`, else `properties`) one key deeper, an array's `items` one
item marker deeper, a pipe's `steps`, when they are a sequence, at the node's own label; none
for the other rules. An option that holds schemas and cannot be read is the node's fault. -/
def held (d : Descriptor) : Except Error (List (Option Segment × Schema)) :=
  match d.rule with
  | "object" => d.objectProps.map fun props => props.map fun (k, s) => (some (.key k), s)
  | "array" => (d.schema "items").map fun items => items.toList.map ((some .items, ·))
  | "pipe" => (d.sequence "steps").map fun steps => (steps.getD []).map ((none, ·))
  | _ => .ok []

/-- The checks the built-in rule of a node makes of its options before it compiles the schemas
the node holds, in the order it makes them, in mode `m`; they give those schemas. -/
def ruleChecks (m : Mode) (d : Descriptor) : Except Error (List (Option Segment × Schema)) :=
  match d.rule with
  | "object" => do
    let held ← d.held
    let _ ← Rule.Strictness.ofDescriptor d
    return held
  | "array" => do
    let _ ← Rule.Bounds.ofDescriptor d
    d.held
  | "pipe" => d.held
  | "string" => (Rule.TextRule.ofDescriptor d).map fun _ => []
  | "number" => (Rule.NumberRule.ofDescriptor d).map fun _ => []
  | "boolean" => (d.flag "convert").map fun _ => []
  | "custom" => do
    match ← d.check "check" with
    | none => throw (d.invalid "check" "a check function is required")
    | some c =>
      match c.mode, m with
      | .async, .sync =>
        throw (d.invalid "check" "asynchronous checks need a schema compiled with $$async")
      | _, _ => return []
  | _ => .ok []

end Descriptor

/-- The node of a schema at a label, if its shorthand expands and its tag names a built-in
rule. -/
def Schema.builtinNode (label : String) (s : Schema) : Except Error Descriptor := do
  let d ← Registry.normalize s label
  if Registry.builtins.contains d.rule then return d else throw (.unknownRule d.rule label)

/-- What the built-in rules check of a schema at compile label `label` in mode `m` before they
compile the schemas it holds, in the order they check it: the shorthand expands, the tag names a
built-in rule, the presence options read, and the rule's own options read. They give the node's
presence and the schemas it holds. -/
def Schema.ownChecks (m : Mode) (label : List Segment) (s : Schema) :
    Except Error (Presence × List (Option Segment × Schema)) := do
  let d ← s.builtinNode (renderPath label)
  let p ← Presence.ofDescriptor d
  let held ← d.ruleChecks m
  return (p, held)

/-! ### Sizes -/

theorem Descriptor.held_weight {d : Descriptor} {held : List (Option Segment × Schema)}
    (h : d.held = .ok held) : ∀ p ∈ held, p.2.weight < d.node.toSchema.weight := by
  intro p hp
  unfold Descriptor.held at h
  split at h
  · obtain ⟨props, hprops, rfl⟩ := except_map_eq_ok.mp h
    obtain ⟨⟨k, s⟩, hks, rfl⟩ := List.mem_map.mp hp
    exact Descriptor.objectProps_weight hprops _ hks
  · obtain ⟨items, hitems, rfl⟩ := except_map_eq_ok.mp h
    cases items with
    | none => cases hp
    | some s =>
      obtain rfl : p = (some .items, s) := by simpa using hp
      exact Descriptor.schema_weight hitems
  · obtain ⟨steps, hsteps, rfl⟩ := except_map_eq_ok.mp h
    cases steps with
    | none => cases hp
    | some steps =>
      obtain ⟨s, hs, rfl⟩ := List.mem_map.mp hp
      exact Descriptor.sequence_weight hsteps s hs
  · cases h
    cases hp

theorem Descriptor.ruleChecks_held {m : Mode} {d : Descriptor}
    {held : List (Option Segment × Schema)} (h : d.ruleChecks m = .ok held) :
    held = [] ∨ d.held = .ok held := by
  unfold Descriptor.ruleChecks at h
  split at h
  case h_1 =>
    obtain ⟨held', hheld, h⟩ := except_bind_eq_ok.mp h
    obtain ⟨_, -, h⟩ := except_bind_eq_ok.mp h
    cases h
    exact .inr hheld
  case h_2 =>
    obtain ⟨_, -, h⟩ := except_bind_eq_ok.mp h
    exact .inr h
  case h_3 => exact .inr h
  case h_4 | h_5 | h_6 =>
    obtain ⟨_, -, rfl⟩ := except_map_eq_ok.mp h
    exact .inl rfl
  case h_7 =>
    -- a custom rule holds no schema, whatever its check
    obtain ⟨c, -, h⟩ := except_bind_eq_ok.mp h
    rcases c with _ | ⟨_ | _, step⟩
    · cases h
    · cases h
      exact .inl rfl
    · cases m <;> cases h
      exact .inl rfl
  case h_8 =>
    cases h
    exact .inl rfl

theorem Schema.ownChecks_weight {m : Mode} {label : List Segment} {s : Schema} {p : Presence}
    {held : List (Option Segment × Schema)} (h : s.ownChecks m label = .ok (p, held)) :
    ∀ q ∈ held, q.2.weight < s.weight := by
  intro q hq
  obtain ⟨d, hd, h⟩ := except_bind_eq_ok.mp h
  obtain ⟨_, -, h⟩ := except_bind_eq_ok.mp h
  obtain ⟨held', hrule, h⟩ := except_bind_eq_ok.mp h
  cases h
  obtain ⟨d', hd', hnode⟩ := except_bind_eq_ok.mp hd
  have hd'' : d' = d := by
    split at hnode
    · cases hnode; rfl
    · cases hnode
  subst hd''
  have hle := Registry.normalize_weight hd'
  rcases Descriptor.ruleChecks_held hrule with rfl | hheld
  · cases hq
  · have := Descriptor.held_weight hheld q hq
    omega

/-! ### The walk -/

/-- The walk over the nodes a compilation with the built-in rules reaches, from a schema at
compile label `label` in mode `m`, in pre-order: a node's own checks, then the schemas it holds,
in order, each at its own label. It stops at the first node whose checks fail, with that node's
label and fault, or else counts the nodes it walked. -/
def Schema.walk (m : Mode) (label : List Segment) (s : Schema) :
    Except (List Segment × Error) Nat :=
  match h : s.ownChecks m label with
  | .error e => .error (label, e)
  | .ok (_, held) => do
    let counts ← held.attach.mapM fun ⟨(seg, c), _⟩ => c.walk m (label ++ seg.toList)
    return counts.sum + 1
termination_by s.weight
decreasing_by exact Schema.ownChecks_weight h _ ‹_›

theorem Schema.walk_eq (m : Mode) (label : List Segment) (s : Schema) :
    s.walk m label = match s.ownChecks m label with
      | .error e => .error (label, e)
      | .ok (_, held) =>
        (held.mapM fun (sc : Option Segment × Schema) => sc.2.walk m (label ++ sc.1.toList)).map
          (·.sum + 1) := by
  rw [Schema.walk]
  split
  · next e he => rw [he]
  · next held he =>
    rw [he, List.mapM_subtype (g := fun (sc : Option Segment × Schema) =>
      sc.2.walk m (label ++ sc.1.toList)) (fun _ _ => rfl), List.unattach_attach, bind_pure_comp]
    rfl

/-- The first fault a compilation with the built-in rules meets: a root given as a node is
checked for its `$$async` first, then comes the walk from the root, at the empty label, in the
mode that fixes. -/
def Compiler.firstFault (c : Compiler) (S : Schema) : Option (List Segment × Error) :=
  match c.declaredMode S with
  | .error e => some ([], e)
  | .ok m =>
    match S.walk m [] with
    | .error fault => some fault
    | .ok _ => none

/-- An error names the compile label `path` when, naming a label at all, it names that one: an
unknown rule and an invalid option carry a label. -/
def Error.NamesPlace (path : String) : Error → Prop
  | .unknownRule _ p => p = path
  | .invalidOption _ _ p _ => p = path
  | _ => True

/-! ### How compiled schemas lie in the table -/

/-- How schemas held at compile label `label`, compiled in mode `m`, lie in the fragment table:
`Laid m label held fs bs` says they compiled to the fragments `fs`, in order, and laid the bodies
`bs`. Each one's part of the table is the parts of the schemas it holds, then its own body; the
fragment it compiled to is that body in the frame of its presence. -/
inductive Laid (m : Mode) :
    List Segment → List (Option Segment × Schema) → List Fragment → List Fragment → Prop
  | nil (label : List Segment) : Laid m label [] [] []
  | cons {label : List Segment} {seg : Option Segment} {s : Schema}
      {rest : List (Option Segment × Schema)} {p : Presence}
      {held : List (Option Segment × Schema)} {body : Fragment} {fs bs gs cs : List Fragment} :
      s.ownChecks m (label ++ seg.toList) = .ok (p, held) →
      Laid m (label ++ seg.toList) held fs bs →
      Laid m label rest gs cs →
      Laid m label ((seg, s) :: rest) (⟨m, frameStep p body.step none⟩ :: gs) (bs ++ body :: cs)

theorem Laid.shift {m : Mode} {label : List Segment} {seg : Option Segment} {s : Schema}
    {f : Fragment} {bs : List Fragment} {rest : List (Option Segment × Schema)}
    {gs cs : List Fragment} (h : Laid m (label ++ seg.toList) [(none, s)] [f] bs)
    (hrest : Laid m label rest gs cs) : Laid m label ((seg, s) :: rest) (f :: gs) (bs ++ cs) := by
  cases h with
  | cons hown hheld hnil =>
    cases hnil
    simp only [Option.toList_none, List.append_nil] at hown hheld
    simpa using Laid.cons hown hheld hrest

/-! ### Compiling what a node holds -/

/-- The schemas a node holds compiled one after another, each at its own label with no
continuation, the node's label put back after each. -/
def compileHeld (reg : Registry) : List (Option Segment × Schema) → Context →
    Option (Except Error (List Fragment × Context))
  | [], c => some (.ok ([], c))
  | (seg, s) :: rest, c => thenOk (compileRule reg s none (c.enter seg)) fun (f, c') =>
    thenOk (compileHeld reg rest { c' with label := c.label }) fun (fs, c'') =>
      some (.ok (f :: fs, c''))

@[simp] theorem Context.enter_mode (c : Context) (seg : Option Segment) :
    (c.enter seg).mode = c.mode := by
  cases seg <;> rfl

@[simp] theorem Context.enter_label (c : Context) (seg : Option Segment) :
    (c.enter seg).label = c.label ++ seg.toList := by
  cases seg <;> simp

@[simp] theorem Context.enter_table (c : Context) (seg : Option Segment) :
    (c.enter seg).table = c.table := by
  cases seg <;> rfl

section Held

variable {reg : Registry}

theorem compileFields_eq_compileHeld (props : List (String × Schema)) (c : Context) :
    compileFields reg props c =
      thenOk (compileHeld reg (props.map fun (k, s) => (some (.key k), s)) c) fun (fs, c') =>
        some (.ok ((props.map (·.1)).zip fs, c')) := by
  induction props generalizing c with
  | nil => rfl
  | cons p rest ih =>
    obtain ⟨key, s⟩ := p
    simp only [compileFields, compileHeld, List.map_cons, thenOk_assoc]
    apply thenOk_congr
    rintro ⟨f, c'⟩ -
    simp only [ih, thenOk_assoc]
    apply thenOk_congr
    rintro ⟨fs, c''⟩ -
    rfl

theorem compileSteps_eq_compileHeld (steps : List Schema) (c : Context) :
    compileSteps reg steps c = compileHeld reg (steps.map ((none, ·))) c := by
  induction steps generalizing c with
  | nil => rfl
  | cons s rest ih =>
    simp only [compileSteps, compileHeld, List.map_cons, Context.enter_none]
    apply thenOk_congr
    rintro ⟨f, c'⟩ hf
    -- a step leaves the label as it found it
    have hl : c'.label = c.label := (compileRule_extends hf).2.2.1
    rw [ih, ← hl]

theorem compileHeld_items (s : Schema) (c : Context) :
    compileHeld reg [(some .items, s)] c =
      thenOk (compileRule reg s none (c.enter (some .items))) fun (f, c') =>
        some (.ok ([f], { c' with label := c.label })) := by
  simp only [compileHeld]
  apply thenOk_congr
  rintro ⟨f, c'⟩ -
  rfl

end Held

/-! ### The built-in rules, one at a time -/

section Builtin

variable {d : Descriptor} (ctx : Context)

/-- What a built-in rule compiler does: it checks its node's options, compiles the schemas the
node holds, in order, and ends in a body over their fragments, registering nothing of its
own. -/
def RunsAsChecked (comp : RuleCompiler) (d : Descriptor) (ctx : Context) : Prop :=
  ∃ body : List Fragment → Step, runRequests Registry.builtins (comp d) ctx =
    thenOk (some (d.ruleChecks ctx.mode)) fun held =>
      thenOk (compileHeld Registry.builtins held ctx) fun (fs, c) =>
        some (.ok (⟨ctx.mode, body fs⟩, c))

theorem runRequests_leafRule {α : Type} (reg : Registry) (x : Except Error α)
    (step : α → Step) :
    runRequests reg (Emit.ofExcept x >>= fun a => Emit.leaf (step a)) ctx =
      thenOk (some x) fun a => some (.ok (⟨ctx.mode, step a⟩, ctx)) := by
  simp only [runRequests_bind, runRequests_ofExcept]
  cases x <;> simp [Except.map]

theorem runsAsChecked_leaf {α : Type} {comp : RuleCompiler} (x : Except Error α)
    (step : α → Step) (hcomp : comp d = (Emit.ofExcept x >>= fun a => Emit.leaf (step a)))
    (hchecks : d.ruleChecks ctx.mode = x.map fun _ => []) : RunsAsChecked comp d ctx := by
  rw [RunsAsChecked, hcomp, runRequests_leafRule, hchecks]
  rcases x with e | a
  · exact ⟨fun _ => Step.identity, rfl⟩
  · exact ⟨fun _ => step a, rfl⟩

theorem runsAsChecked_any (hrule : d.rule = "any") : RunsAsChecked Rule.any d ctx := by
  refine ⟨fun _ => Step.identity, ?_⟩
  have hchecks : d.ruleChecks ctx.mode = .ok [] := by
    simp [Descriptor.ruleChecks, hrule]
  simp [Rule.any, Emit.identity, hchecks, compileHeld]

theorem runsAsChecked_custom (hrule : d.rule = "custom") : RunsAsChecked Rule.custom d ctx := by
  unfold RunsAsChecked Rule.custom
  simp only [Descriptor.ruleChecks, hrule, runRequests_bind, runRequests_ofExcept]
  rcases d.check "check" with e | _ | c
  · exact ⟨fun _ => Step.identity, rfl⟩
  · exact ⟨fun _ => Step.identity, by simp [Except.map, bind, Except.bind, throw, throwThe,
      MonadExceptOf.throw]⟩
  · refine ⟨fun _ => c.step, ?_⟩
    rcases c with ⟨_ | _, step⟩ <;> rcases ctx with ⟨_ | _, label, table⟩ <;>
      simp [Except.map, bind, Except.bind, throw, throwThe, MonadExceptOf.throw, pure,
        Except.pure, compileHeld, Emit.mode, Emit.bind]

theorem runsAsChecked_pipe (hrule : d.rule = "pipe") : RunsAsChecked Rule.pipe d ctx := by
  have hchecks : d.ruleChecks ctx.mode = (d.sequence "steps").map
      fun steps => (steps.getD []).map ((none, ·)) := by
    simp [Descriptor.ruleChecks, Descriptor.held, hrule]
  refine ⟨fun fs => Rule.pipeStep (fs.map (·.step)), ?_⟩
  rw [hchecks]
  rcases hseq : d.sequence "steps" with e | _ | steps
  · rw [runRequests_pipe_of_error ctx hseq]
    rfl
  · rw [runRequests_pipe_of_none ctx hseq]
    rfl
  · rw [runRequests_pipe_of_steps ctx hseq, compileSteps_eq_compileHeld]
    rfl

theorem runsAsChecked_array (hrule : d.rule = "array") : RunsAsChecked Rule.array d ctx := by
  have hchecks : d.ruleChecks ctx.mode = (do
      let _ ← Rule.Bounds.ofDescriptor d
      (d.schema "items").map fun items => items.toList.map ((some .items, ·))) := by
    simp [Descriptor.ruleChecks, Descriptor.held, hrule]
  rw [RunsAsChecked, runRequests_array, hchecks]
  rcases Rule.Bounds.ofDescriptor d with e | bounds
  · exact ⟨fun _ => Step.identity, rfl⟩
  refine ⟨fun fs => Rule.arrayStep bounds (fs.head?.map (·.step)), ?_⟩
  rcases hitems : d.schema "items" with e | _ | s
  · rfl
  · rfl
  · simp only [thenOk_ok, bind, Except.bind, Except.map, Option.toList_some, List.map_cons,
      List.map_nil, compileHeld_items, thenOk_assoc]
    apply thenOk_congr
    rintro ⟨f, c⟩ -
    rfl

theorem runsAsChecked_object (hrule : d.rule = "object") : RunsAsChecked Rule.object d ctx := by
  have hchecks : d.ruleChecks ctx.mode = (do
      let held ← d.objectProps.map fun props => props.map fun (k, s) => (some (.key k), s)
      let _ ← Rule.Strictness.ofDescriptor d
      return held) := by
    simp [Descriptor.ruleChecks, Descriptor.held, hrule]
  rw [RunsAsChecked, runRequests_object, hchecks]
  rcases d.objectProps with e | props
  · exact ⟨fun _ => Step.identity, rfl⟩
  rcases Rule.Strictness.ofDescriptor d with e | strictness
  · exact ⟨fun _ => Step.identity, rfl⟩
  refine ⟨fun fs => Rule.objectStep (((props.map (·.1)).zip fs).map fun p => (p.1, p.2.step))
    strictness, ?_⟩
  simp only [thenOk_ok, Except.map, bind, Except.bind, pure, Except.pure,
    compileFields_eq_compileHeld, thenOk_assoc]

/-- Every built-in rule compiler runs as its node's checks say. -/
theorem runsAsChecked_builtin {comp : RuleCompiler}
    (hc : Registry.builtins.get? d.rule = some comp) : RunsAsChecked comp d ctx := by
  rcases Registry.get?_builtins_cases hc with
    ⟨hrule, rfl⟩ | ⟨hrule, rfl⟩ | ⟨hrule, rfl⟩ | ⟨hrule, rfl⟩ | ⟨hrule, rfl⟩ |
      ⟨hrule, rfl⟩ | ⟨hrule, rfl⟩ | ⟨hrule, rfl⟩
  · exact runsAsChecked_any ctx hrule
  · exact runsAsChecked_array ctx hrule
  · exact runsAsChecked_leaf ctx _ Rule.booleanStep rfl (by simp [Descriptor.ruleChecks, hrule])
  · exact runsAsChecked_custom ctx hrule
  · exact runsAsChecked_leaf ctx _ Rule.NumberRule.step rfl
      (by simp [Descriptor.ruleChecks, hrule])
  · exact runsAsChecked_object ctx hrule
  · exact runsAsChecked_pipe ctx hrule
  · exact runsAsChecked_leaf ctx _ Rule.TextRule.step rfl (by simp [Descriptor.ruleChecks, hrule])

end Builtin

/-! ### Compilations follow the walk -/

def Context.Appends (ctx : Context) (bs : List Fragment) (c : Context) : Prop :=
  c.mode = ctx.mode ∧ c.label = ctx.label ∧ c.table.toList = ctx.table.toList ++ bs

/-- What the walk says of compiling a schema by the built-in rules, with no continuation, in a
context: the fault the walk from the context's label stops at is the compilation's error, and
the count it ends with is the number of bodies the compilation lays out after the table, as
`Laid` says. -/
def Schema.CompilesAsWalked (s : Schema) (ctx : Context) : Prop :=
  (∀ label e, s.walk ctx.mode ctx.label = .error (label, e) →
    compileRule Registry.builtins s none ctx = some (.error e)) ∧
  (∀ k, s.walk ctx.mode ctx.label = .ok k → ∃ f c bs,
    compileRule Registry.builtins s none ctx = some (.ok (f, c)) ∧ ctx.Appends bs c ∧
      bs.length = k ∧ Laid ctx.mode ctx.label [(none, s)] [f] bs)

theorem compileHeld_walk {held : List (Option Segment × Schema)}
    (ih : ∀ q ∈ held, ∀ c, q.2.CompilesAsWalked c) (ctx : Context) :
    (∀ label e, (held.mapM fun (sc : Option Segment × Schema) =>
        sc.2.walk ctx.mode (ctx.label ++ sc.1.toList)) = .error (label, e) →
      compileHeld Registry.builtins held ctx = some (.error e)) ∧
    (∀ ks, (held.mapM fun (sc : Option Segment × Schema) =>
        sc.2.walk ctx.mode (ctx.label ++ sc.1.toList)) = .ok ks →
      ∃ fs c bs, compileHeld Registry.builtins held ctx = some (.ok (fs, c)) ∧
        ctx.Appends bs c ∧ bs.length = ks.sum ∧ Laid ctx.mode ctx.label held fs bs) := by
  induction held generalizing ctx with
  | nil =>
    refine ⟨fun label e h => (by cases h), fun ks h => ?_⟩
    cases h
    exact ⟨[], ctx, [], rfl, ⟨rfl, rfl, by simp⟩, rfl, .nil _⟩
  | cons q rest ihrest =>
    obtain ⟨seg, s⟩ := q
    -- the first schema compiles one segment deeper, as walked there
    have hs := ih (seg, s) List.mem_cons_self (ctx.enter seg)
    simp only [Schema.CompilesAsWalked, Context.enter_mode, Context.enter_label] at hs
    have ihrest' := fun c => ihrest (fun q hq => ih q (List.mem_cons_of_mem _ hq)) c
    simp only [List.mapM_cons]
    rcases hw : s.walk ctx.mode (ctx.label ++ seg.toList) with ⟨label, e⟩ | k
    · have hc := hs.1 label e hw
      refine ⟨fun label' e' h => ?_, fun ks h => by cases h⟩
      cases h
      simp [compileHeld, hc]
    obtain ⟨f, c₁, bs₁, hc₁, ⟨hm₁, hl₁, ht₁⟩, hlen₁, hlaid₁⟩ := hs.2 k hw
    -- the rest compiles from where the first left, the node's label put back
    have hr := ihrest' { c₁ with label := ctx.label }
    simp only [hm₁, Context.enter_mode] at hr
    rcases hwr : rest.mapM (fun (sc : Option Segment × Schema) =>
        sc.2.walk ctx.mode (ctx.label ++ sc.1.toList)) with ⟨label, e⟩ | ks
    · have hcr := hr.1 label e hwr
      refine ⟨fun label' e' h => ?_, fun ks h => by simp [bind, Except.bind] at h⟩
      simp only [bind, Except.bind] at h
      cases h
      simp [compileHeld, hc₁, hcr, hm₁]
    obtain ⟨fs, c₂, bs₂, hc₂, ⟨hm₂, hl₂, ht₂⟩, hlen₂, hlaid₂⟩ := hr.2 ks hwr
    refine ⟨fun label' e' h => by simp [bind, Except.bind, pure, Except.pure] at h,
      fun ks' h => ?_⟩
    simp only [bind, Except.bind, pure, Except.pure, Except.ok.injEq] at h
    subst h
    refine ⟨f :: fs, c₂, bs₁ ++ bs₂, by simp [compileHeld, hc₁, hc₂, hm₁],
      ⟨?_, ?_, ?_⟩, ?_, Laid.shift hlaid₁ hlaid₂⟩
    · exact hm₂
    · exact hl₂
    · simp only at ht₂
      rw [ht₂, ht₁, Context.enter_table, List.append_assoc]
    · simp [hlen₁, hlen₂]

theorem Schema.compilesAsWalked_of_fault {s : Schema} {ctx : Context} {e : Error}
    (hown : s.ownChecks ctx.mode ctx.label = .error e)
    (hc : compileRule Registry.builtins s none ctx = some (.error e)) : s.CompilesAsWalked ctx := by
  rw [Schema.CompilesAsWalked, Schema.walk_eq, hown]
  exact ⟨fun _ _ h => (by cases h; exact hc), fun _ h => by cases h⟩

theorem Schema.compilesAsWalked_of_node {s : Schema} {ctx : Context} {d : Descriptor}
    {comp : RuleCompiler} {p : Presence}
    (hres : Registry.builtins.resolve s (renderPath ctx.label) = .ok (d, comp))
    (hnode : s.builtinNode (renderPath ctx.label) = .ok d) (hp : Presence.ofDescriptor d = .ok p)
    (hrun : RunsAsChecked comp d ctx)
    (ih : ∀ t : Schema, t.weight < s.weight → ∀ c, t.CompilesAsWalked c) :
    s.CompilesAsWalked ctx := by
  obtain ⟨body, hrun⟩ := hrun
  rcases hrc : d.ruleChecks ctx.mode with e | held
  · -- an option of the rule does not read
    refine Schema.compilesAsWalked_of_fault (e := e)
      (by simp [Schema.ownChecks, hnode, hp, hrc, bind, Except.bind]) ?_
    rw [compileRule_of_resolve hres hp, hrun, hrc]
    rfl
  have hown : s.ownChecks ctx.mode ctx.label = .ok (p, held) := by
    simp [Schema.ownChecks, hnode, hp, hrc, bind, Except.bind, pure, Except.pure]
  have hheld := compileHeld_walk
    (fun q hq c => ih q.2 (Schema.ownChecks_weight hown q hq) c) ctx
  rw [Schema.CompilesAsWalked, Schema.walk_eq, compileRule_of_resolve hres hp, hrun, hrc]
  simp only [hown, thenOk_ok, thenOk_assoc]
  rcases hws : held.mapM (fun (sc : Option Segment × Schema) =>
      sc.2.walk ctx.mode (ctx.label ++ sc.1.toList)) with ⟨label, e⟩ | ks
  · -- a schema the node holds is faulty
    refine ⟨fun label' e' h => ?_, fun _ h => by cases h⟩
    cases h
    rw [hheld.1 label e hws, thenOk_error]
  obtain ⟨fs, c, bs, hc, ⟨hm, hl, ht⟩, hlen, hlaid⟩ := hheld.2 ks hws
  refine ⟨fun _ _ h => (by cases h), fun k h => ?_⟩
  cases h
  -- the node's body is registered after the bodies of the schemas it holds
  refine ⟨⟨ctx.mode, frameStep p (body fs) none⟩,
    { c with table := c.table.push ⟨ctx.mode, body fs⟩ }, bs ++ [⟨ctx.mode, body fs⟩], ?_,
    ⟨hm, hl, by simp [ht]⟩, by simp [hlen], ?_⟩
  · rw [hc, thenOk_ok]
    exact congrArg some (closeRule_of_step (by simp))
  · have hown' : s.ownChecks ctx.mode (ctx.label ++ (none : Option Segment).toList) =
        .ok (p, held) := by simpa using hown
    have hlaid' : Laid ctx.mode (ctx.label ++ (none : Option Segment).toList) held fs bs := by
      simpa using hlaid
    exact @Laid.cons _ _ _ _ _ _ _ ⟨ctx.mode, body fs⟩ _ _ _ _ hown' hlaid' (.nil _)

/-- Every compilation by the built-in rules, with no continuation and in any context, goes as the
walk from the context's label. -/
theorem Schema.compilesAsWalked :
    ∀ n (s : Schema), s.weight < n → ∀ ctx, s.CompilesAsWalked ctx
  | 0, _, hw, _ => absurd hw (Nat.not_lt_zero _)
  | n + 1, s, hw, ctx => by
    -- induction on the size of the schema: the schemas a node holds are smaller
    have ih : ∀ t : Schema, t.weight < s.weight → ∀ c, t.CompilesAsWalked c :=
      fun t ht c => Schema.compilesAsWalked n t (by omega) c
    -- a node is refused before its rule runs: its shorthand, its tag, then its presence
    rcases hnorm : Registry.normalize s (renderPath ctx.label) with e | d
    · exact Schema.compilesAsWalked_of_fault (e := e)
        (by simp [Schema.ownChecks, Schema.builtinNode, hnorm, bind, Except.bind])
        (compileRule_of_unresolved (by simp [Registry.resolve, hnorm, bind, Except.bind]))
    rcases hget : Registry.builtins.get? d.rule with _ | comp
    · exact Schema.compilesAsWalked_of_fault (e := .unknownRule d.rule (renderPath ctx.label))
        (by simp [Schema.ownChecks, Schema.builtinNode, hnorm, Registry.contains, hget, bind,
          Except.bind, throw, throwThe, MonadExceptOf.throw])
        (compileRule_of_unresolved (by simp [Registry.resolve, hnorm, hget, bind, Except.bind]))
    have hres : Registry.builtins.resolve s (renderPath ctx.label) = .ok (d, comp) := by
      simp [Registry.resolve, hnorm, hget, bind, Except.bind]
    have hnode : s.builtinNode (renderPath ctx.label) = .ok d := by
      simp [Schema.builtinNode, hnorm, Registry.contains, hget, bind, Except.bind, pure,
        Except.pure]
    rcases hp : Presence.ofDescriptor d with e | p
    · exact Schema.compilesAsWalked_of_fault (e := e)
        (by simp [Schema.ownChecks, hnode, hp, bind, Except.bind])
        (compileRule_of_presence_error hres hp)
    exact Schema.compilesAsWalked_of_node hres hnode hp (runsAsChecked_builtin ctx hget) ih

end Conform
