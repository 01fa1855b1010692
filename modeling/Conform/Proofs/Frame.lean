import Conform.Proofs.Compilation
import Conform.Rule.Builtin
/-! The frame every compiled rule runs in. Proved: for a rule of any registry, user rule
compilers included, the fragment a compilation returns runs its body only on a present value or
for a `pipe` without presence options; a null value takes the raw `default`, else stays null for
a true `optional` or `nullable`, else is reported `required` once at the current path; the
continuation runs on the body's output exactly when the body reported nothing. The presence
options are read in the order `default`, `optional`, `nullable`, and reading stops at the first
that decides: a non-boolean `optional` is refused unless a raw `default` is there, and a
non-boolean `nullable` unless a raw `default` or a true `optional` is. -/

namespace Conform

/-! ### The step of a frame -/

section FrameStep

variable (body : Step) (next : Option Step) (s : Scope)

/-- What a frame does after the body, or in its place: the continuation, if any, on a value. -/
def proceedWith (next : Option Step) (w : Json) (s : Scope) : Json × List Record :=
  match next with
  | none => (w, [])
  | some k => k w s

@[simp] theorem frameStep_required_null :
    frameStep .required body next .null s = (.null, [s.record { kind := "required" }]) := rfl

@[simp] theorem frameStep_default_null (d : Json) :
    frameStep (.withDefault d) body next .null s = proceedWith next d s := by
  cases next <;> rfl

@[simp] theorem frameStep_optional_null :
    frameStep .optional body next .null s = proceedWith next .null s := by
  cases next <;> rfl

/-- What a frame does with its body's result: the continuation on the body's output when the
body reported nothing, else the body's result as it is. -/
def afterBody (next : Option Step) (r : Json × List Record) (s : Scope) : Json × List Record :=
  match r with
  | (w, []) => proceedWith next w s
  | r => r

theorem frameStep_present (p : Presence) {v : Json} (hv : v ≠ .null) :
    frameStep p body next v s = afterBody next (body v s) s := by
  unfold frameStep
  cases p <;> cases v <;> first | exact absurd rfl hv | rfl

theorem frameStep_delegated (v : Json) :
    frameStep .delegated body next v s = afterBody next (body v s) s := by
  unfold frameStep
  cases v <;> rfl

theorem frameStep_delegated_eq :
    frameStep .delegated body next = fun v s => afterBody next (body v s) s := by
  funext v s
  exact frameStep_delegated body next s v

theorem frameStep_delegated_none : frameStep .delegated body none = body := by
  funext v s
  rw [frameStep_delegated]
  rcases body v s with ⟨w, _ | _⟩ <;> rfl

end FrameStep

theorem frame_none (m : Mode) (p : Presence) (body : Fragment) :
    frame m p body none = .ok ⟨m, frameStep p body.step none⟩ := rfl

theorem Fragment.lift_eq_ok {f g : Fragment} {m : Mode} (h : f.lift m = .ok g) :
    g = { f with mode := m } := by
  unfold Fragment.lift at h
  split at h <;> cases h
  rfl

theorem frame_some {m : Mode} {p : Presence} {body k k' : Fragment} (hk : k.lift m = .ok k') :
    frame m p body (some k) = .ok ⟨m, frameStep p body.step (some k.step)⟩ := by
  rw [Fragment.lift_eq_ok hk] at hk
  simp [frame, hk, bind, Except.bind, Functor.map, Except.map, pure, Except.pure]

theorem frame_eq_ok {m : Mode} {p : Presence} {body f : Fragment} {next : Option Fragment}
    (h : frame m p body next = .ok f) :
    f = ⟨m, frameStep p body.step (next.map (·.step))⟩ := by
  cases next with
  | none => rw [frame_none] at h; cases h; rfl
  | some k =>
    cases hk : k.lift m with
    | error e => simp [frame, hk, bind, Except.bind, Functor.map, Except.map] at h
    | ok k' => rw [frame_some hk] at h; cases h; rfl

/-! ### Reading the presence options -/

section Presence

variable {d : Descriptor}

theorem Descriptor.flag_of_none {key : String} (h : d.option? key = none) :
    d.flag key = .ok false := by
  simp [Descriptor.flag, Descriptor.optionalFlag, h, bind, Except.bind, pure, Except.pure]

theorem Descriptor.flag_of_bool {key : String} {b : Bool}
    (h : d.option? key = some (.value (.bool b))) :
    d.flag key = .ok b := by
  simp [Descriptor.flag, Descriptor.optionalFlag, h, bind, Except.bind, pure, Except.pure]

theorem Descriptor.flag_of_other {key : String} {o : Opt} (h : d.option? key = some o)
    (hb : ∀ b, o ≠ .value (.bool b)) :
    d.flag key = .error (d.invalid key "expected a boolean") := by
  have hopt : d.optionalFlag key = .error (d.invalid key "expected a boolean") := by
    unfold Descriptor.optionalFlag
    rw [h]
    rcases o with v | _ | _ | _ | _
    · cases v
      case bool b => exact absurd rfl (hb b)
      all_goals rfl
    all_goals rfl
  simp [Descriptor.flag, hopt, bind, Except.bind]

/-- A flag that is absent or a boolean `false`. -/
def Descriptor.FlagOff (d : Descriptor) (key : String) : Prop :=
  d.option? key = none ∨ d.option? key = some (.value (.bool false))

theorem Descriptor.flag_of_off {key : String} (h : d.FlagOff key) : d.flag key = .ok false := by
  rcases h with h | h
  · exact Descriptor.flag_of_none h
  · exact Descriptor.flag_of_bool h

theorem Descriptor.option_of_flag_true {key : String} (h : d.flag key = .ok true) :
    d.option? key = some (.value (.bool true)) := by
  unfold Descriptor.flag Descriptor.optionalFlag at h
  split at h <;> simp_all [bind, Except.bind, pure, Except.pure]

theorem presence_of_default {v : Json} (h : d.value? "default" = some v) :
    Presence.ofDescriptor d = .ok (.withDefault v) := by
  simp [Presence.ofDescriptor, h, pure, Except.pure]

theorem presence_of_no_default (h : d.value? "default" = none) :
    Presence.ofDescriptor d = (do
      if ← d.flag "optional" then return .optional
      if ← d.flag "nullable" then return .optional
      if d.rule = "pipe" then return .delegated
      return .required) := by
  simp only [Presence.ofDescriptor, h]

theorem presence_optional_error (h : d.value? "default" = none) {o : Opt}
    (ho : d.option? "optional" = some o) (hb : ∀ b, o ≠ .value (.bool b)) :
    Presence.ofDescriptor d = .error (d.invalid "optional" "expected a boolean") := by
  rw [presence_of_no_default h, Descriptor.flag_of_other ho hb]
  rfl

theorem presence_nullable_error (h : d.value? "default" = none) (ho : d.flag "optional" = .ok false)
    {o : Opt} (hn : d.option? "nullable" = some o) (hb : ∀ b, o ≠ .value (.bool b)) :
    Presence.ofDescriptor d = .error (d.invalid "nullable" "expected a boolean") := by
  rw [presence_of_no_default h, ho, Descriptor.flag_of_other hn hb]
  rfl

theorem presence_of_optional (h : d.value? "default" = none) (ho : d.flag "optional" = .ok true) :
    Presence.ofDescriptor d = .ok .optional := by
  rw [presence_of_no_default h, ho]
  rfl

theorem presence_of_nullable (h : d.value? "default" = none) (ho : d.flag "optional" = .ok false)
    (hn : d.flag "nullable" = .ok true) : Presence.ofDescriptor d = .ok .optional := by
  rw [presence_of_no_default h, ho, hn]
  rfl

theorem presence_of_flags_off (h : d.value? "default" = none) (ho : d.flag "optional" = .ok false)
    (hn : d.flag "nullable" = .ok false) :
    Presence.ofDescriptor d = .ok (if d.rule = "pipe" then .delegated else .required) := by
  rw [presence_of_no_default h, ho, hn]
  by_cases hp : d.rule = "pipe" <;> simp [hp, bind, Except.bind, pure, Except.pure]

end Presence

/-! ### The frame of a compiled rule -/

/-- The behaviour a frame promises, read off the node's options: a null value takes the raw
default, else stays null for a true `optional` or `nullable`, else is reported `required`
unless the rule is `pipe`; otherwise the body runs, and the continuation after it when it
reported nothing. -/
def FrameBehaves (d : Descriptor) (body : Step) (next : Option Step) (step : Step) : Prop :=
  (∀ s dv, d.value? "default" = some dv → step .null s = proceedWith next dv s) ∧
  (∀ s, d.value? "default" = none → (d.option? "optional" = some (.value (.bool true)) ∨
      d.option? "nullable" = some (.value (.bool true))) →
    step .null s = proceedWith next .null s) ∧
  (∀ s, d.value? "default" = none → d.option? "optional" ≠ some (.value (.bool true)) →
      d.option? "nullable" ≠ some (.value (.bool true)) → d.rule ≠ "pipe" →
    step .null s = (.null, [s.record { kind := "required" }])) ∧
  (∀ v s, (v ≠ .null ∨ d.value? "default" = none ∧
      d.option? "optional" ≠ some (.value (.bool true)) ∧
      d.option? "nullable" ≠ some (.value (.bool true)) ∧ d.rule = "pipe") →
    step v s = afterBody next (body v s) s)

section Behaves

variable {d : Descriptor} {p : Presence}

theorem flag_false_of_not_true {key : String} {b : Bool} (h : d.flag key = .ok b)
    (hn : d.option? key ≠ some (.value (.bool true))) : b = false := by
  cases b with
  | false => rfl
  | true => exact absurd (Descriptor.option_of_flag_true h) hn

theorem presence_optional_of_true (hp : Presence.ofDescriptor d = .ok p)
    (hd : d.value? "default" = none)
    (ht : d.option? "optional" = some (.value (.bool true)) ∨
      d.option? "nullable" = some (.value (.bool true))) : p = .optional := by
  -- the `optional` flag was read without error, since the presence was
  rcases ho : d.flag "optional" with e | _ | _
  · rw [presence_of_no_default hd, ho] at hp; cases hp
  · have hn : d.flag "nullable" = .ok true := by
      rcases ht with ht | ht
      · rw [Descriptor.flag_of_bool ht] at ho; cases ho
      · exact Descriptor.flag_of_bool ht
    rw [presence_of_nullable hd ho hn] at hp; cases hp; rfl
  · rw [presence_of_optional hd ho] at hp; cases hp; rfl

theorem presence_of_not_true (hp : Presence.ofDescriptor d = .ok p)
    (hd : d.value? "default" = none) (ho : d.option? "optional" ≠ some (.value (.bool true)))
    (hn : d.option? "nullable" ≠ some (.value (.bool true))) :
    p = if d.rule = "pipe" then .delegated else .required := by
  rcases hfo : d.flag "optional" with e | bo
  · rw [presence_of_no_default hd, hfo] at hp; cases hp
  rcases hfn : d.flag "nullable" with e | bn
  · rw [presence_of_no_default hd, hfo, flag_false_of_not_true hfo ho, hfn] at hp; cases hp
  rw [flag_false_of_not_true hfo ho] at hfo
  rw [flag_false_of_not_true hfn hn] at hfn
  rw [presence_of_flags_off hd hfo hfn] at hp
  cases hp
  rfl

/-- Every presence the options can give makes the frame behave as promised. -/
theorem frameStep_behaves (hp : Presence.ofDescriptor d = .ok p) (body : Step)
    (next : Option Step) : FrameBehaves d body next (frameStep p body next) := by
  refine ⟨fun s dv hdv => ?_, fun s hd ht => ?_, fun s hd ho hn hr => ?_, fun v s hv => ?_⟩
  · rw [presence_of_default hdv] at hp
    cases hp
    exact frameStep_default_null body next s dv
  · rw [presence_optional_of_true hp hd ht]
    exact frameStep_optional_null body next s
  · rw [presence_of_not_true hp hd ho hn, if_neg hr]
    exact frameStep_required_null body next s
  · rcases hv with hv | ⟨hd, ho, hn, hr⟩
    · exact frameStep_present body next s p hv
    · rw [presence_of_not_true hp hd ho hn, if_pos hr]
      exact frameStep_delegated body next s v

end Behaves

/-! ### A compiled rule -/

theorem closeRule_eq_ok {ctx ctx' ctx'' : Context} {p : Presence} {next : Option Fragment}
    {body f : Fragment} (h : closeRule ctx p next body ctx' = .ok (f, ctx'')) :
    f = ⟨ctx.mode, frameStep p body.step (next.map (·.step))⟩ ∧
      ctx'' = { ctx' with table := ctx'.table.push { body with mode := ctx.mode } } := by
  obtain ⟨b, hb, h⟩ := except_bind_eq_ok.mp h
  obtain ⟨framed, hf, h⟩ := except_bind_eq_ok.mp h
  cases h
  rw [Fragment.lift_eq_ok hb] at hf ⊢
  exact ⟨frame_eq_ok hf, rfl⟩

theorem closeBody_of_modes {m : Mode} {c : Context} {p : Presence} {next : Option Fragment}
    {body : Fragment} (hb : body.mode = m) (hk : ∀ k ∈ next, k.mode = m) :
    closeBody m p next body c =
      (.ok ⟨m, frameStep p body.step (next.map (·.step))⟩, { c with table := c.table.push body }) := by
  have hframe : frame m p body next = .ok ⟨m, frameStep p body.step (next.map (·.step))⟩ := by
    cases next with
    | none => exact frame_none m p body
    | some k =>
      have hlift : k.lift m = .ok k := by
        rw [← hk k rfl, Fragment.lift_self]
      exact frame_some hlift
  have hlift : body.lift m = .ok body := by
    rw [← hb, Fragment.lift_self]
  simp [closeBody, hlift, hframe]

theorem closeRule_of_modes {ctx c : Context} {p : Presence} {next : Option Fragment}
    {body : Fragment} (hb : body.mode = ctx.mode) (hk : ∀ k ∈ next, k.mode = ctx.mode) :
    closeRule ctx p next body c =
      .ok (⟨ctx.mode, frameStep p body.step (next.map (·.step))⟩,
        { c with table := c.table.push body }) := by
  rw [← withContext_closeBody, closeBody_of_modes hb hk, withContext_ok]

theorem closeRule_of_step {ctx c : Context} {p : Presence} {next : Option Fragment}
    {body : Step} (hk : ∀ k ∈ next, k.mode = ctx.mode) :
    closeRule ctx p next ⟨ctx.mode, body⟩ c =
      .ok (⟨ctx.mode, frameStep p body (next.map (·.step))⟩,
        { c with table := c.table.push ⟨ctx.mode, body⟩ }) :=
  closeRule_of_modes rfl hk

section Rule

variable {reg : Registry} {s : Schema} {next : Option Fragment} {ctx : Context}
  {d : Descriptor} {comp : RuleCompiler}

theorem compileRule_eq_ok (hr : reg.resolve s (renderPath ctx.label) = .ok (d, comp))
    {f : Fragment} {ctx' : Context} (h : compileRule reg s next ctx = some (.ok (f, ctx'))) :
    ∃ p body ctx₁, Presence.ofDescriptor d = .ok p ∧
      runRequests reg (comp d) ctx = some (.ok (body, ctx₁)) ∧
      f = ⟨ctx.mode, frameStep p body.step (next.map (·.step))⟩ ∧
      ctx' = { ctx₁ with table := ctx₁.table.push { body with mode := ctx.mode } } := by
  rcases hp : Presence.ofDescriptor d with e | p
  · rw [compileRule_of_presence_error hr hp] at h
    cases h
  · rw [compileRule_of_resolve hr hp, thenOk_eq_ok] at h
    obtain ⟨⟨body, ctx₁⟩, hrun, hclose⟩ := h
    obtain ⟨hf, hctx⟩ := closeRule_eq_ok (Option.some.inj hclose)
    exact ⟨p, body, ctx₁, rfl, hrun, hf, hctx⟩

/-- The frame of every compiled rule: a compile that ends well returns its compiler's body, framed
as its options promise. -/
theorem compileRule_frames_body (hr : reg.resolve s (renderPath ctx.label) = .ok (d, comp)) :
    (d.value? "default" = none → ∀ o, d.option? "optional" = some o →
      (∀ b, o ≠ .value (.bool b)) →
      compileRule reg s next ctx = some (.error (d.invalid "optional" "expected a boolean"))) ∧
    (d.value? "default" = none → d.FlagOff "optional" →
      ∀ o, d.option? "nullable" = some o → (∀ b, o ≠ .value (.bool b)) →
      compileRule reg s next ctx = some (.error (d.invalid "nullable" "expected a boolean"))) ∧
    (∀ f ctx', compileRule reg s next ctx = some (.ok (f, ctx')) →
      ∃ body ctx₁, runRequests reg (comp d) ctx = some (.ok (body, ctx₁)) ∧
        ctx' = { ctx₁ with table := ctx₁.table.push { body with mode := ctx.mode } } ∧
        f.mode = ctx.mode ∧ FrameBehaves d body.step (next.map (·.step)) f.step) := by
  refine ⟨fun hd o ho hb => ?_, fun hd hfo o hn hb => ?_, fun f ctx' h => ?_⟩
  · exact compileRule_of_presence_error hr (presence_optional_error hd ho hb)
  · -- an absent or false `optional` reads as false, so `nullable` is read next
    exact compileRule_of_presence_error hr
      (presence_nullable_error hd (Descriptor.flag_of_off hfo) hn hb)
  · obtain ⟨p, body, ctx₁, hp, hrun, rfl, hctx⟩ := compileRule_eq_ok hr h
    exact ⟨body, ctx₁, hrun, hctx, rfl, frameStep_behaves hp body.step _⟩

end Rule

/-- The frame at a required `number` of the built-in registry. -/
theorem compileRule_frames_number :
    Registry.builtins.resolve (.node "number" []) (renderPath ([] : List Segment)) =
      .ok (⟨{ rule := "number" }, ""⟩, Rule.number) ∧
    ∀ f ctx', compileRule Registry.builtins (.node "number" []) none { mode := .sync } =
        some (.ok (f, ctx')) →
      ∃ body ctx₁, runRequests Registry.builtins (Rule.number ⟨{ rule := "number" }, ""⟩)
          { mode := .sync } = some (.ok (body, ctx₁)) ∧
        ctx' = { ctx₁ with table := ctx₁.table.push { body with mode := .sync } } ∧
        f.mode = .sync ∧ FrameBehaves ⟨{ rule := "number" }, ""⟩ body.step none f.step :=
  ⟨rfl, (compileRule_frames_body rfl).2.2⟩

/-- A non-boolean `optional` beside a raw `default`, and a non-boolean `nullable` beside a true
`optional`, are never read: both rules compile. -/
theorem compileRule_skips_unread_flags :
    compileRule Registry.builtins
        (.node "any" [("default", .value (.str "x")), ("optional", .value (.str "yes"))]) none
        { mode := .sync } =
      some (.ok (⟨.sync, frameStep (.withDefault (.str "x")) Step.identity none⟩,
        { mode := .sync, table := #[⟨.sync, Step.identity⟩] })) ∧
    compileRule Registry.builtins
        (.node "any" [("nullable", .value (.str "yes")), ("optional", .value (.bool true))]) none
        { mode := .sync } =
      some (.ok (⟨.sync, frameStep .optional Step.identity none⟩,
        { mode := .sync, table := #[⟨.sync, Step.identity⟩] })) := by
  constructor
  · rw [compileRule_of_resolve rfl (presence_of_default rfl)]
    simp [Rule.any, Emit.identity, closeRule, frame_none, Fragment.lift, bind, Except.bind, pure,
      Except.pure]
  · rw [compileRule_of_resolve rfl (presence_of_optional rfl (Descriptor.flag_of_bool rfl))]
    simp [Rule.any, Emit.identity, closeRule, frame_none, Fragment.lift, bind, Except.bind, pure,
      Except.pure]

end Conform
