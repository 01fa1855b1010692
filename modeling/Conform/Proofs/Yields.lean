import Conform.Proofs.Frame
/-! What a rule compiler yields. A rule compiler is a program of requests; what it ends with
depends on what the nested compilations it asks for answer. `Yields Pre Post R prog` says that
`prog` ends, if it ends, with a result meeting `R` whenever every nested compilation it asks
for is asked with a request meeting `Pre` and answers with a fragment meeting `Post` or with an
error: a program logic for rule compilers, with rules for each request, for sequencing and for
loops.
Proved: when every rule compiler of a registry yields, for a schema whose request meets `Pre`,
a body that its frame turns into a fragment meeting `Post`, every compilation asked with a
request meeting `Pre` that ends with a fragment ends with one meeting `Post`. -/

namespace Conform

namespace Emit

variable (Pre : Schema → Option Fragment → Prop) (Post : Schema → Fragment → Prop)

/-- `prog` ends, if it ends, with a result meeting `R`, provided each nested compilation it asks
for is asked with a request meeting `Pre` and answers with a fragment meeting `Post`, or fails. -/
inductive Yields : {α : Type} → (α → Prop) → Emit α → Prop
  | pure {α} {R : α → Prop} {a : α} : R a → Yields R (.pure a)
  | fail {α} {R : α → Prop} (e : Error) : Yields R (.fail e)
  | context {α} {R : α → Prop} {k : Context → Emit α} :
      (∀ c, Yields R (k c)) → Yields R (.context k)
  | register {α} {R : α → Prop} {f : Fragment} {k : Nat → Emit α} :
      (∀ i, Yields R (k i)) → Yields R (.register f k)
  | nested {α} {R : α → Prop} {seg : Option Segment} {s : Schema} {next : Option Fragment}
      {k : Except Error Fragment → Emit α} :
      Pre s next → (∀ f, Post s f → Yields R (k (.ok f))) → (∀ e, Yields R (k (.error e))) →
        Yields R (.nested seg s next k)

variable {Pre Post} {α β : Type}

theorem Yields.mono {R R' : α → Prop} {x : Emit α} (h : Yields Pre Post R x)
    (hR : ∀ a, R a → R' a) : Yields Pre Post R' x := by
  induction h with
  | pure ha => exact .pure (hR _ ha)
  | fail e => exact .fail e
  | context _ ih => exact .context ih
  | register _ ih => exact .register ih
  | nested hpre _ _ ih ih' => exact .nested hpre ih ih'

theorem Yields.bind {R : α → Prop} {R' : β → Prop} {x : Emit α} {f : α → Emit β}
    (h : Yields Pre Post R x) (hf : ∀ a, R a → Yields Pre Post R' (f a)) :
    Yields Pre Post R' (x >>= f) := by
  induction h with
  | pure ha => exact hf _ ha
  | fail e => exact .fail e
  | context _ ih => exact .context ih
  | register _ ih => exact .register ih
  | nested hpre _ _ ih ih' => exact .nested hpre ih ih'

theorem Yields.map {R : α → Prop} {x : Emit α} (f : α → β) (h : Yields Pre Post R x) :
    Yields Pre Post (fun b => ∃ a, R a ∧ b = f a) (f <$> x) :=
  show Yields Pre Post _ (x >>= fun a => Pure.pure (f a)) from
    h.bind fun a ha => .pure ⟨a, ha, rfl⟩

theorem Yields.ofExcept (x : Except Error α) :
    Yields Pre Post (fun a => x = .ok a) (Emit.ofExcept x) := by
  cases x with
  | error e => exact .fail e
  | ok a => exact .pure rfl

theorem Yields.mode : Yields Pre Post (fun _ => True) Emit.mode :=
  .context fun _ => .pure trivial

theorem Yields.leaf (step : Step) : Yields Pre Post (fun f => f.step = step) (Emit.leaf step) :=
  .context fun _ => .pure rfl

theorem Yields.stage (f : Fragment) : Yields Pre Post (fun g => g = f.step) (Emit.stage f) := by
  refine Yields.bind Yields.mode fun m _ => Yields.bind (Yields.ofExcept _) fun g hg => ?_
  exact .pure (by rw [Fragment.lift_eq_ok hg])

theorem Yields.compileNested {seg : Option Segment} {s : Schema} {next : Option Fragment}
    (hpre : Pre s next) : Yields Pre Post (Post s) (Emit.compileNested seg s next) :=
  .nested hpre (fun _ hf => .pure hf) fun e => .fail e

/-- A loop keeps an invariant of its accumulator when each run of its body on an element of the
list does. -/
theorem Yields.forIn {σ : Type} (I : σ → Prop) {xs : List β} {acc : σ}
    {body : β → σ → Emit (ForInStep σ)} (hacc : I acc)
    (hbody : ∀ x ∈ xs, ∀ a, I a → Yields Pre Post (fun r => ∃ b, r = .yield b ∧ I b) (body x a)) :
    Yields Pre Post I (forIn xs acc body) := by
  induction xs generalizing acc with
  | nil => exact .pure hacc
  | cons x xs ih =>
    rw [List.forIn_cons]
    refine Yields.bind (hbody x List.mem_cons_self acc hacc) ?_
    rintro _ ⟨b, rfl, hb⟩
    exact ih hb fun y hy => hbody y (List.mem_cons_of_mem _ hy)

/-- A loop that appends one element per run of its body, each meeting `Q`, ends with a list all
of whose elements meet `Q`. -/
theorem Yields.forIn_all {γ : Type} (Q : γ → Prop) {xs : List β} {acc : List γ}
    {body : β → List γ → Emit (ForInStep (List γ))} (hacc : ∀ y ∈ acc, Q y)
    (hbody : ∀ x ∈ xs, ∀ a, Yields Pre Post (fun r => ∃ y, r = .yield (a ++ [y]) ∧ Q y) (body x a)) :
    Yields Pre Post (fun ys => ∀ y ∈ ys, Q y) (ForIn.forIn xs acc body) := by
  refine Yields.forIn (fun ys => ∀ y ∈ ys, Q y) hacc fun x hx a ha => ?_
  refine (hbody x hx a).mono ?_
  rintro _ ⟨y, rfl, hy⟩
  refine ⟨a ++ [y], rfl, fun z hz => ?_⟩
  rcases List.mem_append.mp hz with hz | hz
  · exact ha z hz
  · rw [List.mem_singleton.mp hz]
    exact hy

end Emit

/-! ### Compilations meet what their rule compilers yield -/

section Sound

variable {reg : Registry} {Pre : Schema → Option Fragment → Prop} {Post : Schema → Fragment → Prop}
  {Body : Schema → Option Fragment → Fragment → Prop}

/-- A compilation asked with a request meeting `Pre` that ends with a fragment ends with one meeting
`Post`, when each rule body and its frame do. -/
theorem compileRule_yields
    (hrules : ∀ s next label d comp, Pre s next → reg.resolve s label = .ok (d, comp) →
      Emit.Yields Pre Post (Body s next) (comp d))
    (hclose : ∀ s next ctx p body c f c', Pre s next → Body s next body →
      closeRule ctx p next body c = .ok (f, c') → Post s f)
    {s : Schema} {next : Option Fragment} {ctx : Context} {f : Fragment} {c' : Context}
    (h : compileRule reg s next ctx = some (.ok (f, c'))) (hpre : Pre s next) : Post s f := by
  suffices hsound : (∀ s next ctx o, compileRuleIn reg s next ctx = some o →
      ∀ f, o.1 = .ok f → Pre s next → Post s f) ∧
      (∀ {α} (prog : Emit α) c o, runRequestsIn reg prog c = some o →
        ∀ (R : α → Prop) a, o.1 = .ok a → Emit.Yields Pre Post R prog → R a) from
    hsound.1 s next ctx _ (map_withContext_eq_ok.mp h) f rfl hpre
  -- over the compilations that end: a nested one is asked with a request meeting `Pre`, so its
  -- fragment meets `Post`, which is what the program needs to go on
  refine compileRule_induction reg _ _ ?pure ?fail ?context ?register ?nested
    ?unresolved ?badPresence ?bodyError ?bodyOk
  case pure =>
    intro α a c R a' hr hy
    cases hr
    cases hy with
    | pure ha => exact ha
  case fail =>
    intro α e c R a hr
    cases hr
  case context =>
    intro α k c o ih R a hr hy
    cases hy with
    | context hk => exact ih R a hr (hk c)
  case register =>
    intro α fr k c o ih R a hr hy
    cases hy with
    | register hk => exact ih R a hr (hk _)
  case nested =>
    intro α seg s next k c r c₁ o ihRule ih R a hr hy
    cases hy with
    | nested hpre hok herr =>
      -- the program goes on from the nested fragment, which meets `Post`, or from the error
      rcases r with e | f
      · exact ih R a hr (herr e)
      · exact ih R a hr (hok f (ihRule f rfl hpre))
  case unresolved =>
    intro s next ctx e _ f hr
    cases hr
  case badPresence =>
    intro s next ctx d comp e _ _ f hr
    cases hr
  case bodyError =>
    intro s next ctx d comp p e c₁ _ _ _ f hr
    cases hr
  case bodyOk =>
    intro s next ctx d comp p body c₁ hr _ ih f hf hpre
    have hbody := ih (Body s next) body rfl (hrules s next _ d comp hpre hr)
    refine hclose s next ctx p body c₁ f (closeBody ctx.mode p next body c₁).2 hpre hbody ?_
    rw [← withContext_closeBody]
    rcases hcb : closeBody ctx.mode p next body c₁ with ⟨r, c₂⟩
    rw [hcb] at hf
    cases hf
    rfl

end Sound

end Conform
