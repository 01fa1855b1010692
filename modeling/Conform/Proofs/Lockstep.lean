import Conform.Proofs.Frame
import Mathlib.Data.List.Forall2
/-! Compilations in lockstep. Two compilations by one registry are run side by side: their
contexts are related by a chosen relation, the fragments they produce by another, and the
schemas they compile are drawn from a chosen class. Proved: when every request keeps these
relations and the registry's rule compilers answer related requests with related requests, two
compilations of one schema from related contexts either both never end, or both end in related
contexts, both failing with the same error or both with related fragments. -/

namespace Conform

/-- A way to run two compilations side by side. -/
structure Lockstep where
  /-- How the two contexts are related. -/
  ctx : Context → Context → Prop
  /-- How the two fragments compiled for one schema are related. -/
  frag : Fragment → Fragment → Prop
  /-- The schemas the two compilations may be asked to compile. -/
  schema : Schema → Prop

namespace Lockstep

variable (L : Lockstep) {α β γ δ : Type}

/-- Related results: the same error, or related values. -/
def Res (R : α → β → Prop) : Except Error α → Except Error β → Prop
  | .error e, .error e' => e = e'
  | .ok a, .ok b => R a b
  | _, _ => False

/-- Related ends of two runs, failed or not: related results in related contexts. -/
def Ends (R : α → β → Prop) (o : Except Error α × Context) (o' : Except Error β × Context) :
    Prop :=
  Res R o.1 o'.1 ∧ L.ctx o.2 o'.2

/-- Related successes of two runs: the same error, or related results in related contexts. -/
def Out (R : α → β → Prop) : Except Error (α × Context) → Except Error (β × Context) → Prop
  | .error e, .error e' => e = e'
  | .ok (a, c), .ok (b, c') => R a b ∧ L.ctx c c'
  | _, _ => False

/-- Two request programs in lockstep: at each point they make the same kind of request, with
related fragments and the same nested schema, and they go on alike from related answers, the
same error included; their results are related by `R`. -/
inductive Par (R : α → β → Prop) : Emit α → Emit β → Prop
  | pure {a : α} {b : β} : R a b → Par R (.pure a) (.pure b)
  | fail (e : Error) : Par R (.fail e) (.fail e)
  | context {k : Context → Emit α} {k' : Context → Emit β} :
      (∀ c c', L.ctx c c' → Par R (k c) (k' c')) → Par R (.context k) (.context k')
  | register {f f' : Fragment} {k : Nat → Emit α} {k' : Nat → Emit β} : L.frag f f' →
      (∀ c c', L.ctx c c' → Par R (k c.table.size) (k' c'.table.size)) →
      Par R (.register f k) (.register f' k')
  | nested {seg : Option Segment} {s : Schema} {next next' : Option Fragment}
      {k : Except Error Fragment → Emit α} {k' : Except Error Fragment → Emit β} : L.schema s →
      Option.Rel L.frag next next' → (∀ r r', Res L.frag r r' → Par R (k r) (k' r')) →
      Par R (.nested seg s next k) (.nested seg s next' k')

/-- What the requests of a compilation need of a lockstep: related contexts are at one label,
entering a segment and restoring a label keep them related, registering related fragments
keeps them related, and closing related bodies gives related ends. -/
structure Keeps : Prop where
  label : ∀ {c c'}, L.ctx c c' → c.label = c'.label
  enter : ∀ {c c'} (seg : Option Segment), L.ctx c c' → L.ctx (c.enter seg) (c'.enter seg)
  restore : ∀ {c c' d d'}, L.ctx c c' → L.ctx d d' →
    L.ctx { d with label := c.label } { d' with label := c'.label }
  push : ∀ {c c' f f'}, L.ctx c c' → L.frag f f' →
    L.ctx { c with table := c.table.push f } { c' with table := c'.table.push f' }
  close : ∀ {ctx ctx' d d' body body' next next'} (p : Presence), L.ctx ctx ctx' →
    L.frag body body' → Option.Rel L.frag next next' → L.ctx d d' →
    L.Ends L.frag (closeBody ctx.mode p next body d) (closeBody ctx'.mode p next' body' d')

/-- The rule compilers of a registry run in lockstep with themselves on the schemas the
lockstep admits. -/
def Supports (reg : Registry) : Prop :=
  ∀ s label d comp, L.schema s → reg.resolve s label = .ok (d, comp) →
    L.Par L.frag (comp d) (comp d)

section Run

variable {L} {reg : Registry}

theorem ends_alike (hk : L.Keeps) (hreg : L.Supports reg) :
    (∀ s next ctx o, compileRuleIn reg s next ctx = some o → ∀ next' ctx', L.schema s →
      L.ctx ctx ctx' → Option.Rel L.frag next next' →
      ∃ o', compileRuleIn reg s next' ctx' = some o' ∧ L.Ends L.frag o o') ∧
    (∀ {α} (prog : Emit α) c o, runRequestsIn reg prog c = some o →
      ∀ {β} (R : α → β → Prop) (prog' : Emit β) c', L.Par R prog prog' → L.ctx c c' →
      ∃ o', runRequestsIn reg prog' c' = some o' ∧ L.Ends R o o') := by
  refine compileRule_induction reg _ _ ?pure ?fail ?context ?register ?nested
    ?unresolved ?badPresence ?bodyError ?bodyOk
  case pure =>
    intro α a c β R prog' c' hpar hc
    cases hpar with
    | pure hab => exact ⟨_, runRequestsIn_pure reg _ c', hab, hc⟩
  case fail =>
    intro α e c β R prog' c' hpar hc
    cases hpar
    exact ⟨_, runRequestsIn_fail reg e c', rfl, hc⟩
  case context =>
    intro α k c o ih β R prog' c' hpar hc
    cases hpar with
    | context hk' =>
      obtain ⟨o', h', ho'⟩ := ih R _ c' (hk' c c' hc) hc
      exact ⟨o', (runRequestsIn_context reg _ c').trans h', ho'⟩
  case register =>
    intro α f k c o ih β R prog' c' hpar hc
    cases hpar with
    | register hf hk' =>
      obtain ⟨o', h', ho'⟩ := ih R _ _ (hk' c c' hc) (hk.push hc hf)
      exact ⟨o', (runRequestsIn_register reg _ _ c').trans h', ho'⟩
  case nested =>
    -- the nested compilations end alike, failed or not, and the programs go on alike from there
    intro α seg s next k c r c₁ o ihRule ih β R prog' c' hpar hc
    cases hpar with
    | nested hs hnext hk' =>
      obtain ⟨⟨r', c₁'⟩, h', hr, hc₁⟩ := ihRule _ _ hs (hk.enter seg hc) hnext
      obtain ⟨o', h₂, ho⟩ := ih R _ _ (hk' r r' hr) (hk.restore hc hc₁)
      exact ⟨o', by rw [runRequestsIn_nested, h']; exact h₂, ho⟩
  case unresolved =>
    intro s next ctx e hr next' ctx' _ hc _
    rw [hk.label hc] at hr
    exact ⟨_, compileRuleIn_of_unresolved hr, rfl, hc⟩
  case badPresence =>
    intro s next ctx d comp e hr hp next' ctx' _ hc _
    rw [hk.label hc] at hr
    exact ⟨_, compileRuleIn_of_presence_error hr hp, rfl, hc⟩
  case bodyError =>
    intro s next ctx d comp p e c₁ hr hp ih next' ctx' hs hc _
    obtain ⟨⟨r', c₁'⟩, h', hr', hc₁⟩ := ih L.frag (comp d) ctx' (hreg s _ d comp hs hr) hc
    rw [hk.label hc] at hr
    rcases r' with e' | _
    · obtain rfl : e = e' := hr'
      refine ⟨(.error e, c₁'), ?_, rfl, hc₁⟩
      rw [compileRuleIn_of_resolve hr hp, h']
      rfl
    · exact hr'.elim
  case bodyOk =>
    intro s next ctx d comp p body c₁ hr hp ih next' ctx' hs hc hnext
    obtain ⟨⟨r', c₁'⟩, h', hr', hc₁⟩ := ih L.frag (comp d) ctx' (hreg s _ d comp hs hr) hc
    rw [hk.label hc] at hr
    rcases r' with _ | body'
    · exact hr'.elim
    · exact ⟨_, by rw [compileRuleIn_of_resolve hr hp, h']; rfl, hk.close p hc hr' hnext hc₁⟩

end Run

/-! ### The lockstep read from the other side -/

/-- The same lockstep with the two compilations swapped. -/
def symm : Lockstep := ⟨flip L.ctx, flip L.frag, L.schema⟩

section Symm

variable {L}

theorem rel_flip {R : α → β → Prop} {x : Option α} {y : Option β} (h : Option.Rel R x y) :
    Option.Rel (flip R) y x := by
  cases h with
  | none => exact .none
  | some hab => exact .some hab

theorem rel_eq {x y : Option α} (h : Option.Rel Eq x y) : x = y := by
  cases h with
  | none => rfl
  | some hab => rw [hab]

theorem rel_map {R : α → β → Prop} {S : γ → δ → Prop} {f : α → γ} {g : β → δ} {x : Option α}
    {y : Option β} (h : Option.Rel R x y) (hfg : ∀ a b, R a b → S (f a) (g b)) :
    Option.Rel S (x.map f) (y.map g) := by
  cases h with
  | none => exact .none
  | some hab => exact .some (hfg _ _ hab)

theorem Res.symm {R : α → β → Prop} {r : Except Error α} {r' : Except Error β}
    (h : Res R r r') : Res (flip R) r' r := by
  rcases r with e | a <;> rcases r' with e' | b
  · exact Eq.symm h
  · exact h.elim
  · exact h.elim
  · exact h

theorem Res.refl_eq {r : Except Error α} : Res Eq r r := by
  rcases r with e | a
  · exact rfl
  · exact rfl

theorem Ends.symm {R : α → β → Prop} {o : Except Error α × Context}
    {o' : Except Error β × Context} (h : L.Ends R o o') : L.symm.Ends (flip R) o' o :=
  ⟨h.1.symm, h.2⟩

theorem Par.symm {R : α → β → Prop} {p : Emit α} {q : Emit β} (h : L.Par R p q) :
    L.symm.Par (flip R) q p := by
  induction h with
  | pure hab => exact .pure hab
  | fail e => exact .fail e
  | context _ ih => exact .context fun c c' hc => ih c' c hc
  | register hf _ ih => exact .register hf fun c c' hc => ih c' c hc
  | nested hs hnext _ ih => exact .nested hs (rel_flip hnext) fun r r' hr => ih r' r hr.symm

theorem Keeps.symm (hk : L.Keeps) : L.symm.Keeps where
  label hc := (hk.label hc).symm
  enter seg hc := hk.enter seg hc
  restore hc hd := hk.restore hc hd
  push hc hf := hk.push hc hf
  close p hc hbody hnext hd := (hk.close p hc hbody (rel_flip hnext) hd).symm

theorem Supports.symm {reg : Registry} (hreg : L.Supports reg) : L.symm.Supports reg :=
  fun s label d comp hs hr => (hreg s label d comp hs hr).symm

theorem Ends.out {R : α → β → Prop} {o : Except Error α × Context}
    {o' : Except Error β × Context} (h : L.Ends R o o') : L.Out R (withContext o) (withContext o') := by
  obtain ⟨r, c⟩ := o
  obtain ⟨r', c'⟩ := o'
  obtain ⟨hr, hc⟩ := h
  rcases r with e | a <;> rcases r' with e' | b
  · exact hr
  · exact hr.elim
  · exact hr.elim
  · exact ⟨hr, hc⟩

end Symm

/-! ### Both sides -/

/-- Two compilations of one admitted schema from related contexts, with related continuations, end
alike. -/
theorem compileRule_rel {L : Lockstep} {reg : Registry} (hk : L.Keeps) (hreg : L.Supports reg)
    {s : Schema} {next next' : Option Fragment} {ctx ctx' : Context} (hs : L.schema s)
    (hc : L.ctx ctx ctx') (hnext : Option.Rel L.frag next next') :
    Option.Rel (L.Out L.frag) (compileRule reg s next ctx) (compileRule reg s next' ctx') := by
  unfold compileRule
  refine rel_map ?_ fun o o' (h : L.Ends L.frag o o') => h.out
  rcases h : compileRuleIn reg s next ctx with _ | o
  · -- were the second to end, the first would end too
    rcases h' : compileRuleIn reg s next' ctx' with _ | o'
    · exact .none
    · obtain ⟨o, ho, -⟩ :=
        (ends_alike hk.symm hreg.symm).1 s next' ctx' o' h' next ctx hs hc (rel_flip hnext)
      rw [h] at ho
      cases ho
  · obtain ⟨o', h', ho⟩ := (ends_alike hk hreg).1 s next ctx o h next' ctx' hs hc hnext
    rw [h']
    exact .some ho

/-! ### Continuing related runs -/

section Continue

variable {L}

theorem rel_thenOk {R : α → β → Prop} {S : γ → δ → Prop}
    {r : Option (Except Error (α × Context))} {r' : Option (Except Error (β × Context))}
    {f : α × Context → Option (Except Error (γ × Context))}
    {f' : β × Context → Option (Except Error (δ × Context))} (h : Option.Rel (L.Out R) r r')
    (hf : ∀ a b c c', R a b → L.ctx c c' → Option.Rel (L.Out S) (f (a, c)) (f' (b, c'))) :
    Option.Rel (L.Out S) (thenOk r f) (thenOk r' f') := by
  cases h with
  | none => exact .none
  | @some x y hxy =>
    rcases x with e | ⟨a, c⟩ <;> rcases y with e' | ⟨b, c'⟩
    · obtain rfl : e = e' := hxy
      exact .some rfl
    · exact hxy.elim
    · exact hxy.elim
    · exact hf a b c c' hxy.1 hxy.2

theorem rel_thenOk_same {S : γ → δ → Prop} {r : Option (Except Error α)}
    {f : α → Option (Except Error (γ × Context))} {f' : α → Option (Except Error (δ × Context))}
    (hf : ∀ a, r = some (.ok a) → Option.Rel (L.Out S) (f a) (f' a)) :
    Option.Rel (L.Out S) (thenOk r f) (thenOk r f') := by
  rcases r with _ | e | a
  · exact .none
  · exact .some rfl
  · exact hf a rfl

end Continue

/-! ### Programs in lockstep -/

section Programs

variable {L}

theorem Par.bind {R : α → β → Prop} {S : γ → δ → Prop} {x : Emit α} {y : Emit β}
    {f : α → Emit γ} {g : β → Emit δ} (h : L.Par R x y) (hf : ∀ a b, R a b → L.Par S (f a) (g b)) :
    L.Par S (x >>= f) (y >>= g) := by
  induction h with
  | pure hab => exact hf _ _ hab
  | fail e => exact .fail e
  | context _ ih => exact .context fun c c' hc => ih c c' hc
  | register hfr _ ih => exact .register hfr fun c c' hc => ih c c' hc
  | nested hs hnext _ ih => exact .nested hs hnext fun r r' hr => ih r r' hr

theorem Par.ofExcept (x : Except Error α) :
    L.Par (fun a b => a = b ∧ x = .ok a) (Emit.ofExcept x) (Emit.ofExcept x) := by
  cases x with
  | error e => exact .fail e
  | ok a => exact .pure ⟨rfl, rfl⟩

theorem Par.mode {R : Mode → Mode → Prop} (h : ∀ c c', L.ctx c c' → R c.mode c'.mode) :
    L.Par R Emit.mode Emit.mode :=
  .context fun c c' hc => .pure (h c c' hc)

theorem Par.ofExcept_res {R : α → β → Prop} {x : Except Error α} {y : Except Error β}
    (h : Res R x y) : L.Par R (Emit.ofExcept x) (Emit.ofExcept y) := by
  rcases x with e | a <;> rcases y with e' | b
  · cases (h : e = e')
    exact .fail e
  · exact h.elim
  · exact h.elim
  · exact .pure h

theorem Par.compileNested {seg : Option Segment} {s : Schema} {next next' : Option Fragment}
    (hs : L.schema s) (hnext : Option.Rel L.frag next next') :
    L.Par L.frag (Emit.compileNested seg s next) (Emit.compileNested seg s next') :=
  .nested hs hnext fun _ _ hr => .ofExcept_res hr

/-- A loop runs in lockstep when its bodies, on related elements and related accumulators, yield
related accumulators. -/
theorem Par.loop {σ τ : Type} {Q : γ → δ → Prop} {S : σ → τ → Prop}
    {body : γ → σ → Emit (ForInStep σ)} {body' : δ → τ → Emit (ForInStep τ)} {xs : List γ}
    {ys : List δ} {acc : σ} {acc' : τ} (hxs : List.Forall₂ Q xs ys) (hacc : S acc acc')
    (hbody : ∀ x y a a', Q x y → S a a' →
      L.Par (fun u u' => ∃ w w', u = .yield w ∧ u' = .yield w' ∧ S w w') (body x a) (body' y a')) :
    L.Par S (forIn xs acc body) (forIn ys acc' body') := by
  induction hxs generalizing acc acc' with
  | nil => exact .pure hacc
  | @cons x y xs ys hxy _ ih =>
    rw [List.forIn_cons, List.forIn_cons]
    -- the body yields the grown accumulators, and the loop goes on from them
    refine Par.bind (hbody x y acc acc' hxy hacc) ?_
    rintro _ _ ⟨w, w', rfl, rfl, hw⟩
    exact ih hw

theorem Par.yield_append {R : α → β → Prop} {acc : List α} {acc' : List β} {a : α} {b : β}
    (hacc : List.Forall₂ R acc acc') (hab : R a b) :
    L.Par (fun u u' => ∃ w w', u = .yield w ∧ u' = .yield w' ∧ List.Forall₂ R w w')
      (Pure.pure (ForInStep.yield (acc ++ [a]))) (Pure.pure (ForInStep.yield (acc' ++ [b]))) :=
  .pure ⟨_, _, rfl, rfl, List.rel_append hacc (.cons hab .nil)⟩

theorem Par.leaf (step : Step) (h : ∀ c c', L.ctx c c' → L.frag ⟨c.mode, step⟩ ⟨c'.mode, step⟩) :
    L.Par L.frag (Emit.leaf step) (Emit.leaf step) :=
  .context fun c c' hc => .pure (h c c' hc)

theorem Par.stage {f f' : Fragment}
    (h : ∀ c c', L.ctx c c' → (f.lift c.mode).map (·.step) = (f'.lift c'.mode).map (·.step)) :
    L.Par Eq (Emit.stage f) (Emit.stage f') := by
  refine .context fun c c' hc => ?_
  have hlift := h c c' hc
  show L.Par Eq (Emit.ofExcept (f.lift c.mode) >>= fun g => Pure.pure g.step)
    (Emit.ofExcept (f'.lift c'.mode) >>= fun g => Pure.pure g.step)
  rcases hf : f.lift c.mode with e | g <;> rcases hf' : f'.lift c'.mode with e' | g' <;>
    rw [hf, hf'] at hlift <;>
    simp only [Except.map, Except.error.injEq, Except.ok.injEq, reduceCtorEq] at hlift
  · rw [hlift]
    exact .fail e'
  · exact .pure hlift

end Programs

end Lockstep

end Conform
