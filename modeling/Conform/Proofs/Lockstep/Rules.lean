import Conform.Proofs.Lockstep
/-! The built-in rule compilers in lockstep. Each built-in rule reads its options, compiles the
schemas they hold as nested rules, stages the fragments it gets back, and ends in a leaf. Proved:
each runs in lockstep with itself under any lockstep whose leaves and stages run alike and that
admits the schemas the rule reads; the custom rule, whose answer depends on the mode, is left
to each lockstep. -/

namespace Conform

namespace Lockstep

section Rules

variable {L : Lockstep}
  (hleaf : ∀ step c c', L.ctx c c' → L.frag ⟨c.mode, step⟩ ⟨c'.mode, step⟩)
  (hstage : ∀ f f' c c', L.ctx c c' → L.frag f f' →
    (f.lift c.mode).map (·.step) = (f'.lift c'.mode).map (·.step))
include hleaf

theorem Par.ofExcept_leaf {α : Type} (x : Except Error α) (step : α → Step) :
    L.Par L.frag (Emit.ofExcept x >>= fun a => Emit.leaf (step a))
      (Emit.ofExcept x >>= fun a => Emit.leaf (step a)) := by
  refine Par.bind (Par.ofExcept x) ?_
  rintro a _ ⟨rfl, -⟩
  exact Par.leaf _ (hleaf _)

include hstage

/-- The pipe compiler runs in lockstep with itself when leaves and stages do and the lockstep
admits its steps. -/
theorem Par.pipe (d : Descriptor)
    (hsteps : ∀ steps, d.sequence "steps" = .ok (some steps) → ∀ s ∈ steps, L.schema s) :
    L.Par L.frag (Rule.pipe d) (Rule.pipe d) := by
  refine Par.bind (Par.ofExcept _) ?_
  rintro seq _ ⟨rfl, hseq⟩
  cases seq with
  | none => exact Par.leaf _ (hleaf _)
  | some steps =>
    have hadmit : List.Forall₂ (fun s s' => s = s' ∧ L.schema s) steps steps :=
      List.forall₂_same.mpr fun s hs => ⟨rfl, hsteps steps hseq s hs⟩
    -- the steps compile side by side ...
    refine Par.bind (Par.loop hadmit (List.Forall₂.nil : List.Forall₂ L.frag [] []) ?_) ?_
    · rintro s _ acc acc' ⟨rfl, hs⟩ hacc
      exact Par.bind (Par.compileNested hs .none) fun f f' hf => Par.yield_append hacc hf
    intro fs fs' hfs
    -- ... and stage to the same steps
    refine Par.bind (Par.loop hfs (List.Forall₂.nil : List.Forall₂ Eq [] []) ?_) ?_
    · rintro f f' acc acc' hf hacc
      exact Par.bind (Par.stage fun c c' hc => hstage f f' c c' hc hf) fun _ _ hstep =>
        Par.yield_append hacc hstep
    intro stages stages' hstages
    rw [List.forall₂_eq_eq_eq] at hstages
    subst hstages
    exact Par.leaf _ (hleaf _)

theorem Par.object (d : Descriptor)
    (hfields : ∀ key fields, d.fields key = .ok (some fields) → ∀ p ∈ fields, L.schema p.2) :
    L.Par L.frag (Rule.object d) (Rule.object d) := by
  unfold Rule.object
  refine Par.bind (Par.ofExcept _) ?_
  rintro props _ ⟨rfl, hprops⟩
  extract_lets +lift compiled₀ steps₀ rest
  -- whichever option gives the fields, the rest of the rule runs alike on them
  have hrest : ∀ ps : List (String × Schema), (∀ p ∈ ps, L.schema p.2) →
      L.Par L.frag (rest ps) (rest ps) := by
    intro ps hps
    refine Par.bind (Par.ofExcept _) ?_
    rintro strictness _ ⟨rfl, -⟩
    have hadmit : List.Forall₂ (fun p p' => p = p' ∧ L.schema p.2) ps ps :=
      List.forall₂_same.mpr fun p hp => ⟨rfl, hps p hp⟩
    -- the fields compile side by side, keyed alike ...
    refine Par.bind (Par.loop hadmit
      (List.Forall₂.nil : List.Forall₂ (fun a b => a.1 = b.1 ∧ L.frag a.2 b.2) [] []) ?_) ?_
    · rintro ⟨key, s⟩ _ acc acc' ⟨rfl, hs⟩ hacc
      exact Par.bind (Par.compileNested hs .none) fun f f' hf =>
        Par.yield_append hacc (And.intro rfl hf)
    intro fs fs' hfs
    -- ... and stage to the same keyed steps
    refine Par.bind (Par.loop hfs (List.Forall₂.nil : List.Forall₂ Eq [] []) ?_) ?_
    · rintro ⟨key, f⟩ ⟨key', f'⟩ acc acc' ⟨rfl, hf⟩ hacc
      refine Par.bind (Par.stage fun c c' hc => hstage f f' c c' hc hf) ?_
      rintro step _ rfl
      exact Par.yield_append hacc rfl
    intro steps steps' hsteps
    rw [List.forall₂_eq_eq_eq] at hsteps
    subst hsteps
    exact Par.leaf _ (hleaf _)
  cases props with
  | some ps => exact hrest ps (hfields _ _ hprops)
  | none =>
    refine Par.bind (Par.ofExcept _) ?_
    rintro props _ ⟨rfl, hprops⟩
    refine hrest _ fun p hp => ?_
    cases props with
    | some ps => exact hfields _ _ hprops p hp
    | none => cases hp

theorem Par.array (d : Descriptor) (hitems : ∀ s, d.schema "items" = .ok (some s) → L.schema s) :
    L.Par L.frag (Rule.array d) (Rule.array d) := by
  unfold Rule.array
  refine Par.bind (Par.ofExcept _) ?_
  rintro bounds _ ⟨rfl, -⟩
  refine Par.bind (Par.ofExcept _) ?_
  rintro items _ ⟨rfl, hitems'⟩
  extract_lets +lift leafOf staged
  -- the element fragments, if any, are related, and stage to the same step
  have hstaged : ∀ f f', Option.Rel L.frag f f' → L.Par L.frag (staged f) (staged f') := by
    intro f f' hf
    cases hf with
    | none => exact Par.leaf _ (hleaf _)
    | some hf =>
      refine Par.bind (Par.bind (Par.stage fun c c' hc => hstage _ _ c c' hc hf)
        fun a b h => .pure (congrArg some h)) ?_
      rintro _ _ rfl
      exact Par.leaf _ (hleaf _)
  cases items with
  | some s =>
    exact Par.bind (Par.bind (Par.compileNested (hitems s hitems') .none)
      fun f f' hf => .pure (Option.Rel.some hf)) hstaged
  | none => exact hstaged none none .none

end Rules

end Lockstep

end Conform
