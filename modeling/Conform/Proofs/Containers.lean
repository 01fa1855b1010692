import Conform.Proofs.Pipe
/-! The object and array rules, compiled. An object compiles the schema of each of its fields
one key deeper, in the order declared, each in the context the one before left; an array
compiles its items schema one item marker deeper. Proved: whatever the options, the built-in
object compiler reads its fields (`props`, else `properties`) and its strictness, compiles the
fields in order and ends in the object step over their steps; the array compiler reads its
bounds and its items schema, compiles that schema and ends in the array step. -/

namespace Conform

variable {reg : Registry}

/-! ### Loops that collect answers -/

/-- A `for` loop whose body, whatever form it takes, answers one request per element and appends
its answer. -/
theorem runRequests_forIn_collect {β γ : Type} (g : β → Emit γ)
    {body : β → List γ → Emit (ForInStep (List γ))}
    (hbody : ∀ x acc c, runRequests reg (body x acc) c =
      thenOk (runRequests reg (g x) c) fun (y, c') => some (.ok (.yield (acc ++ [y]), c')))
    (xs : List β) (acc : List γ) (c : Context) :
    runRequests reg (forIn xs acc body) c =
      thenOk (runEach reg g xs c) fun (ys, c') => some (.ok (acc ++ ys, c')) := by
  induction xs generalizing acc c with
  | nil => simp [runEach]
  | cons x xs ih => simp [runEach, List.forIn_cons, runRequests_bind, hbody, thenOk_assoc, ih]

theorem runRequests_map {α β : Type} (f : α → β) (x : Emit α) (c : Context) :
    runRequests reg (f <$> x) c = thenOk (runRequests reg x c) fun (a, c') => some (.ok (f a, c')) := by
  show runRequests reg (x >>= fun a => pure (f a)) c = _
  simp [runRequests_bind]

theorem runRequests_compileField (key : String) (s : Schema) (c : Context) :
    runRequests reg (Emit.compileField key s) c =
      thenOk (compileRule reg s none (c.enter (some (.key key)))) fun (f, c') =>
        some (.ok (f, { c' with label := c.label })) := by
  simp [Emit.compileField]

/-! ### The fields of an object -/

/-- The field schemas of an object compiled one after another, each one key deeper with no
continuation, in the context the one before left. -/
def compileFields (reg : Registry) : List (String × Schema) → Context →
    Option (Except Error (List (String × Fragment) × Context))
  | [], c => some (.ok ([], c))
  | (key, s) :: rest, c => thenOk (compileRule reg s none (c.enter (some (.key key))))
    fun (f, c') => thenOk (compileFields reg rest { c' with label := c.label })
      fun (fs, c'') => some (.ok ((key, f) :: fs, c''))

theorem runEach_compileField (props : List (String × Schema)) (c : Context) :
    runEach reg (fun p => (p.1, ·) <$> Emit.compileField p.1 p.2) props c =
      compileFields reg props c := by
  induction props generalizing c with
  | nil => rfl
  | cons p rest ih =>
    obtain ⟨key, s⟩ := p
    simp only [runEach, compileFields, runRequests_map, runRequests_compileField, thenOk_assoc,
      thenOk_ok, ih]

theorem compileFields_extends {props : List (String × Schema)} {c c' : Context}
    {fs : List (String × Fragment)} (h : compileFields reg props c = some (.ok (fs, c'))) :
    (∀ p ∈ fs, p.2.mode = c.mode) ∧ c.Extends c' := by
  induction props generalizing c fs with
  | nil => cases h; exact ⟨by simp, .refl _⟩
  | cons p rest ih =>
    obtain ⟨key, s⟩ := p
    obtain ⟨⟨f, c₁⟩, hf, h⟩ := thenOk_eq_ok.mp h
    obtain ⟨⟨fs', c₂⟩, hfs, h⟩ := thenOk_eq_ok.mp h
    cases h
    -- the field compiles one key deeper; the label is put back before the next field
    obtain ⟨hmode, hm, -, ht⟩ := compileRule_extends hf
    obtain ⟨hmodes, hext⟩ := ih hfs
    have hback : c.Extends { c₁ with label := c.label } := ⟨hm, rfl, ht⟩
    refine ⟨?_, hback.trans hext⟩
    intro q hq
    rcases List.mem_cons.mp hq with rfl | hq
    · exact hmode
    · exact (hmodes q hq).trans hm

theorem runEach_stage_keyed {fs : List (String × Fragment)} {c : Context}
    (h : ∀ p ∈ fs, p.2.mode = c.mode) :
    runEach reg (fun p => (p.1, ·) <$> Emit.stage p.2) fs c =
      some (.ok (fs.map fun p => (p.1, p.2.step), c)) := by
  induction fs with
  | nil => rfl
  | cons p fs ih =>
    simp only [List.mem_cons, forall_eq_or_imp] at h
    simp [runEach, runRequests_map, runRequests_stage_self reg h.1, ih h.2]

/-! ### The object compiler -/

/-- The field schemas an object rule reads: `props`, else `properties`, else none. -/
def Descriptor.objectProps (d : Descriptor) : Except Error (List (String × Schema)) := do
  match ← d.fields "props" with
  | some props => pure props
  | none => return (← d.fields "properties").getD []

/-- The object compiler reads its fields and its strictness, compiles the fields in order and
ends in the object step over the fields' steps. -/
theorem runRequests_object (d : Descriptor) (ctx : Context) :
    runRequests reg (Rule.object d) ctx =
      thenOk (some d.objectProps) fun props =>
        thenOk (some (Rule.Strictness.ofDescriptor d)) fun strictness =>
          thenOk (compileFields reg props ctx) fun (fs, c) =>
            some (.ok (⟨ctx.mode, Rule.objectStep (fs.map fun p => (p.1, p.2.step)) strictness⟩,
              c)) := by
  unfold Rule.object
  extract_lets +lift compiled₀ steps₀ rest
  -- whichever option gives the fields, the rest of the rule compiles them
  have hrest : ∀ props c, runRequests reg (rest props) c =
      thenOk (some (Rule.Strictness.ofDescriptor d)) fun strictness =>
        thenOk (compileFields reg props c) fun (fs, c') =>
          some (.ok (⟨c.mode, Rule.objectStep (fs.map fun p => (p.1, p.2.step)) strictness⟩,
            c')) := by
    intro props c
    simp only [rest, runRequests_bind, runRequests_ofExcept]
    rcases Rule.Strictness.ofDescriptor d with e | strictness
    · rfl
    simp only [Except.map, thenOk_ok]
    rw [runRequests_forIn_collect (fun p => (p.1, ·) <$> Emit.compileField p.1 p.2)
      (fun x acc c => by simp [runRequests_bind, runRequests_map, thenOk_assoc]),
      runEach_compileField, thenOk_assoc]
    apply thenOk_congr
    rintro ⟨fs, c'⟩ hfs
    obtain ⟨hmodes, hext⟩ := compileFields_extends hfs
    simp only [compiled₀, steps₀, List.nil_append, thenOk_ok]
    rw [runRequests_forIn_collect (fun p => (p.1, ·) <$> Emit.stage p.2)
      (fun x acc c => by simp [runRequests_bind, runRequests_map, thenOk_assoc]),
      runEach_stage_keyed fun p hp => (hmodes p hp).trans hext.1.symm]
    simp [hext.1]
  simp only [runRequests_bind, runRequests_ofExcept, Descriptor.objectProps]
  rcases d.fields "props" with e | _ | props
  · rfl
  · rcases d.fields "properties" with e | props
    · simp [Except.map, bind, Except.bind, pure, Emit.bind, Emit.ofExcept]
    · simp [Except.map, bind, Except.bind, pure, Except.pure, Emit.bind, Emit.ofExcept, hrest]
  · simp [Except.map, bind, Except.bind, pure, Except.pure, Emit.bind, hrest]

/-! ### The array compiler -/

/-- The array compiler reads its bounds and its items schema, compiles that schema one item
marker deeper and ends in the array step. -/
theorem runRequests_array (d : Descriptor) (ctx : Context) :
    runRequests reg (Rule.array d) ctx =
      thenOk (some (Rule.Bounds.ofDescriptor d)) fun bounds =>
        thenOk (some (d.schema "items")) fun
          | none => some (.ok (⟨ctx.mode, Rule.arrayStep bounds none⟩, ctx))
          | some s => thenOk (compileRule reg s none (ctx.enter (some .items))) fun (f, c) =>
            some (.ok (⟨ctx.mode, Rule.arrayStep bounds (some f.step)⟩,
              { c with label := ctx.label })) := by
  unfold Rule.array
  simp only [runRequests_bind, runRequests_ofExcept]
  rcases Rule.Bounds.ofDescriptor d with e | bounds
  · rfl
  simp only [Except.map, thenOk_ok]
  rcases d.schema "items" with e | _ | s
  · rfl
  · simp [runRequests_bind]
  · simp only [thenOk_ok, runRequests_bind, runRequests_map, runRequests_compileNested,
      thenOk_assoc]
    apply thenOk_congr
    rintro ⟨f, c⟩ hf
    obtain ⟨hmode, hm, -⟩ := compileRule_extends hf
    have hback : f.mode = ({ c with label := ctx.label } : Context).mode := hmode.trans hm.symm
    simp only [runRequests_stage_self reg hback, thenOk_ok]
    simp [hm]

end Conform
