import Conform.Proofs.Faults
/-! The fragment table of a compiled schema. Compiling a schema with the built-in rules lays one
rule body per node it reaches, as `Laid` says: a node's children first, in declaration order, then
its own body, so the table is in post-order and the root's body is its last entry. The number of
bodies is the count the pre-order walk ends with: one for the node and, by its rule, the counts of
the fields of an object, the `items` of an array and the steps of a pipe. Registering a body only
appends to the table, so an index, once it names a body, names it to the end of the
compilation. -/

namespace Conform

/-- A schema laid out alone: the bodies of what it holds, then its own body, last; the fragment it
compiled to is that body in its frame. -/
theorem Laid.single {m : Mode} {label : List Segment} {s : Schema} {f : Fragment}
    {bs : List Fragment} (h : Laid m label [(none, s)] [f] bs) :
    ∃ p held fs cs body, s.ownChecks m label = .ok (p, held) ∧ Laid m label held fs cs ∧
      f = ⟨m, frameStep p body.step none⟩ ∧ bs = cs ++ [body] := by
  cases h with
  | cons hown hheld hnil =>
    cases hnil
    simp only [Option.toList_none, List.append_nil] at hown hheld
    exact ⟨_, _, _, _, _, hown, hheld, rfl, rfl⟩

theorem Context.Extends.getElem?_eq {c c' : Context} (h : c.Extends c') {i : Nat}
    {b : Fragment} (hb : c.table[i]? = some b) : c'.table[i]? = some b := by
  obtain ⟨t, ht⟩ := h.2.2
  rw [← Array.getElem?_toList] at hb ⊢
  have hi : i < c.table.toList.length := (List.getElem?_eq_some_iff.mp hb).1
  rw [← ht, List.getElem?_append_left hi, hb]

/-- The table of a compiled schema is laid out in post-order, the root's body last, and no
compilation changes what an index already names. -/
theorem compile_lays_out_table (config : Config) (S : Schema) (v : Validator)
    (h : ({ registry := Registry.builtins, config } : Compiler).compile S = some (.ok v)) :
    S.walk v.mode [] = .ok v.fragmentCount ∧
    Laid v.mode [] [(none, S)] [v.root] v.table.toList ∧
    (∃ p body, v.root = ⟨v.mode, frameStep p body.step none⟩ ∧
      v.fragment? (v.fragmentCount - 1) = some body) ∧
    (∀ i, (v.fragment? i).isSome ↔ i < v.fragmentCount) ∧
    (∀ s next ctx f ctx' (i : Nat) b,
      compileRule Registry.builtins s next ctx = some (.ok (f, ctx')) →
        ctx.table[i]? = some b → ctx'.table[i]? = some b) := by
  obtain ⟨ctx, -, hroot, htable⟩ := Compiler.compile_eq_ok _ h
  have hwalk := Schema.compilesAsWalked (S.weight + 1) S (Nat.lt_succ_self _) { mode := v.mode }
  -- the walk cannot stop at a fault: that fault would be the compilation's error
  obtain ⟨k, hk⟩ : ∃ k, S.walk v.mode [] = .ok k := by
    rcases hw : S.walk v.mode [] with ⟨label, e⟩ | k
    · have hfail := hwalk.1 label e hw
      rw [hroot] at hfail
      cases hfail
    · exact ⟨k, rfl⟩
  obtain ⟨f, c, bs, hc, ⟨-, -, hbs⟩, hlen, hlaid⟩ := hwalk.2 k hk
  rw [hroot] at hc
  obtain ⟨rfl, rfl⟩ : v.root = f ∧ ctx = c := by simpa using hc
  have hlist : v.table.toList = bs := by
    rw [htable, hbs]
    rfl
  have hcount : v.fragmentCount = k := by
    rw [← hlen, ← hlist, Array.length_toList]
    rfl
  obtain ⟨p, held, fs, cs, body, -, -, hf, rfl⟩ := Laid.single hlaid
  refine ⟨hcount ▸ hk, hlist ▸ hlaid, ⟨p, body, hf, ?_⟩, fun i => ?_,
    fun s next ctx f ctx' i b hc hb => (compileRule_extends hc).2.getElem?_eq hb⟩
  · -- the root's body is the table's last entry
    have hlast : v.fragmentCount - 1 = cs.length := by
      rw [hcount, ← hlen, List.length_append, List.length_singleton, Nat.add_sub_cancel]
    rw [hlast, Validator.fragment?, ← Array.getElem?_toList, hlist, List.getElem?_concat_length]
  · simp [Validator.fragment?, Validator.fragmentCount]

/-- An array of numbers, compiled: the number's body, then the array's, and the root is the
array's body in its frame. -/
theorem compile_lays_out_array_of_numbers :
    let S : Schema := .node "array" [("items", .schema (.node "number" []))]
    let item : Step := frameStep .required ({} : Rule.NumberRule).step none
    let v : Validator := ⟨⟨.sync, frameStep .required (Rule.arrayStep {} (some item)) none⟩,
      #[⟨.sync, ({} : Rule.NumberRule).step⟩, ⟨.sync, Rule.arrayStep {} (some item)⟩],
      .sync, ({} : Config).buildMessages⟩
    ({ registry := Registry.builtins, config := {} } : Compiler).compile S = some (.ok v) ∧
      S.walk v.mode [] = .ok v.fragmentCount ∧
      Laid v.mode [] [(none, S)] [v.root] v.table.toList ∧
      (∃ p body, v.root = ⟨v.mode, frameStep p body.step none⟩ ∧
        v.fragment? (v.fragmentCount - 1) = some body) ∧
      (∀ i, (v.fragment? i).isSome ↔ i < v.fragmentCount) ∧
      (∀ s next ctx f ctx' (i : Nat) b,
        compileRule Registry.builtins s next ctx = some (.ok (f, ctx')) →
          ctx.table[i]? = some b → ctx'.table[i]? = some b) := by
  intro S item v
  let dArr : Descriptor :=
    ⟨{ rule := "array", options := [("items", .schema (.node "number" []))] }, renderPath []⟩
  let dNum : Descriptor := ⟨{ rule := "number" }, renderPath [.items]⟩
  have hnum : compileRule Registry.builtins (.node "number" []) none
      { mode := .sync, label := [.items] } = some (.ok (⟨.sync, item⟩,
        ⟨.sync, [.items], #[⟨.sync, ({} : Rule.NumberRule).step⟩]⟩)) := by
    have hb : runRequests Registry.builtins (Rule.number dNum)
        { mode := .sync, label := [.items] } =
        some (.ok (⟨.sync, ({} : Rule.NumberRule).step⟩, ⟨.sync, [.items], #[]⟩)) := by
      simp [Rule.number, runRequests_bind]
      rfl
    have hr : Registry.builtins.resolve (.node "number" []) (renderPath [.items]) =
        .ok (dNum, Rule.number) := rfl
    rw [compileRule_of_resolve hr rfl, hb, thenOk_ok]
    exact congrArg some (closeRule_of_step (by simp))
  have hc :
      ({ registry := Registry.builtins, config := {} } : Compiler).compile S = some (.ok v) := by
    have hroot : compileRule Registry.builtins S none { mode := .sync } =
        some (.ok (v.root, { mode := .sync, table := v.table })) := by
      have hr : Registry.builtins.resolve S (renderPath []) = .ok (dArr, Rule.array) := rfl
      rw [compileRule_of_resolve hr rfl, runRequests_array]
      simp only [show Rule.Bounds.ofDescriptor dArr = .ok {} from rfl,
        show dArr.schema "items" = .ok (some (.node "number" [])) from rfl, thenOk_ok,
        Context.enter_some, List.nil_append, hnum]
      exact congrArg some (closeRule_of_step (by simp))
    have hmode : Compiler.declaredMode ⟨Registry.builtins, {}⟩ S = .ok .sync := rfl
    simp only [Compiler.compile, hmode, hroot]
    rfl
  exact ⟨hc, compile_lays_out_table {} S v hc⟩

end Conform
