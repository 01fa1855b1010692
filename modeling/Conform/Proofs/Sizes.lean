import Mathlib.Algebra.GroupWithZero.Nat
import Conform.Proofs.SchemaData
/-! Sizes of the schemas a node holds. A rule reads its nested schemas out of its node's
options: typed schemas as they are, raw JSON read as schemas, and a shorthand's options are
scalars cut from its own text. Proved: every schema a built-in accessor reads out of a node
(`sequence`, `fields`, `schema`) is smaller than the node, a schema read from JSON is no larger
than the JSON, and a shorthand's expansion is no larger than its text; so compiling the schemas
a node holds is compiling smaller schemas. -/

namespace Conform

/-! ### Option lists -/

theorem Opt.weightMembers_insert_le (l : List (String × Opt)) (k : String) (o : Opt) :
    Opt.weightMembers (Options.insert l k o) ≤ Opt.weightMembers l + o.weight := by
  induction l with
  | nil => simp [Options.insert, Opt.weightMembers]
  | cons p rest ih =>
    obtain ⟨k', o'⟩ := p
    simp only [Options.insert]
    split_ifs <;> simp only [Opt.weightMembers] <;> omega

theorem Node.weight_set_le (n : Node) (k : String) (o : Opt) :
    Opt.weightMembers (n.set k o).options ≤ Opt.weightMembers n.options + o.weight :=
  Opt.weightMembers_insert_le n.options k o

/-! ### Shorthand text -/

namespace Shorthand

theorem splitChars_length (sep : Char) (cs : List Char) :
    ((splitChars sep cs).map List.length).sum ≤ cs.length := by
  induction cs with
  | nil => simp [splitChars]
  | cons c cs ih =>
    simp only [splitChars]
    split
    · simp only [List.map_cons, List.length_nil, List.sum_cons, List.length_cons]
      omega
    · split
      · simp
      · next p ps hsplit =>
        rw [hsplit] at ih
        simp only [List.map_cons, List.sum_cons, List.length_cons] at ih ⊢
        omega

theorem splitFirst_length {sep : Char} {cs a b : List Char} (h : splitFirst sep cs = some (a, b)) :
    a.length + b.length + 1 = cs.length := by
  induction cs generalizing a with
  | nil => cases h
  | cons c cs ih =>
    simp only [splitFirst] at h
    split at h
    · cases h
      simp
    · obtain ⟨⟨a', b'⟩, h', hab⟩ := Option.map_eq_some_iff.mp h
      simp only [Prod.mk.injEq] at hab
      obtain ⟨rfl, rfl⟩ := hab
      have := ih h'
      simp only [List.length_cons]
      omega

theorem trimChars_length (cs : List Char) : (Text.trimChars cs).length ≤ cs.length := by
  unfold Text.trimChars Text.trimEndChars Text.trimStartChars
  have h₁ := (List.dropWhile_suffix Text.isBlank (l := cs)).length_le
  have h₂ := (List.dropWhile_suffix Text.isBlank
    (l := (cs.dropWhile Text.isBlank).reverse)).length_le
  simp only [List.length_reverse] at h₂ ⊢
  omega

theorem scalar_weight (raw : String) : (scalar raw).weight ≤ raw.length + 1 := by
  unfold scalar
  split <;> simp [Json.weight]

theorem setPiece_weight (n : Node) {piece : List Char} (hp : piece ≠ []) :
    Opt.weightMembers (setPiece n piece).options ≤
      Opt.weightMembers n.options + piece.length := by
  unfold setPiece
  split
  · next key raw hsplit =>
    have hlen := splitFirst_length hsplit
    have hraw := trimChars_length raw
    have hval := scalar_weight (String.ofList (Text.trimChars raw))
    have := Node.weight_set_le n (String.ofList (Text.trimChars key))
      (.value (scalar (String.ofList (Text.trimChars raw))))
    simp only [Opt.weight, String.length_ofList] at this hval
    omega
  · have hlen : 0 < piece.length := List.length_pos_iff.mpr hp
    have := Node.weight_set_le n (String.ofList piece) (.value (.bool true))
    simp only [Opt.weight, Json.weight] at this
    omega

theorem foldl_setPiece_weight (parts : List (List Char)) (n : Node) :
    Opt.weightMembers (((parts.map Text.trimChars).filter fun p => !p.isEmpty).foldl
      setPiece n).options ≤ Opt.weightMembers n.options + (parts.map List.length).sum := by
  induction parts generalizing n with
  | nil => simp
  | cons q rest ih =>
    have hq := trimChars_length q
    simp only [List.map_cons, List.filter_cons, List.sum_cons]
    split
    · next hne =>
      have hp : Text.trimChars q ≠ [] := by simpa [List.isEmpty_iff] using hne
      have h₁ := setPiece_weight n hp
      have h₂ := ih (setPiece n (Text.trimChars q))
      simp only [List.foldl_cons]
      omega
    · have := ih n
      omega

/-- The options of a shorthand's expansion are no larger than its text. -/
theorem expand_weight {text : String} {n : Node} (h : expand text = .ok n) :
    Opt.weightMembers n.options ≤ text.length := by
  unfold expand at h
  split at h
  · cases h
  · next tag pieces hsplit =>
    split at h
    · cases h
    · cases h
      -- the pieces after the tag are the trimmed parts of the text after the first `|`
      obtain ⟨first, parts, hparts, -, rfl⟩ := List.map_eq_cons_iff.mp hsplit
      have hlen := splitChars_length '|' text.toList
      have hfold := foldl_setPiece_weight parts (Node.ofRule (String.ofList tag))
      rw [hparts] at hlen
      simp only [Node.ofRule, Opt.weightMembers, List.map_cons, List.sum_cons,
        String.length_toList] at hfold hlen ⊢
      omega

end Shorthand

/-! ### Schemas read from JSON -/

theorem foldl_set_value_weight (members : List (String × Json)) (n : Node) :
    Opt.weightMembers (members.foldl (fun n (kv : String × Json) =>
      if kv.1 = "type" then n else n.set kv.1 (.value kv.2)) n).options ≤
      Opt.weightMembers n.options + Json.weightMembers members := by
  induction members generalizing n with
  | nil => simp [Json.weightMembers]
  | cons kv rest ih =>
    simp only [List.foldl_cons, Json.weightMembers]
    split
    · have := ih n
      omega
    · have h₁ := Node.weight_set_le n kv.1 (.value kv.2)
      have h₂ := ih (n.set kv.1 (.value kv.2))
      simp only [Opt.weight] at h₁
      omega

/-- A schema read from JSON is no larger than the JSON. -/
theorem Schema.ofJson_weight {j : Json} {s : Schema} (h : Schema.ofJson j = .ok s) :
    s.weight ≤ j.weight := by
  refine (Schema.ofJson.mutual_induct
    (fun j => ∀ s, Schema.ofJson j = .ok s → s.weight ≤ j.weight)
    (fun ms => ∀ s, Schema.nodeOfMembers ms = .ok s → s.weight ≤ 1 + Json.weightMembers ms)
    (fun ms => ∀ props, Schema.propsOfMembers ms = .ok props →
      Schema.weightFields props + ((ms.lookup "$$type").map Json.weight).getD 0 ≤
        Json.weightMembers ms)
    ?str ?obj ?other ?typed ?badTyped ?tagged ?badTagged ?untagged ?nil ?skip ?member).1 j s h
  case str =>
    intro t s h
    rw [Schema.ofJson] at h
    cases h
    simp [Schema.weight, Json.weight]
  case obj =>
    intro ms ih s h
    rw [Schema.ofJson] at h
    simpa [Json.weight] using ih s h
  case other =>
    intro v hstr hobj s h
    cases v with
    | str t => exact absurd rfl (hstr t)
    | obj ms => exact absurd rfl (hobj ms)
    | _ => simp [Schema.ofJson] at h
  case typed =>
    intro ms tag hlook ih s h
    rw [Schema.nodeOfMembers, hlook] at h
    obtain ⟨node, hnode, h⟩ := except_bind_eq_ok.mp h
    obtain ⟨props, hprops, h⟩ := except_bind_eq_ok.mp h
    cases h
    -- the node's own options come from the text in `$$type`, its fields from the rest
    have hexp := Shorthand.expand_weight hnode
    have hset := Node.weight_set_le node "props" (.fields props)
    have hrest := ih props hprops
    simp only [hlook, Option.map_some, Option.getD_some, Json.weight] at hrest
    simp only [Node.toSchema, Schema.weight, Opt.weight] at hset ⊢
    omega
  case badTyped =>
    intro ms v hstr hlook s h
    rw [Schema.nodeOfMembers, hlook] at h
    cases v with
    | str t => exact absurd rfl (hstr t)
    | _ => cases h
  case tagged =>
    intro ms _ tag _ s h
    simp only [Schema.nodeOfMembers, *] at h
    cases h
    have := foldl_set_value_weight ms (Node.ofRule tag)
    simp only [Node.ofRule, Node.toSchema, Schema.weight, Opt.weightMembers] at this ⊢
    omega
  case badTagged =>
    intro ms hnone v hstr hlook s h
    rw [Schema.nodeOfMembers, hnone, hlook] at h
    cases v with
    | str t => exact absurd rfl (hstr t)
    | _ => cases h
  case untagged =>
    intro ms hnone htype s h
    rw [Schema.nodeOfMembers, hnone, htype] at h
    cases h
  case nil =>
    intro props h
    rw [Schema.propsOfMembers] at h
    cases h
    simp [Schema.weightFields, Json.weightMembers]
  case skip =>
    intro v rest ih props h
    rw [Schema.propsOfMembers, if_pos rfl] at h
    have := ih props h
    have hlook : (("$$type", v) :: rest).lookup "$$type" = some v := List.lookup_cons_self
    simp only [hlook, Option.map_some, Option.getD_some, Json.weightMembers]
    omega
  case member =>
    intro k v rest hk ihv ihrest props h
    rw [Schema.propsOfMembers, if_neg hk] at h
    obtain ⟨sv, hsv, h⟩ := except_bind_eq_ok.mp h
    obtain ⟨r, hr, h⟩ := except_bind_eq_ok.mp h
    cases h
    have h₁ := ihv sv hsv
    have h₂ := ihrest r hr
    have hlook : ((k, v) :: rest).lookup "$$type" = rest.lookup "$$type" := by
      simp only [List.lookup_cons, beq_false_of_ne (Ne.symm hk)]
    simp only [hlook, Schema.weightFields, Json.weightMembers]
    omega

/-! ### What a node's accessors read -/

namespace Registry

theorem normalize_weight {s : Schema} {label : String} {d : Descriptor}
    (h : Registry.normalize s label = .ok d) : d.node.toSchema.weight ≤ s.weight := by
  cases s with
  | shorthand text =>
    obtain ⟨n, hn, h⟩ := except_bind_eq_ok.mp h
    cases h
    have := Shorthand.expand_weight hn
    simp only [Node.toSchema, Schema.weight]
    omega
  | node rule options =>
    cases h
    exact le_refl _

end Registry

namespace Descriptor

variable {d : Descriptor} {key : String}

theorem stepsOfItems_weight {n : Nat} {items : List Json} {steps : List Schema}
    (h : d.stepsOfItems key n items = .ok steps) :
    ∀ s ∈ steps, s.weight ≤ Json.weightItems items := by
  induction items generalizing n steps with
  | nil => cases h; simp
  | cons raw rest ih =>
    simp only [stepsOfItems] at h
    split at h
    · cases h
    · next s hs =>
      obtain ⟨r, hr, h⟩ := except_bind_eq_ok.mp h
      cases h
      have h₁ := Schema.ofJson_weight hs
      have h₂ := ih hr
      intro t ht
      rcases List.mem_cons.mp ht with rfl | ht
      · simp only [Json.weightItems]
        omega
      · have := h₂ t ht
        simp only [Json.weightItems]
        omega

theorem fieldsOfMembers_weight {ms : List (String × Json)} {fs : List (String × Schema)}
    (h : d.fieldsOfMembers key ms = .ok fs) :
    ∀ p ∈ fs, p.2.weight ≤ Json.weightMembers ms := by
  induction ms generalizing fs with
  | nil => cases h; simp
  | cons m rest ih =>
    obtain ⟨name, raw⟩ := m
    simp only [fieldsOfMembers] at h
    split at h
    · cases h
    · next s hs =>
      obtain ⟨r, hr, h⟩ := except_bind_eq_ok.mp h
      cases h
      have h₁ := Schema.ofJson_weight hs
      have h₂ := ih hr
      intro p hp
      rcases List.mem_cons.mp hp with rfl | hp
      · simp only [Json.weightMembers]
        omega
      · have := h₂ p hp
        simp only [Json.weightMembers]
        omega

theorem sequence_weight {steps : List Schema} (h : d.sequence key = .ok (some steps)) :
    ∀ s ∈ steps, s.weight < d.node.toSchema.weight := by
  intro s hs
  unfold sequence at h
  split at h
  · next steps' ho =>
    cases h
    have := weight_lt_of_option ho
    have := Schema.weight_le_of_mem_list hs
    simp only [Opt.weight] at *
    omega
  · next items ho =>
    obtain ⟨steps', h', hsteps⟩ := except_map_eq_ok.mp h
    cases hsteps
    have := weight_lt_of_option ho
    have := stepsOfItems_weight h' s hs
    simp only [Opt.weight, Json.weight] at *
    omega
  · cases h

theorem fields_weight {fs : List (String × Schema)} (h : d.fields key = .ok (some fs)) :
    ∀ p ∈ fs, p.2.weight < d.node.toSchema.weight := by
  intro p hp
  unfold fields at h
  split at h
  · cases h
  · next fs' ho =>
    cases h
    have := weight_lt_of_option ho
    have := Schema.weight_le_of_mem_fields hp
    simp only [Opt.weight] at *
    omega
  · next ms ho =>
    obtain ⟨fs', h', hfs⟩ := except_map_eq_ok.mp h
    cases hfs
    have := weight_lt_of_option ho
    have := fieldsOfMembers_weight h' p hp
    simp only [Opt.weight, Json.weight] at *
    omega
  · cases h

theorem schema_weight {s : Schema} (h : d.schema key = .ok (some s)) :
    s.weight < d.node.toSchema.weight := by
  unfold schema at h
  split at h
  · cases h
  · next s' ho =>
    cases h
    simpa [Opt.weight] using weight_lt_of_option ho
  · next raw ho =>
    split at h
    · next s' hs =>
      cases h
      have := weight_lt_of_option ho
      have := Schema.ofJson_weight hs
      simp only [Opt.weight] at *
      omega
    · cases h
  · cases h

/-- The fields of an object are smaller than its node, whichever option gives them. -/
theorem objectProps_weight {props : List (String × Schema)} (h : d.objectProps = .ok props) :
    ∀ p ∈ props, p.2.weight < d.node.toSchema.weight := by
  intro p hp
  unfold objectProps at h
  rcases hprops : d.fields "props" with e | _ | fs
  · simp [hprops, bind, Except.bind] at h
  · rcases hproperties : d.fields "properties" with e | _ | fs
    · simp [hprops, hproperties, bind, Except.bind] at h
    · simp [hprops, hproperties, bind, Except.bind, pure, Except.pure] at h
      subst h
      cases hp
    · simp [hprops, hproperties, bind, Except.bind, pure, Except.pure] at h
      subst h
      exact fields_weight hproperties p hp
  · simp [hprops, bind, Except.bind, pure, Except.pure] at h
    subst h
    exact fields_weight hprops p hp

end Descriptor

end Conform
