import Conform.Proofs.SingleMode
import Conform.Proofs.Containers
import Mathlib.Data.String.Basic
/-! Schemas as data. A schema built in code can be written as JSON: a shorthand as its text, a
node as the object of its rule under `type` followed by its options, a nested schema as its own
JSON, a sequence as an array and named fields as an object in their order. Read back, the data
gives the node with every option raw, and the rules read the nested schemas out of the raw
options when they compile. Proved: when a schema's nodes keep their options in key order,
name no option `type` or `$$type`, hold no check, and hold typed nested schemas only where
their rule reads one (a sequence at a pipe's `steps`, fields at an object's `props` or
`properties`, a schema at an array's `items`), reading its data succeeds and compiles to the
same result as the schema, under any registry whose `pipe`, `object` and `array` are the
built-in ones. -/

namespace Conform

/-! ### The data of a schema -/

mutual
/-- A schema written as JSON. -/
def Schema.toData : Schema → Json
  | .shorthand t => .str t
  | .node rule options => .obj (("type", .str rule) :: Opt.membersToData options)

/-- An option written as JSON; a check has no data and is written as null. -/
def Opt.toData : Opt → Json
  | .value v => v
  | .schema s => s.toData
  | .sequence steps => .arr (Schema.listToData steps)
  | .fields fs => .obj (Schema.fieldsToData fs)
  | .check _ => .null

def Schema.listToData : List Schema → List Json
  | [] => []
  | s :: rest => s.toData :: Schema.listToData rest

def Schema.fieldsToData : List (String × Schema) → List (String × Json)
  | [] => []
  | (k, s) :: rest => (k, s.toData) :: Schema.fieldsToData rest

def Opt.membersToData : List (String × Opt) → List (String × Json)
  | [] => []
  | (k, o) :: rest => (k, o.toData) :: Opt.membersToData rest
end

@[simp] theorem Schema.listToData_eq_map (steps : List Schema) :
    Schema.listToData steps = steps.map Schema.toData := by
  induction steps with
  | nil => rfl
  | cons s rest ih => simp [Schema.listToData, ih]

@[simp] theorem Schema.fieldsToData_eq_map (fs : List (String × Schema)) :
    Schema.fieldsToData fs = fs.map fun (k, s) => (k, s.toData) := by
  induction fs with
  | nil => rfl
  | cons p rest ih => simp [Schema.fieldsToData, ih]

@[simp] theorem Opt.membersToData_eq_map (opts : List (String × Opt)) :
    Opt.membersToData opts = opts.map fun (k, o) => (k, o.toData) := by
  induction opts with
  | nil => rfl
  | cons p rest ih => simp [Opt.membersToData, ih]

/-- An option as reading its data gives it: raw. -/
def Opt.raw (o : Opt) : Opt := .value o.toData

/-- A schema as reading its data gives it: a node keeps its rule and has every option raw. -/
def Schema.rawForm : Schema → Schema
  | .shorthand t => .shorthand t
  | .node rule options => .node rule (options.map fun (k, o) => (k, o.raw))

@[simp] theorem Opt.raw_value (v : Json) : (Opt.value v).raw = .value v := rfl

/-! ### Schemas that can be written as data -/

mutual
/-- Whether a schema can be written as data: each node keeps its options in key order, names
none `type` or `$$type`, holds no check, and holds a typed nested schema only where its rule
reads one. -/
def Schema.expressible : Schema → Bool
  | .shorthand _ => true
  | .node rule options =>
    decide (options.Pairwise fun a b => a.1 < b.1) && Opt.expressibleAll rule options

def Opt.expressibleAll (rule : String) : List (String × Opt) → Bool
  | [] => true
  | (key, o) :: rest =>
    key != "type" && key != "$$type" && Opt.expressibleAt rule key o &&
      Opt.expressibleAll rule rest

def Opt.expressibleAt (rule key : String) : Opt → Bool
  | .value _ => true
  | .schema s => rule == "array" && key == "items" && s.expressible
  | .sequence steps => rule == "pipe" && key == "steps" && Schema.expressibleList steps
  | .fields fs =>
    rule == "object" && (key == "props" || key == "properties") && Schema.expressibleFields fs
  | .check _ => false

def Schema.expressibleList : List Schema → Bool
  | [] => true
  | s :: rest => s.expressible && Schema.expressibleList rest

def Schema.expressibleFields : List (String × Schema) → Bool
  | [] => true
  | (_, s) :: rest => s.expressible && Schema.expressibleFields rest
end

theorem Schema.expressibleList_iff (steps : List Schema) :
    Schema.expressibleList steps = true ↔ ∀ s ∈ steps, s.expressible = true := by
  induction steps with
  | nil => simp [Schema.expressibleList]
  | cons s rest ih => simp [Schema.expressibleList, ih]

theorem Schema.expressibleFields_iff (fs : List (String × Schema)) :
    Schema.expressibleFields fs = true ↔ ∀ p ∈ fs, p.2.expressible = true := by
  induction fs with
  | nil => simp [Schema.expressibleFields]
  | cons p rest ih =>
    obtain ⟨k, s⟩ := p
    simp [Schema.expressibleFields, ih]

theorem Opt.expressibleAll_iff (rule : String) (opts : List (String × Opt)) :
    Opt.expressibleAll rule opts = true ↔
      ∀ p ∈ opts, p.1 ≠ "type" ∧ p.1 ≠ "$$type" ∧ Opt.expressibleAt rule p.1 p.2 = true := by
  induction opts with
  | nil => simp [Opt.expressibleAll]
  | cons p rest ih =>
    obtain ⟨k, o⟩ := p
    simp [Opt.expressibleAll, ih, and_assoc]

/-! ### Reading the data back -/

namespace Options

variable {α : Type}

theorem insert_of_lt {l : List (String × α)} {k : String} (v : α) (h : ∀ p ∈ l, p.1 < k) :
    insert l k v = l ++ [(k, v)] := by
  induction l with
  | nil => rfl
  | cons p rest ih =>
    obtain ⟨k', v'⟩ := p
    have hlt : k' < k := h _ List.mem_cons_self
    simp [insert, (ne_of_lt hlt).symm, not_lt_of_gt hlt,
      ih fun q hq => h q (List.mem_cons_of_mem _ hq)]

end Options

theorem foldl_set_ascending {g : Node → String × Json → Node}
    (hg : ∀ n k v, k ≠ "type" → g n (k, v) = n.set k (.value v)) (rule : String) :
    ∀ (ms : List (String × Json)) (acc : List (String × Opt)),
      ms.Pairwise (fun a b => a.1 < b.1) → (∀ a ∈ acc, ∀ m ∈ ms, a.1 < m.1) →
      (∀ m ∈ ms, m.1 ≠ "type") →
      ms.foldl g ⟨rule, acc⟩ = ⟨rule, acc ++ ms.map fun (k, v) => (k, .value v)⟩
  | [], acc, _, _, _ => by simp
  | (k, v) :: rest, acc, hms, hacc, htype => by
    rw [List.pairwise_cons] at hms
    have hk : k ≠ "type" := htype _ List.mem_cons_self
    -- the member goes at the end, and the rest rise above it
    have hset : g ⟨rule, acc⟩ (k, v) = ⟨rule, acc ++ [(k, .value v)]⟩ := by
      rw [hg _ _ _ hk, Node.set,
        Options.insert_of_lt _ fun a ha => hacc a ha _ List.mem_cons_self]
    rw [List.foldl_cons, hset, foldl_set_ascending hg rule rest _ hms.2 ?_
      fun m hm => htype m (List.mem_cons_of_mem _ hm)]
    · simp
    · intro a ha m hm
      rcases List.mem_append.mp ha with ha | ha
      · exact hacc a ha m (List.mem_cons_of_mem _ hm)
      · rcases List.mem_singleton.mp ha with rfl
        exact hms.1 m hm

/-- The data of a schema that can be written as data reads back as the schema with its options
raw. -/
theorem Schema.ofJson_toData {S : Schema} (h : S.expressible = true) :
    Schema.ofJson S.toData = .ok S.rawForm := by
  cases S with
  | shorthand t => rw [Schema.toData, Schema.ofJson, Schema.rawForm]
  | node rule opts =>
    simp only [Schema.expressible, Bool.and_eq_true, decide_eq_true_eq] at h
    obtain ⟨hsorted, hall⟩ := h
    have hkeys := (Opt.expressibleAll_iff rule opts).mp hall
    have hnone : (opts.map fun (k, o) => (k, o.toData)).lookup "$$type" = none := by
      rw [List.lookup_eq_none_iff]
      simp only [List.mem_map, Prod.exists, forall_exists_index, and_imp]
      rintro _ k o hmem rfl
      simpa using (hkeys _ hmem).2.1.symm
    rw [Schema.toData, Schema.ofJson, Schema.nodeOfMembers]
    simp only [Opt.membersToData_eq_map, List.lookup_cons, hnone,
      show ("$$type" == "type") = false from rfl, show ("type" == "type") = true from rfl,
      List.foldl_cons, if_pos]
    rw [show Node.ofRule rule = ⟨rule, []⟩ from rfl, foldl_set_ascending (fun n k v hk => by simp [hk]) rule _ [] ?_ (by simp) ?_]
    · simp [Node.toSchema, Schema.rawForm, Opt.raw]
    · rw [List.pairwise_map]
      exact hsorted
    · simp only [List.mem_map, Prod.exists, forall_exists_index, and_imp]
      rintro _ k o hmem rfl
      exact (hkeys _ hmem).1

/-! ### Sizes of the schemas a node holds -/

theorem Opt.weight_le_of_mem {opts : List (String × Opt)} {p : String × Opt} (h : p ∈ opts) :
    p.2.weight ≤ Opt.weightMembers opts := by
  induction opts with
  | nil => cases h
  | cons q rest ih =>
    obtain ⟨k, o⟩ := q
    rcases List.mem_cons.mp h with rfl | h
    · simp [Opt.weightMembers]
    · have := ih h
      simp only [Opt.weightMembers]
      omega

theorem Schema.weight_le_of_mem_list {steps : List Schema} {s : Schema} (h : s ∈ steps) :
    s.weight ≤ Schema.weightList steps := by
  induction steps with
  | nil => cases h
  | cons t rest ih =>
    rcases List.mem_cons.mp h with rfl | h
    · simp [Schema.weightList]
    · have := ih h
      simp only [Schema.weightList]
      omega

theorem Schema.weight_le_of_mem_fields {fs : List (String × Schema)} {p : String × Schema}
    (h : p ∈ fs) : p.2.weight ≤ Schema.weightFields fs := by
  induction fs with
  | nil => cases h
  | cons q rest ih =>
    obtain ⟨k, t⟩ := q
    rcases List.mem_cons.mp h with rfl | h
    · simp [Schema.weightFields]
    · have := ih h
      simp only [Schema.weightFields]
      omega

/-! ### Descriptors with every option raw -/

namespace Options

variable {α β : Type}

theorem lookup_map (f : α → β) (l : List (String × α)) (key : String) :
    (l.map fun (k, a) => (k, f a)).lookup key = (l.lookup key).map f := by
  induction l with
  | nil => rfl
  | cons p rest ih =>
    obtain ⟨k, a⟩ := p
    simp only [List.map_cons, List.lookup_cons]
    cases key == k <;> simp [ih]

theorem mem_of_lookup {l : List (String × α)} {key : String} {a : α}
    (h : l.lookup key = some a) : (key, a) ∈ l := by
  obtain ⟨l₁, l₂, rfl, -⟩ := List.lookup_eq_some_iff.mp h
  simp

end Options

namespace Descriptor

variable {d : Descriptor}

/-- The descriptor of the same node with every option raw, as its data reads back. -/
def rawForm (d : Descriptor) : Descriptor :=
  ⟨⟨d.node.rule, d.node.options.map fun (k, o) => (k, o.raw)⟩, d.label⟩

@[simp] theorem rule_rawForm : d.rawForm.rule = d.rule := rfl

@[simp] theorem label_rawForm : d.rawForm.label = d.label := rfl

theorem option?_rawForm (key : String) : d.rawForm.option? key = (d.option? key).map Opt.raw :=
  Options.lookup_map _ _ key

/-- Every option of the node can be written as data where it stands. -/
def Expressible (d : Descriptor) : Prop :=
  ∀ p ∈ d.node.options, Opt.expressibleAt d.rule p.1 p.2 = true

theorem Expressible.at (hd : d.Expressible) {key : String} {o : Opt}
    (h : d.option? key = some o) : Opt.expressibleAt d.rule key o = true :=
  hd _ (Options.mem_of_lookup h)

end Descriptor

theorem Opt.expressibleAt_cases {rule key : String} {o : Opt}
    (h : Opt.expressibleAt rule key o = true) :
    o.raw = o ∨
      (∃ steps, o = .sequence steps ∧ rule = "pipe" ∧ key = "steps" ∧
        ∀ s ∈ steps, s.expressible = true) ∨
      (∃ fs, o = .fields fs ∧ rule = "object" ∧ (key = "props" ∨ key = "properties") ∧
        ∀ p ∈ fs, p.2.expressible = true) ∨
      (∃ s, o = .schema s ∧ rule = "array" ∧ key = "items" ∧ s.expressible = true) := by
  cases o with
  | value v => exact .inl rfl
  | schema s =>
    simp only [Opt.expressibleAt, Bool.and_eq_true, beq_iff_eq] at h
    exact .inr (.inr (.inr ⟨s, rfl, h.1.1, h.1.2, h.2⟩))
  | sequence steps =>
    simp only [Opt.expressibleAt, Bool.and_eq_true, beq_iff_eq] at h
    exact .inr (.inl ⟨steps, rfl, h.1.1, h.1.2, (Schema.expressibleList_iff steps).mp h.2⟩)
  | fields fs =>
    simp only [Opt.expressibleAt, Bool.and_eq_true, beq_iff_eq, Bool.or_eq_true] at h
    exact .inr (.inr (.inl ⟨fs, rfl, h.1.1, h.1.2, (Schema.expressibleFields_iff fs).mp h.2⟩))
  | check c => cases h

namespace Descriptor

variable {d : Descriptor}

theorem option?_rawForm_of_key (hd : d.Expressible) (key : String)
    (hk : key ∉ ["steps", "props", "properties", "items"]) :
    d.rawForm.option? key = d.option? key := by
  rw [option?_rawForm]
  rcases ho : d.option? key with _ | o
  · rfl
  · rcases Opt.expressibleAt_cases (hd.at ho) with
      h | ⟨_, -, -, rfl, -⟩ | ⟨_, -, -, hkey, -⟩ | ⟨_, -, -, rfl, -⟩
    · simp [h]
    · simp at hk
    · rcases hkey with rfl | rfl <;> simp at hk
    · simp at hk

theorem rawForm_eq (hd : d.Expressible) (hr : d.rule ∉ ["pipe", "object", "array"]) :
    d.rawForm = d := by
  have hraw : ∀ p ∈ d.node.options, (p.1, p.2.raw) = p := by
    intro p hp
    rcases Opt.expressibleAt_cases (hd p hp) with
      h | ⟨_, -, hrule, -⟩ | ⟨_, -, hrule, -⟩ | ⟨_, -, hrule, -⟩
    · rw [h]
    all_goals rw [hrule] at hr; simp at hr
  simp only [rawForm, List.map_congr_left hraw, List.map_id']

theorem stepsOfItems_rawForm (key : String) (n : Nat) (items : List Json) :
    d.rawForm.stepsOfItems key n items = d.stepsOfItems key n items := by
  induction items generalizing n with
  | nil => rfl
  | cons x rest ih => simp only [stepsOfItems, ih, invalid, rule_rawForm, label_rawForm]

theorem fieldsOfMembers_rawForm (key : String) (ms : List (String × Json)) :
    d.rawForm.fieldsOfMembers key ms = d.fieldsOfMembers key ms := by
  induction ms with
  | nil => rfl
  | cons m rest ih =>
    obtain ⟨name, raw⟩ := m
    simp only [fieldsOfMembers, ih, invalid, rule_rawForm, label_rawForm]

/-! Where an option is raw already, the rules read the raw form alike. -/

section Raw

variable {key : String} (h : d.rawForm.option? key = d.option? key)
include h

theorem sequence_rawForm_of_raw : d.rawForm.sequence key = d.sequence key := by
  simp only [sequence, h, stepsOfItems_rawForm]

theorem fields_rawForm_of_raw : d.rawForm.fields key = d.fields key := by
  simp only [fields, h, fieldsOfMembers_rawForm, invalid, rule_rawForm, label_rawForm]

theorem schema_rawForm_of_raw : d.rawForm.schema key = d.schema key := by
  simp only [schema, h, invalid, rule_rawForm, label_rawForm]

end Raw

/-! Where it is a typed nested schema, the raw form reads back its raw form. -/

theorem sequence_rawForm_of_sequence {key : String} {steps : List Schema}
    (h : d.option? key = some (.sequence steps)) (hs : ∀ s ∈ steps, s.expressible = true) :
    d.rawForm.sequence key = .ok (some (steps.map Schema.rawForm)) := by
  refine sequence_of_steps (.inr ⟨steps.map Schema.toData, ?_, ?_⟩)
  · simp [option?_rawForm, h, Opt.raw, Opt.toData]
  · clear h
    induction steps with
    | nil => rfl
    | cons s rest ih =>
      have hrest := ih fun t ht => hs t (List.mem_cons_of_mem _ ht)
      simp only [List.map_cons, List.mapM_cons, Schema.ofJson_toData (hs s List.mem_cons_self),
        hrest]
      rfl

theorem fields_rawForm_of_fields {key : String} {fs : List (String × Schema)}
    (h : d.option? key = some (.fields fs)) (hs : ∀ p ∈ fs, p.2.expressible = true) :
    d.rawForm.fields key = .ok (some (fs.map fun p => (p.1, p.2.rawForm))) := by
  have hraw : d.rawForm.option? key = some (.value (.obj (fs.map fun p => (p.1, p.2.toData)))) := by
    simp [option?_rawForm, h, Opt.raw, Opt.toData]
  simp only [fields, hraw]
  clear h hraw
  induction fs with
  | nil => rfl
  | cons p rest ih =>
    have hrest := ih fun q hq => hs q (List.mem_cons_of_mem _ hq)
    simp only [Except.map] at hrest
    split at hrest
    · cases hrest
    · next r hr =>
      cases hrest
      simp [fieldsOfMembers, Schema.ofJson_toData (hs p List.mem_cons_self), hr, bind,
        Except.bind, Except.map]

theorem schema_rawForm_of_schema {key : String} {s : Schema}
    (h : d.option? key = some (.schema s)) (hs : s.expressible = true) :
    d.rawForm.schema key = .ok (some s.rawForm) := by
  simp [schema, option?_rawForm, h, Opt.raw, Opt.toData, Schema.ofJson_toData hs]

end Descriptor

/-! ### The readers of a rule's own options -/

section Readers

variable {d : Descriptor} (hd : d.Expressible)
include hd

theorem Presence.ofDescriptor_rawForm :
    Presence.ofDescriptor d.rawForm = Presence.ofDescriptor d := by
  simp only [Presence.ofDescriptor, Descriptor.value?, Descriptor.flag, Descriptor.optionalFlag,
    Descriptor.invalid, Descriptor.rule_rawForm, Descriptor.label_rawForm,
    Descriptor.option?_rawForm_of_key hd "default" (by decide),
    Descriptor.option?_rawForm_of_key hd "optional" (by decide),
    Descriptor.option?_rawForm_of_key hd "nullable" (by decide)]
  rfl

theorem Rule.Strictness.ofDescriptor_rawForm :
    Rule.Strictness.ofDescriptor d.rawForm = Rule.Strictness.ofDescriptor d := by
  have hs := Descriptor.option?_rawForm_of_key hd "strict" (by decide)
  have hm := Descriptor.option?_rawForm_of_key hd "$$strict" (by decide)
  unfold Rule.Strictness.ofDescriptor Descriptor.has
  rw [hs]
  split_ifs <;> simp only [hs, hm, Descriptor.invalid, Descriptor.rule_rawForm,
    Descriptor.label_rawForm]

theorem Rule.Bounds.ofDescriptor_rawForm :
    Rule.Bounds.ofDescriptor d.rawForm = Rule.Bounds.ofDescriptor d := by
  simp only [Rule.Bounds.ofDescriptor, Descriptor.optionalFlag, Descriptor.count,
    Descriptor.invalid, Descriptor.rule_rawForm, Descriptor.label_rawForm,
    Descriptor.option?_rawForm_of_key hd "empty" (by decide),
    Descriptor.option?_rawForm_of_key hd "min" (by decide),
    Descriptor.option?_rawForm_of_key hd "max" (by decide),
    Descriptor.option?_rawForm_of_key hd "length" (by decide)]

end Readers

/-! ### The nested schemas a rule reads -/

namespace Descriptor

variable {d : Descriptor}

theorem weight_lt_of_option {key : String} {o : Opt} (h : d.option? key = some o) :
    o.weight < d.node.toSchema.weight := by
  have : o.weight ≤ Opt.weightMembers d.node.options := Opt.weight_le_of_mem (Options.mem_of_lookup h)
  simp only [Node.toSchema, Schema.weight]
  omega

theorem sequence_rawForm_cases (hd : d.Expressible) :
    d.rawForm.sequence "steps" = d.sequence "steps" ∨
      ∃ steps, d.sequence "steps" = .ok (some steps) ∧
        d.rawForm.sequence "steps" = .ok (some (steps.map Schema.rawForm)) ∧
        ∀ s ∈ steps, s.weight < d.node.toSchema.weight ∧ s.expressible = true := by
  rcases ho : d.option? "steps" with _ | o
  · exact .inl (sequence_rawForm_of_raw (by simp [option?_rawForm, ho]))
  rcases Opt.expressibleAt_cases (hd.at ho) with
    h | ⟨steps, rfl, -, -, hs⟩ | ⟨_, -, -, hk, -⟩ | ⟨_, -, -, hk, -⟩
  · exact .inl (sequence_rawForm_of_raw (by simp [option?_rawForm, ho, h]))
  · have hw := weight_lt_of_option ho
    refine .inr ⟨steps, sequence_of_steps (.inl ho), sequence_rawForm_of_sequence ho hs,
      fun s hmem => ⟨?_, hs s hmem⟩⟩
    have := Schema.weight_le_of_mem_list hmem
    simp only [Opt.weight] at hw
    omega
  · rcases hk with hk | hk <;> exact absurd hk (by decide)
  · exact absurd hk (by decide)

theorem schema_rawForm_cases (hd : d.Expressible) :
    d.rawForm.schema "items" = d.schema "items" ∨
      ∃ s, d.schema "items" = .ok (some s) ∧ d.rawForm.schema "items" = .ok (some s.rawForm) ∧
        s.weight < d.node.toSchema.weight ∧ s.expressible = true := by
  rcases ho : d.option? "items" with _ | o
  · exact .inl (schema_rawForm_of_raw (by simp [option?_rawForm, ho]))
  rcases Opt.expressibleAt_cases (hd.at ho) with
    h | ⟨_, -, -, hk, -⟩ | ⟨_, -, -, hk, -⟩ | ⟨s, rfl, -, -, hs⟩
  · exact .inl (schema_rawForm_of_raw (by simp [option?_rawForm, ho, h]))
  · exact absurd hk (by decide)
  · rcases hk with hk | hk <;> exact absurd hk (by decide)
  · exact .inr ⟨s, by simp [schema, ho], schema_rawForm_of_schema ho hs,
      weight_lt_of_option ho, hs⟩

theorem fields_rawForm_cases (hd : d.Expressible) {key : String}
    (hkey : key = "props" ∨ key = "properties") :
    d.rawForm.fields key = d.fields key ∨
      ∃ fs, d.fields key = .ok (some fs) ∧
        d.rawForm.fields key = .ok (some (fs.map fun p => (p.1, p.2.rawForm))) ∧
        ∀ p ∈ fs, p.2.weight < d.node.toSchema.weight ∧ p.2.expressible = true := by
  rcases ho : d.option? key with _ | o
  · exact .inl (fields_rawForm_of_raw (by simp [option?_rawForm, ho]))
  rcases Opt.expressibleAt_cases (hd.at ho) with
    h | ⟨_, -, -, rfl, -⟩ | ⟨fs, rfl, -, -, hs⟩ | ⟨_, -, -, rfl, -⟩
  · exact .inl (fields_rawForm_of_raw (by simp [option?_rawForm, ho, h]))
  · rcases hkey with hk | hk <;> exact absurd hk (by decide)
  · have hw := weight_lt_of_option ho
    refine .inr ⟨fs, by simp [fields, ho], fields_rawForm_of_fields ho hs,
      fun p hmem => ⟨?_, hs p hmem⟩⟩
    have := Schema.weight_le_of_mem_fields hmem
    simp only [Opt.weight] at hw
    omega
  · rcases hkey with hk | hk <;> exact absurd hk (by decide)

end Descriptor

theorem Descriptor.objectProps_rawForm_cases {d : Descriptor} (hd : d.Expressible) :
    d.rawForm.objectProps = d.objectProps ∨
      ∃ fs, d.objectProps = .ok fs ∧
        d.rawForm.objectProps = .ok (fs.map fun p => (p.1, p.2.rawForm)) ∧
        ∀ p ∈ fs, p.2.weight < d.node.toSchema.weight ∧ p.2.expressible = true := by
  rcases Descriptor.fields_rawForm_cases hd (.inl rfl) with hp | ⟨fs, h, h', hfs⟩
  · -- `props` reads alike; without it, `properties` decides
    rcases hq : d.fields "props" with e | _ | fs
    · exact .inl (by simp [Descriptor.objectProps, hp, hq, bind, Except.bind])
    · rcases Descriptor.fields_rawForm_cases hd (.inr rfl) with hr | ⟨fs, h, h', hfs⟩
      · exact .inl (by simp [Descriptor.objectProps, hp, hq, hr, bind, Except.bind])
      · refine .inr ⟨fs, ?_, ?_, hfs⟩ <;>
          simp [Descriptor.objectProps, hp, hq, h, h', bind, Except.bind, pure, Except.pure]
    · exact .inl (by simp [Descriptor.objectProps, hp, hq, bind, Except.bind])
  · refine .inr ⟨fs, ?_, ?_, hfs⟩ <;>
      simp [Descriptor.objectProps, h, h', bind, Except.bind, pure, Except.pure]

/-! ### Compiling the raw form -/

section Compile

variable {reg : Registry}

theorem compileSteps_rawForm {steps : List Schema}
    (h : ∀ s ∈ steps, ∀ ctx, compileRule reg s.rawForm none ctx = compileRule reg s none ctx)
    (ctx : Context) : compileSteps reg (steps.map Schema.rawForm) ctx = compileSteps reg steps ctx := by
  induction steps generalizing ctx with
  | nil => rfl
  | cons s rest ih =>
    simp only [List.map_cons, compileSteps, h s List.mem_cons_self,
      ih fun t ht => h t (List.mem_cons_of_mem _ ht)]

theorem compileFields_rawForm {fs : List (String × Schema)}
    (h : ∀ p ∈ fs, ∀ ctx, compileRule reg p.2.rawForm none ctx = compileRule reg p.2 none ctx)
    (ctx : Context) :
    compileFields reg (fs.map fun p => (p.1, p.2.rawForm)) ctx = compileFields reg fs ctx := by
  induction fs generalizing ctx with
  | nil => rfl
  | cons p rest ih =>
    simp only [List.map_cons, compileFields, h p List.mem_cons_self,
      ih fun q hq => h q (List.mem_cons_of_mem _ hq)]

section Rules

variable {d : Descriptor} (hd : d.Expressible)
  (hIH : ∀ s : Schema, s.weight < d.node.toSchema.weight → s.expressible = true →
    ∀ next ctx, compileRule reg s.rawForm next ctx = compileRule reg s next ctx)
include hd hIH

theorem runRequests_pipe_rawForm (ctx : Context) :
    runRequests reg (Rule.pipe d.rawForm) ctx = runRequests reg (Rule.pipe d) ctx := by
  rcases Descriptor.sequence_rawForm_cases hd with h | ⟨steps, h, h', hs⟩
  · unfold Rule.pipe
    rw [h]
  · rw [runRequests_pipe_of_steps ctx h', runRequests_pipe_of_steps ctx h,
      compileSteps_rawForm fun s hmem => hIH s (hs s hmem).1 (hs s hmem).2 none]

theorem runRequests_object_rawForm (ctx : Context) :
    runRequests reg (Rule.object d.rawForm) ctx = runRequests reg (Rule.object d) ctx := by
  rw [runRequests_object, runRequests_object, Rule.Strictness.ofDescriptor_rawForm hd]
  rcases Descriptor.objectProps_rawForm_cases hd with h | ⟨fs, h, h', hfs⟩
  · rw [h]
  · rw [h, h', thenOk_ok, thenOk_ok,
      compileFields_rawForm fun p hmem => hIH p.2 (hfs p hmem).1 (hfs p hmem).2 none]

theorem runRequests_array_rawForm (ctx : Context) :
    runRequests reg (Rule.array d.rawForm) ctx = runRequests reg (Rule.array d) ctx := by
  rw [runRequests_array, runRequests_array, Rule.Bounds.ofDescriptor_rawForm hd]
  rcases Descriptor.schema_rawForm_cases hd with h | ⟨s, h, h', hw, hs⟩
  · rw [h]
  · rw [h, h']
    simp only [thenOk_ok, hIH s hw hs none]

/-- Under the built-in `pipe`, `object` and `array`, every rule compiler answers the raw form
of a node as it answers the node. -/
theorem runRequests_rawForm
    (hreg : ∀ tag ∈ ["pipe", "object", "array"], reg.get? tag = Registry.builtins.get? tag)
    {comp : RuleCompiler} (hg : reg.get? d.rule = some comp) (ctx : Context) :
    runRequests reg (comp d.rawForm) ctx = runRequests reg (comp d) ctx := by
  have hcomp : ∀ tag ∈ ["pipe", "object", "array"], d.rule = tag →
      some comp = Registry.builtins.get? tag := fun tag htag hrule => by
    rw [← hg, hrule, hreg tag htag]
  -- the container rules read nested schemas; every other rule sees no typed option
  by_cases hp : d.rule = "pipe"
  · obtain rfl : comp = Rule.pipe := Option.some.inj (hcomp "pipe" (by simp) hp)
    exact runRequests_pipe_rawForm hd hIH ctx
  by_cases ho : d.rule = "object"
  · obtain rfl : comp = Rule.object := Option.some.inj (hcomp "object" (by simp) ho)
    exact runRequests_object_rawForm hd hIH ctx
  by_cases ha : d.rule = "array"
  · obtain rfl : comp = Rule.array := Option.some.inj (hcomp "array" (by simp) ha)
    exact runRequests_array_rawForm hd hIH ctx
  rw [Descriptor.rawForm_eq hd (by simp [hp, ho, ha])]

end Rules

end Compile

/-! ### Schemas and their data -/

section Data

variable {reg : Registry}

theorem Schema.expressible_node {rule : String} {opts : List (String × Opt)}
    (h : (Schema.node rule opts).expressible = true) (label : String) :
    (⟨⟨rule, opts⟩, label⟩ : Descriptor).Expressible := by
  simp only [Schema.expressible, Bool.and_eq_true] at h
  exact fun p hp => ((Opt.expressibleAll_iff rule opts).mp h.2 p hp).2.2

/-- A schema that can be written as data compiles as its raw form does, in every context and with
every continuation. -/
theorem compileRule_rawForm
    (hreg : ∀ tag ∈ ["pipe", "object", "array"], reg.get? tag = Registry.builtins.get? tag) :
    ∀ n (S : Schema), S.weight < n → S.expressible = true →
      ∀ next ctx, compileRule reg S.rawForm next ctx = compileRule reg S next ctx
  | 0, _, hw, _ => absurd hw (Nat.not_lt_zero _)
  | _ + 1, .shorthand _, _, _ => fun _ _ => rfl
  | n + 1, .node rule opts, hw, hS => by
    intro next ctx
    let d : Descriptor := ⟨⟨rule, opts⟩, renderPath ctx.label⟩
    have hd : d.Expressible := Schema.expressible_node hS _
    -- induction on the size: the rules compile the schemas a node holds, which are smaller
    have hIH : ∀ s : Schema, s.weight < d.node.toSchema.weight → s.expressible = true →
        ∀ next ctx, compileRule reg s.rawForm next ctx = compileRule reg s next ctx :=
      fun s hs => compileRule_rawForm hreg n s (by simp only [d, Node.toSchema] at hs; omega)
    rcases hg : reg.get? rule with _ | comp
    · -- an unknown rule is refused alike
      have hres : ∀ o, reg.resolve (.node rule o) (renderPath ctx.label) =
          .error (.unknownRule rule (renderPath ctx.label)) := fun o => by
        simp [Registry.resolve, Registry.normalize, Descriptor.rule, hg, bind, Except.bind]
      rw [Schema.rawForm, compileRule_of_unresolved (hres _), compileRule_of_unresolved (hres _)]
    · have hr : reg.resolve (.node rule opts) (renderPath ctx.label) = .ok (d, comp) :=
        Registry.resolve_node _ hg
      have hr' : reg.resolve (Schema.node rule opts).rawForm (renderPath ctx.label) =
          .ok (d.rawForm, comp) := Registry.resolve_node _ hg
      have hpres := Presence.ofDescriptor_rawForm hd
      rcases hp : Presence.ofDescriptor d with e | p
      · rw [compileRule_of_presence_error hr' (hpres.trans hp),
          compileRule_of_presence_error hr hp]
      · rw [compileRule_of_resolve hr' (hpres.trans hp), compileRule_of_resolve hr hp,
          runRequests_rawForm hd hIH hreg hg]

theorem Compiler.declaredMode_rawForm (c : Compiler) {S : Schema} (hS : S.expressible = true) :
    c.declaredMode S.rawForm = c.declaredMode S := by
  cases S with
  | shorthand t => rfl
  | node rule opts =>
    have hasync : (opts.map fun (k, o) => (k, o.raw)).lookup "$$async" = opts.lookup "$$async" :=
      Descriptor.option?_rawForm_of_key (Schema.expressible_node hS "") "$$async" (by decide)
    simp only [Compiler.declaredMode, Schema.rawForm, hasync]

/-- Schemas as data agree with schemas built in code: an expressible schema's data reads back and
compiles to exactly what the schema compiles to. -/
theorem compile_ofJson_toData (c : Compiler)
    (hreg : ∀ tag ∈ ["pipe", "object", "array"], c.registry.get? tag = Registry.builtins.get? tag)
    {S : Schema} (hS : S.expressible = true) :
    (Schema.ofJson S.toData).map c.compile = .ok (c.compile S) := by
  rw [Schema.ofJson_toData hS]
  exact congrArg Except.ok (c.compile_congr (c.declaredMode_rawForm hS)
    fun ctx => compileRule_rawForm hreg _ S (Nat.lt_succ_self _) hS none ctx)

/-- A pipe of a number and an object of a string, written as data, reads back and compiles as
built. -/
theorem compile_ofJson_toData_pipe :
    let c : Compiler := { registry := Registry.builtins }
    let S : Schema := (Schema.pipe [.shorthand "number",
      (Schema.object [("name", .shorthand "string")]).toSchema]).toSchema
    (∀ tag ∈ ["pipe", "object", "array"], c.registry.get? tag = Registry.builtins.get? tag) ∧
      S.expressible = true ∧ (Schema.ofJson S.toData).map c.compile = .ok (c.compile S) :=
  ⟨fun _ _ => rfl, by decide, compile_ofJson_toData _ (fun _ _ => rfl) (by decide)⟩

end Data

end Conform
