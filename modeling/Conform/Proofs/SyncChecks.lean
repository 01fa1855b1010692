import Conform.Proofs.Flatten
/-! Schemas whose custom checks are all synchronous. A check is the only part of a schema that
can tie it to one mode; raw JSON and shorthand text hold no checks. Proved: a schema read from
JSON or a shorthand has only synchronous checks (none at all), and every schema a built-in rule
reads from such a node's options, a step, a field or the items, has only synchronous checks,
as does the check the custom rule reads. -/

namespace Conform

mutual
/-- Whether every custom check in a schema is synchronous. -/
def Schema.syncChecks : Schema → Bool
  | .shorthand _ => true
  | .node _ options => Opt.syncChecksAll options

def Opt.syncChecks : Opt → Bool
  | .value _ => true
  | .schema s => s.syncChecks
  | .sequence steps => Schema.syncChecksList steps
  | .fields fs => Schema.syncChecksFields fs
  | .check c => c.mode == .sync

def Schema.syncChecksList : List Schema → Bool
  | [] => true
  | s :: rest => s.syncChecks && Schema.syncChecksList rest

def Schema.syncChecksFields : List (String × Schema) → Bool
  | [] => true
  | (_, s) :: rest => s.syncChecks && Schema.syncChecksFields rest

def Opt.syncChecksAll : List (String × Opt) → Bool
  | [] => true
  | (_, o) :: rest => o.syncChecks && Opt.syncChecksAll rest
end

/-! ### Lists of schemas and options -/

theorem Schema.syncChecksList_iff (steps : List Schema) :
    Schema.syncChecksList steps = true ↔ ∀ s ∈ steps, s.syncChecks = true := by
  induction steps with
  | nil => simp [Schema.syncChecksList]
  | cons s rest ih => simp [Schema.syncChecksList, ih]

theorem Schema.syncChecksFields_iff (fs : List (String × Schema)) :
    Schema.syncChecksFields fs = true ↔ ∀ p ∈ fs, p.2.syncChecks = true := by
  induction fs with
  | nil => simp [Schema.syncChecksFields]
  | cons p rest ih =>
    obtain ⟨k, s⟩ := p
    simp [Schema.syncChecksFields, ih]

theorem Opt.syncChecks_of_lookup {opts : List (String × Opt)} {key : String} {o : Opt}
    (h : Opt.syncChecksAll opts = true) (hk : opts.lookup key = some o) : o.syncChecks = true := by
  induction opts with
  | nil => cases hk
  | cons p rest ih =>
    obtain ⟨k, o'⟩ := p
    simp only [Opt.syncChecksAll, Bool.and_eq_true] at h
    simp only [List.lookup_cons] at hk
    split at hk
    · cases hk
      exact h.1
    · exact ih h.2 hk

theorem Options.syncChecksAll_insert {opts : List (String × Opt)} {key : String} {o : Opt}
    (h : Opt.syncChecksAll opts = true) (ho : o.syncChecks = true) :
    Opt.syncChecksAll (Options.insert opts key o) = true := by
  induction opts with
  | nil => simp [Options.insert, Opt.syncChecksAll, ho]
  | cons p rest ih =>
    obtain ⟨k, o'⟩ := p
    simp only [Opt.syncChecksAll, Bool.and_eq_true] at h
    unfold Options.insert
    split
    · simp [Opt.syncChecksAll, ho, h.2]
    · split
      · simp [Opt.syncChecksAll, ho, h.1, h.2]
      · simp [Opt.syncChecksAll, h.1, ih h.2]

/-! ### Schemas read from text and JSON -/

theorem Shorthand.setPiece_syncChecks {n : Node} (h : Opt.syncChecksAll n.options = true)
    (piece : List Char) : Opt.syncChecksAll (Shorthand.setPiece n piece).options = true := by
  unfold Shorthand.setPiece
  split <;> exact Options.syncChecksAll_insert h rfl

theorem Shorthand.foldl_setPiece_syncChecks (pieces : List (List Char)) {n : Node}
    (h : Opt.syncChecksAll n.options = true) :
    Opt.syncChecksAll (pieces.foldl Shorthand.setPiece n).options = true := by
  induction pieces generalizing n with
  | nil => exact h
  | cons piece rest ih => exact ih (Shorthand.setPiece_syncChecks h piece)

theorem Shorthand.expand_syncChecks {text : String} {n : Node}
    (h : Shorthand.expand text = .ok n) : Opt.syncChecksAll n.options = true := by
  unfold Shorthand.expand at h
  split at h
  · cases h
  · split at h
    · cases h
    · cases h
      exact Shorthand.foldl_setPiece_syncChecks _ rfl

theorem foldl_set_value_syncChecks (members : List (String × Json)) {n : Node}
    (h : Opt.syncChecksAll n.options = true) :
    Opt.syncChecksAll (members.foldl (fun n (kv : String × Json) =>
      if kv.1 = "type" then n else n.set kv.1 (.value kv.2)) n).options = true := by
  induction members generalizing n with
  | nil => exact h
  | cons kv rest ih =>
    refine ih ?_
    dsimp only
    split
    · exact h
    · exact Options.syncChecksAll_insert h rfl

/-- A schema read from JSON has no custom checks: JSON cannot hold one. -/
theorem Schema.ofJson_syncChecks {j : Json} {s : Schema} (h : Schema.ofJson j = .ok s) :
    s.syncChecks = true := by
  refine (Schema.ofJson.mutual_induct
    (fun j => ∀ s, Schema.ofJson j = .ok s → s.syncChecks = true)
    (fun ms => ∀ s, Schema.nodeOfMembers ms = .ok s → s.syncChecks = true)
    (fun ms => ∀ props, Schema.propsOfMembers ms = .ok props →
      Schema.syncChecksFields props = true)
    ?str ?obj ?other ?typed ?badTyped ?tagged ?badTagged ?untagged ?nil ?skip ?member).1 j s h
  case str =>
    intro t s h
    rw [Schema.ofJson] at h
    cases h
    rfl
  case obj =>
    intro ms ih s h
    rw [Schema.ofJson] at h
    exact ih s h
  case other =>
    intro v hstr hobj s h
    cases v with
    | str t => exact absurd rfl (hstr t)
    | obj ms => exact absurd rfl (hobj ms)
    | _ => simp [Schema.ofJson] at h
  case typed =>
    intro ms tag hlook ih s h
    rw [Schema.nodeOfMembers, hlook] at h
    obtain ⟨node, hnode, h⟩ := except_bind_eq_ok.mp h
    obtain ⟨props, hprops, h⟩ := except_bind_eq_ok.mp h
    cases h
    exact Options.syncChecksAll_insert (Shorthand.expand_syncChecks hnode) (ih props hprops)
  case badTyped =>
    intro ms v hstr hlook s h
    rw [Schema.nodeOfMembers, hlook] at h
    cases v with
    | str t => exact absurd rfl (hstr t)
    | _ => cases h
  case tagged =>
    intro ms _ tag _ s h
    simp only [Schema.nodeOfMembers, *] at h
    cases h
    exact foldl_set_value_syncChecks ms rfl
  case badTagged =>
    intro ms hnone v hstr hlook s h
    rw [Schema.nodeOfMembers, hnone, hlook] at h
    cases v with
    | str t => exact absurd rfl (hstr t)
    | _ => cases h
  case untagged =>
    intro ms hnone htype s h
    rw [Schema.nodeOfMembers, hnone, htype] at h
    cases h
  case nil =>
    intro props h
    rw [Schema.propsOfMembers] at h
    cases h
    rfl
  case skip =>
    intro v rest ih props h
    rw [Schema.propsOfMembers, if_pos rfl] at h
    exact ih props h
  case member =>
    intro k v rest hk ihv ihrest props h
    rw [Schema.propsOfMembers, if_neg hk] at h
    obtain ⟨sv, hsv, h⟩ := except_bind_eq_ok.mp h
    obtain ⟨r, hr, h⟩ := except_bind_eq_ok.mp h
    cases h
    simp [Schema.syncChecksFields, ihv sv hsv, ihrest r hr]

/-! ### What the built-in rules read -/

theorem Registry.resolve_syncChecks {reg : Registry} {s : Schema} {label : String}
    {d : Descriptor} {comp : RuleCompiler} (hs : s.syncChecks = true)
    (h : reg.resolve s label = .ok (d, comp)) : Opt.syncChecksAll d.node.options = true := by
  obtain ⟨d', hd', h⟩ := except_bind_eq_ok.mp h
  have hd : d' = d := by
    split at h
    · cases h; rfl
    · cases h
  subst hd
  cases s with
  | shorthand text =>
    obtain ⟨n, hn, h⟩ := except_bind_eq_ok.mp hd'
    cases h
    exact Shorthand.expand_syncChecks hn
  | node rule options =>
    cases hd'
    exact hs

section Readers

variable {d : Descriptor} {key : String}

theorem Descriptor.stepsOfItems_syncChecks {n : Nat} {items : List Json} {steps : List Schema}
    (h : d.stepsOfItems key n items = .ok steps) : ∀ s ∈ steps, s.syncChecks = true := by
  induction items generalizing n steps with
  | nil => cases h; simp
  | cons raw rest ih =>
    unfold Descriptor.stepsOfItems at h
    split at h
    · cases h
    · next s hs =>
      obtain ⟨r, hr, h⟩ := except_bind_eq_ok.mp h
      cases h
      intro t ht
      rcases List.mem_cons.mp ht with rfl | ht
      · exact Schema.ofJson_syncChecks hs
      · exact ih hr t ht

theorem Descriptor.fieldsOfMembers_syncChecks {ms : List (String × Json)}
    {fs : List (String × Schema)} (h : d.fieldsOfMembers key ms = .ok fs) :
    ∀ p ∈ fs, p.2.syncChecks = true := by
  induction ms generalizing fs with
  | nil => cases h; simp
  | cons m rest ih =>
    obtain ⟨name, raw⟩ := m
    unfold Descriptor.fieldsOfMembers at h
    split at h
    · cases h
    · next s hs =>
      obtain ⟨r, hr, h⟩ := except_bind_eq_ok.mp h
      cases h
      intro p hp
      rcases List.mem_cons.mp hp with rfl | hp
      · exact Schema.ofJson_syncChecks hs
      · exact ih hr p hp

variable (hd : Opt.syncChecksAll d.node.options = true)
include hd

theorem Descriptor.sequence_syncChecks {steps : List Schema}
    (h : d.sequence key = .ok (some steps)) : ∀ s ∈ steps, s.syncChecks = true := by
  unfold Descriptor.sequence at h
  split at h
  · next steps' hk =>
    cases h
    exact (Schema.syncChecksList_iff _).mp (Opt.syncChecks_of_lookup hd hk)
  · next items _ =>
    obtain ⟨steps', hsteps, h⟩ := except_map_eq_ok.mp h
    cases h
    exact Descriptor.stepsOfItems_syncChecks hsteps
  · cases h

theorem Descriptor.fields_syncChecks {fs : List (String × Schema)}
    (h : d.fields key = .ok (some fs)) : ∀ p ∈ fs, p.2.syncChecks = true := by
  unfold Descriptor.fields at h
  split at h
  · cases h
  · next fs' hk =>
    cases h
    exact (Schema.syncChecksFields_iff _).mp (Opt.syncChecks_of_lookup hd hk)
  · next ms _ =>
    obtain ⟨fs', hfs, h⟩ := except_map_eq_ok.mp h
    cases h
    exact Descriptor.fieldsOfMembers_syncChecks hfs
  · cases h

theorem Descriptor.schema_syncChecks {s : Schema} (h : d.schema key = .ok (some s)) :
    s.syncChecks = true := by
  unfold Descriptor.schema at h
  split at h
  · cases h
  · next s' hk =>
    cases h
    exact Opt.syncChecks_of_lookup hd hk
  · split at h
    · next s' hs =>
      cases h
      exact Schema.ofJson_syncChecks hs
    · cases h
  · cases h

theorem Descriptor.check_sync {c : Check} (h : d.check key = .ok (some c)) : c.mode = .sync := by
  unfold Descriptor.check at h
  split at h
  · cases h
  · next c' hk =>
    cases h
    simpa [Opt.syncChecks] using Opt.syncChecks_of_lookup hd hk
  · cases h

end Readers

end Conform
