import Conform.Proofs.ShorthandGrammar
import Conform.Proofs.Modes
/-! The rule registry as a finite map. A registry keeps its rules sorted by tag, each tag once
(`Registry.Sorted`): the empty registry and the built-in one are sorted, and registering and
overriding keep them so. Main statement: along any history of registrations and overrides that
starts from the empty or the built-in registry, the registry reached obeys the laws of a finite
map (`Registry.MapLaws`): registering fails with the duplicate-rule error, and changes nothing,
exactly when the tag is present, and otherwise maps the tag to its compiler; overriding always
maps the tag to its compiler and hands back the one it replaced; the tags are listed in strictly
ascending order, and the size counts them. A tag is present exactly when the start held it or a
change of the history named it. -/

namespace Conform

/-! ### Keys of an option list -/

namespace Options

variable {α : Type}

theorem lookup_isSome_iff (l : List (String × α)) (k : String) :
    (l.lookup k).isSome ↔ k ∈ l.map Prod.fst := by
  induction l with
  | nil => simp
  | cons p rest ih =>
    obtain ⟨k', v'⟩ := p
    by_cases h : k = k'
    · simp [h]
    · simp [List.lookup_cons, beq_false_of_ne h, h, ih]

end Options

namespace Registry

/-! ### One registry -/

section Laws

variable (r : Registry) (t t' : String) (c : RuleCompiler)

/-- The rules are sorted by tag, each tag once. -/
def Sorted : Prop := r.rules.Pairwise fun a b => a.1 < b.1

theorem contains_iff_mem_tags : r.contains t ↔ t ∈ r.tags :=
  Options.lookup_isSome_iff r.rules t

theorem contains_override : (r.override t c).2.contains t' ↔ r.contains t' ∨ t' = t := by
  unfold contains
  rw [get?_override r t t' c]
  by_cases h : t' = t <;> simp [h]

theorem register_eq_error_iff {e : Error} :
    r.register t c = .error e ↔ r.contains t ∧ e = .duplicateRule t := by
  unfold register
  by_cases h : r.contains t <;> simp [h, eq_comm]

variable {r} in
theorem Sorted.override (h : r.Sorted) : (r.override t c).2.Sorted :=
  Shorthand.Options.pairwise_insert t c h

variable {r} in
theorem Sorted.tags (h : r.Sorted) : r.tags.Pairwise (· < ·) :=
  List.pairwise_map.mpr h

end Laws

theorem sorted_empty : ({} : Registry).Sorted := List.Pairwise.nil

theorem sorted_builtins : builtins.Sorted := by
  -- the built-ins are installed by one override each, from the empty registry
  have h : ∀ (rules : List (String × RuleCompiler)) (r : Registry), r.Sorted →
      (rules.foldl (fun r p => (r.override p.1 p.2).2) r).Sorted := by
    intro rules
    induction rules with
    | nil => exact fun _ h => h
    | cons p rest ih => exact fun r h => ih _ (h.override p.1 p.2)
  exact h builtinRules {} sorted_empty

/-! ### Histories of changes -/

/-- A change made to a registry: registering a compiler under a tag, or overriding the tag. -/
inductive Change where
  | register (tag : String) (c : RuleCompiler)
  | override (tag : String) (c : RuleCompiler)

def Change.tag : Change → String
  | .register t _ | .override t _ => t

/-- The registry after a change; a refused registration leaves it as it was. -/
def apply (r : Registry) : Change → Registry
  | .register t c =>
    match r.register t c with
    | .ok r' => r'
    | .error _ => r
  | .override t c => (r.override t c).2

/-- The registry reached from `start` by a history of changes, the first change first. -/
def replay (start : Registry) (history : List Change) : Registry := history.foldl apply start

section Changes

variable (r : Registry) (t t' : String) (c : RuleCompiler)

theorem apply_register_of_contains (h : r.contains t) : r.apply (.register t c) = r := by
  simp [apply, register, h]

theorem apply_register_of_not_contains (h : ¬r.contains t) :
    r.apply (.register t c) = (r.override t c).2 := by
  simp [apply, register, h]

theorem contains_apply (ch : Change) : (r.apply ch).contains t ↔ r.contains t ∨ t = ch.tag := by
  cases ch with
  | register tag c =>
    by_cases h : r.contains tag
    · -- a refused registration names a tag that is already there
      rw [apply_register_of_contains r tag c h]
      constructor
      · exact .inl
      · rintro (ht | rfl)
        · exact ht
        · exact h
    · rw [apply_register_of_not_contains r tag c h, contains_override]
      rfl
  | override tag c => exact contains_override r tag t c

variable {r} in
theorem Sorted.apply (h : r.Sorted) (ch : Change) : (r.apply ch).Sorted := by
  cases ch with
  | register tag c =>
    by_cases hc : r.contains tag
    · rwa [apply_register_of_contains r tag c hc]
    · rw [apply_register_of_not_contains r tag c hc]
      exact h.override tag c
  | override tag c => exact h.override tag c

theorem contains_replay (history : List Change) :
    (r.replay history).contains t ↔ r.contains t ∨ ∃ ch ∈ history, ch.tag = t := by
  induction history generalizing r with
  | nil => simp [replay]
  | cons ch rest ih =>
    simp only [replay, List.foldl_cons] at ih ⊢
    rw [ih, contains_apply, @eq_comm _ t ch.tag]
    simp only [List.mem_cons, exists_eq_or_imp, or_assoc]

variable {r} in
theorem Sorted.replay (h : r.Sorted) (history : List Change) : (r.replay history).Sorted := by
  induction history generalizing r with
  | nil => exact h
  | cons ch rest ih => exact ih (h.apply ch)

end Changes

/-! ### The laws of a finite map -/

/-- The laws of a finite map from tags to compilers that a registry obeys. -/
structure MapLaws (r : Registry) : Prop where
  /-- Registering fails exactly on a present tag, with the duplicate-rule error naming it. -/
  register_error : ∀ t c e, r.register t c = .error e ↔ r.contains t ∧ e = .duplicateRule t
  /-- A refused registration leaves the registry as it was. -/
  register_refused : ∀ t c, r.contains t → r.apply (.register t c) = r
  /-- Registering an absent tag maps it to the compiler and changes no other tag. -/
  register_adds : ∀ t c t', ¬r.contains t →
    (r.apply (.register t c)).get? t' = if t' = t then some c else r.get? t'
  /-- Overriding hands back the compiler the tag had, if it had one. -/
  override_replaced : ∀ t c, (r.override t c).1 = r.get? t
  /-- Overriding maps the tag to the compiler and changes no other tag. -/
  override_installs : ∀ t c t',
    (r.override t c).2.get? t' = if t' = t then some c else r.get? t'
  /-- The tags are listed in strictly ascending order. -/
  tags_sorted : r.tags.Pairwise (· < ·)
  /-- The tags listed are exactly the present ones. -/
  mem_tags : ∀ t, t ∈ r.tags ↔ r.contains t
  /-- The size counts the tags. -/
  size_eq : r.size = r.tags.length
  /-- A registry is empty exactly when its size is zero. -/
  isEmpty_iff : r.isEmpty ↔ r.size = 0

/-- A sorted registry obeys the laws of a finite map. -/
theorem Sorted.mapLaws {r : Registry} (h : r.Sorted) : r.MapLaws where
  register_error t c e := register_eq_error_iff r t c
  register_refused t c := apply_register_of_contains r t c
  register_adds t c t' ht := by rw [apply_register_of_not_contains r t c ht, get?_override r t t' c]
  override_replaced _ _ := rfl
  override_installs t c t' := get?_override r t t' c
  tags_sorted := h.tags
  mem_tags t := (contains_iff_mem_tags r t).symm
  size_eq := (List.length_map _).symm
  isEmpty_iff := List.isEmpty_iff_length_eq_zero

/-- Along any history of changes from the empty or the built-in registry, the registry reached obeys
the laws of a finite map. -/
theorem history_obeys_map_laws (start : Registry) (hstart : start = {} ∨ start = builtins)
    (history : List Change) :
    (start.replay history).MapLaws ∧
      ∀ t, (start.replay history).contains t ↔ t ∈ start.tags ∨ ∃ ch ∈ history, ch.tag = t := by
  have hsorted : start.Sorted := by
    rcases hstart with rfl | rfl
    · exact sorted_empty
    · exact sorted_builtins
  refine ⟨(hsorted.replay history).mapLaws, fun t => ?_⟩
  rw [contains_replay, contains_iff_mem_tags]

/-- From the built-in registry, a second `string` is refused and `string` overridden. -/
theorem history_from_builtins :
    (builtins = {} ∨ builtins = builtins) ∧
      (builtins.replay [.register "string" Rule.any, .override "string" Rule.any]).MapLaws ∧
      ∀ t, (builtins.replay [.register "string" Rule.any, .override "string" Rule.any]).contains t ↔
        t ∈ builtins.tags ∨
          ∃ ch ∈ [Change.register "string" Rule.any, .override "string" Rule.any], ch.tag = t :=
  ⟨.inr rfl, history_obeys_map_laws builtins (.inr rfl) _⟩

end Registry

end Conform
