import Conform.Proofs.SingleMode
import Conform.Proofs.Containers
import Conform.Proofs.Yields
/-! Run-time paths. A validation call walks the input: an object runs the schema of each field
one key deeper, an array the items schema one index deeper, and pipe steps and frames run where
they stand. A step is handed the scope it runs in and cannot change its caller's, so every
record carries the path of the place where it was reported. Proved: for a validator compiled by
the built-in rules, whose custom checks report only where they run, every record of every call
is the record of an issue at a place of the schema, a path of one key per object field and one
index per array element descended through, nothing for pipe steps and frames, below the scope
the call starts in. -/

namespace Conform

/-! ### The loops of the container steps -/

namespace Rule

section Loops

variable (s : Scope) (g : Step)

theorem runFields_cons (key : String) (rest : List (String × Step))
    (members : List (String × Json)) (acc : List Record) :
    runFields s ((key, g) :: rest) members acc =
      runFields s rest
        (if (members.lookup key).isSome ||
            !(g ((members.lookup key).getD .null) ((s.extend acc).enter (.key key))).1.isNull then
          Members.insert members key
            (g ((members.lookup key).getD .null) ((s.extend acc).enter (.key key))).1
        else members)
        (acc ++ (g ((members.lookup key).getD .null) ((s.extend acc).enter (.key key))).2) := by
  simp only [runFields]

theorem runFields_append (xs ys : List (String × Step)) (members : List (String × Json))
    (acc : List Record) :
    runFields s (xs ++ ys) members acc =
      runFields s ys (runFields s xs members acc).1 (runFields s xs members acc).2 := by
  induction xs generalizing members acc with
  | nil => rfl
  | cons kg rest ih =>
    obtain ⟨key, g⟩ := kg
    simp only [List.cons_append, runFields_cons, ih]

theorem records_runFields_single (key : String) (members : List (String × Json))
    (acc : List Record) :
    (runFields s [(key, g)] members acc).2 =
      acc ++ (g ((members.lookup key).getD .null) ((s.extend acc).enter (.key key))).2 := by
  simp [runFields]

theorem records_prefix_runFields (fields : List (String × Step)) (members : List (String × Json))
    (acc : List Record) : acc <+: (runFields s fields members acc).2 := by
  induction fields generalizing members acc with
  | nil => exact List.prefix_refl acc
  | cons kg rest ih =>
    obtain ⟨key, g⟩ := kg
    rw [runFields_cons]
    exact (List.prefix_append _ _).trans (ih _ _)

theorem runElements_cons (i : Nat) (e : Json) (rest : List Json) (acc : List Record) :
    runElements s g i (e :: rest) acc =
      ((g e ((s.extend acc).enter (.index i))).1 ::
        (runElements s g (i + 1) rest (acc ++ (g e ((s.extend acc).enter (.index i))).2)).1,
        (runElements s g (i + 1) rest (acc ++ (g e ((s.extend acc).enter (.index i))).2)).2) := by
  simp only [runElements]

theorem records_runElements_append (i : Nat) (xs ys : List Json) (acc : List Record) :
    (runElements s g i (xs ++ ys) acc).2 =
      (runElements s g (i + xs.length) ys (runElements s g i xs acc).2).2 := by
  induction xs generalizing i acc with
  | nil => simp [runElements]
  | cons e rest ih =>
    simp only [List.cons_append, runElements_cons, ih, List.length_cons]
    rw [Nat.add_right_comm, Nat.add_assoc]

theorem records_runElements_single (i : Nat) (e : Json) (acc : List Record) :
    (runElements s g i [e] acc).2 = acc ++ (g e ((s.extend acc).enter (.index i))).2 := by
  simp [runElements]

theorem records_prefix_runElements (i : Nat) (es : List Json) (acc : List Record) :
    acc <+: (runElements s g i es acc).2 := by
  induction es generalizing i acc with
  | nil => exact List.prefix_refl acc
  | cons e rest ih =>
    rw [runElements_cons]
    exact (List.prefix_append _ _).trans (ih _ _)

end Loops

section Members

variable {s : Scope} {members : List (String × Json)} {r : Record}

theorem mem_runFields (done rest : List (String × Step))
    (hr : r ∈ (runFields s rest (runFields s done members []).1
      (runFields s done members []).2).2) :
    r ∈ (runFields s done members []).2 ∨ ∃ pre key g post, rest = pre ++ (key, g) :: post ∧
      r ∈ (g (((runFields s (done ++ pre) members []).1.lookup key).getD .null)
        ((s.extend (runFields s (done ++ pre) members []).2).enter (.key key))).2 := by
  induction rest generalizing done with
  | nil => exact .inl hr
  | cons kg rest ih =>
    obtain ⟨key, g⟩ := kg
    -- the first field runs on from the fields done, and the rest on from it
    have hstep : runFields s ((key, g) :: rest) (runFields s done members []).1
        (runFields s done members []).2 = runFields s rest
          (runFields s (done ++ [(key, g)]) members []).1
          (runFields s (done ++ [(key, g)]) members []).2 := by
      rw [runFields_append s done [(key, g)]]
      exact runFields_append s [(key, g)] rest _ _
    rw [hstep] at hr
    rcases ih (done ++ [(key, g)]) hr with hr | ⟨pre, key', g', post, rfl, hr'⟩
    · rw [runFields_append, records_runFields_single, List.mem_append] at hr
      rcases hr with hr | hr
      · exact .inl hr
      · exact .inr ⟨[], key, g, rest, rfl, by simpa using hr⟩
    · exact .inr ⟨(key, g) :: pre, key', g', post, rfl, by simpa using hr'⟩

theorem mem_runElements {g : Step} {acc : List Record} (done rest : List Json)
    (hr : r ∈ (runElements s g done.length rest (runElements s g 0 done acc).2).2) :
    r ∈ (runElements s g 0 done acc).2 ∨ ∃ pre e post, rest = pre ++ e :: post ∧
      r ∈ (g e ((s.extend (runElements s g 0 (done ++ pre) acc).2).enter
        (.index (done ++ pre).length))).2 := by
  induction rest generalizing done with
  | nil => exact .inl (by simpa [runElements] using hr)
  | cons e rest ih =>
    -- the first element runs on from the elements done, and the rest on from it
    have hsplit : (runElements s g done.length (e :: rest) (runElements s g 0 done acc).2).2 =
        (runElements s g (done ++ [e]).length rest (runElements s g 0 (done ++ [e]) acc).2).2 := by
      rw [records_runElements_append s g 0 done [e], Nat.zero_add, List.length_append,
        List.length_singleton]
      exact records_runElements_append s g done.length [e] rest _
    rw [hsplit] at hr
    rcases ih (done ++ [e]) hr with hr | ⟨pre, e', post, rfl, hr'⟩
    · rw [records_runElements_append, records_runElements_single, List.mem_append] at hr
      rcases hr with hr | hr
      · exact .inl hr
      · exact .inr ⟨[], e, rest, rfl, by simpa using hr⟩
    · exact .inr ⟨e :: pre, e', post, rfl, by simpa using hr'⟩

end Members

/-- The keys of the members that no field declares, in the members' order. -/
def undeclared (fields : List (String × Step)) (members : List (String × Json)) : List String :=
  (members.map (·.1)).filter fun k => !fields.any (·.1 == k)

/-- The record an object step under `reject` reports for undeclared keys, after the records
`rs` of its fields. -/
def strictRecord (s : Scope) (rs : List Record) (extra : List String) : Record :=
  (s.extend rs).record { kind := "objectStrict", actual := some (.str (", ".intercalate extra)) }

/-- The records of an object step on an object: those of its fields, then, under `reject`, one
naming the undeclared members when there are any. -/
theorem records_objectStep (fields : List (String × Step)) (st : Strictness)
    (members : List (String × Json)) (s : Scope) :
    (objectStep fields st (.obj members) s).2 = (runFields s fields members []).2 ++
      if st = .reject ∧ undeclared fields (runFields s fields members []).1 ≠ [] then
        [strictRecord s (runFields s fields members []).2
          (undeclared fields (runFields s fields members []).1)]
      else [] := by
  simp only [objectStep]
  rcases runFields s fields members [] with ⟨members', records⟩
  cases st with
  | off => simp
  | remove => simp
  | reject =>
    by_cases h : undeclared fields members' = []
    · simp only [undeclared] at h
      simp [undeclared, h]
    · simp only [undeclared] at h
      simp [undeclared, strictRecord, h]

theorem objectStep_of_not_obj (fields : List (String × Step)) (st : Strictness) {v : Json}
    (hv : ∀ m, v ≠ .obj m) (s : Scope) :
    objectStep fields st v s = (v, [s.record { kind := "object", actual := some v }]) := by
  cases v
  case obj m => exact absurd rfl (hv m)
  all_goals rfl

theorem records_arrayStep (b : Bounds) (items : Option Step) (es : List Json) (s : Scope) :
    (arrayStep b items (.arr es) s).2 = match items with
      | none => (b.issues es.length).map s.record
      | some g => (runElements s g 0 es ((b.issues es.length).map s.record)).2 := by
  cases items <;> rfl

theorem arrayStep_of_not_arr (b : Bounds) (items : Option Step) {v : Json}
    (hv : ∀ es, v ≠ .arr es) (s : Scope) :
    arrayStep b items v s = (v, [s.record { kind := "array", actual := some v }]) := by
  cases v
  case arr es => exact absurd rfl (hv es)
  all_goals rfl

end Rule

/-! ### Where a record comes from -/

/-- The scope at a place below a scope: its path extended, its messages kept. -/
def Scope.below (s : Scope) (p : List Segment) : Scope :=
  { path := s.path ++ p, messages := s.messages }

namespace Scope

variable (s : Scope)

@[simp] theorem record_below_nil (i : Issue) : (s.below []).record i = s.record i := by
  simp [below, record, field]

@[simp] theorem record_extend (rs : List Record) (i : Issue) :
    (s.extend rs).record i = s.record i := rfl

@[simp] theorem extend_below (rs : List Record) (p : List Segment) :
    (s.extend rs).below p = s.below p := rfl

@[simp] theorem enter_below (g : Segment) (p : List Segment) :
    (s.enter g).below p = s.below (g :: p) := by
  simp [below, enter]

end Scope

namespace Step

/-- Every record the step reports is the record of an issue at the scope it runs in. -/
def ReportsHere (g : Step) : Prop :=
  ∀ v s, ∀ r ∈ (g v s).2, ∃ i, r = s.record i

/-- What a frame's continuation runs on: the default of a null value, null for an optional
rule, or what the body left when it ran and reported nothing. -/
def Proceeds (pres : Presence) (body : Step) (v : Json) (s : Scope) (w : Json) : Prop :=
  (v = .null ∧ pres = .withDefault w) ∨ (v = .null ∧ pres = .optional ∧ w = .null) ∨
    ((v ≠ .null ∨ pres = .delegated) ∧ body v s = (w, []))

/-- `Reports g v s p r`: the step `g`, run on `v` in the scope `s`, reports `r` from the place `p`
below `s`, where an object's fields and an array's elements run one segment deeper. -/
inductive Reports : Step → Json → Scope → List Segment → Record → Prop
  | here {g : Step} {v : Json} {s : Scope} {r : Record} :
      ReportsHere g → r ∈ (g v s).2 → Reports g v s [] r
  | required {body : Step} {next : Option Step} {s : Scope} :
      Reports (frameStep .required body next) .null s [] (s.record { kind := "required" })
  -- frames and pipe stages run their parts on the value where they stand
  | body {pres : Presence} {body : Step} {next : Option Step} {v : Json} {s : Scope}
      {p : List Segment} {r : Record} :
      (v ≠ .null ∨ pres = .delegated) → Reports body v s p r →
        Reports (frameStep pres body next) v s p r
  | next {pres : Presence} {body k : Step} {v w : Json} {s : Scope} {p : List Segment}
      {r : Record} :
      Proceeds pres body v s w → Reports k w s p r → Reports (frameStep pres body (some k)) v s p r
  | stage {g : Step} {rest : List Step} {v : Json} {s : Scope} {p : List Segment} {r : Record} :
      Reports g v s p r → Reports (Rule.pipeStep (g :: rest)) v s p r
  | stageNext {g : Step} {rest : List Step} {v w : Json} {s : Scope} {p : List Segment}
      {r : Record} :
      g v s = (w, []) → Reports (Rule.pipeStep rest) w s p r →
        Reports (Rule.pipeStep (g :: rest)) v s p r
  -- a field runs on the member under its key as the fields before it left the object
  | field {pre post : List (String × Step)} {key : String} {g : Step} {st : Rule.Strictness}
      {members : List (String × Json)} {s : Scope} {p : List Segment} {r : Record} :
      Reports g (((Rule.runFields s pre members []).1.lookup key).getD .null)
        ((s.extend (Rule.runFields s pre members []).2).enter (.key key)) p r →
      Reports (Rule.objectStep (pre ++ (key, g) :: post) st) (.obj members) s (.key key :: p) r
  | strict {fields : List (String × Step)} {members : List (String × Json)} {s : Scope} :
      Rule.undeclared fields (Rule.runFields s fields members []).1 ≠ [] →
      Reports (Rule.objectStep fields .reject) (.obj members) s []
        (Rule.strictRecord s (Rule.runFields s fields members []).2
          (Rule.undeclared fields (Rule.runFields s fields members []).1))
  | notObject {fields : List (String × Step)} {st : Rule.Strictness} {v : Json} {s : Scope} :
      (∀ m, v ≠ .obj m) →
        Reports (Rule.objectStep fields st) v s [] (s.record { kind := "object", actual := some v })
  | bound {b : Rule.Bounds} {items : Option Step} {es : List Json} {s : Scope} {i : Issue} :
      i ∈ b.issues es.length → Reports (Rule.arrayStep b items) (.arr es) s [] (s.record i)
  -- an element runs at its index, after the bounds' records and those of the elements before it
  | element {b : Rule.Bounds} {g : Step} {pre post : List Json} {e : Json} {s : Scope}
      {p : List Segment} {r : Record} :
      Reports g e ((s.extend (Rule.runElements s g 0 pre
        ((b.issues (pre ++ e :: post).length).map s.record)).2).enter (.index pre.length)) p r →
      Reports (Rule.arrayStep b (some g)) (.arr (pre ++ e :: post)) s (.index pre.length :: p) r
  | notArray {b : Rule.Bounds} {items : Option Step} {v : Json} {s : Scope} :
      (∀ es, v ≠ .arr es) →
        Reports (Rule.arrayStep b items) v s [] (s.record { kind := "array", actual := some v })

variable {g : Step} {v : Json} {s : Scope} {p : List Segment} {r : Record}

/-- A record reported from a place is the record of an issue at that place below the scope: its
field is the path of the scope followed by the place. -/
theorem Reports.record_at (h : Reports g v s p r) : ∃ i, r = (s.below p).record i := by
  induction h with
  | here hg hr =>
    obtain ⟨i, rfl⟩ := hg _ _ _ hr
    exact ⟨i, (Scope.record_below_nil _ _).symm⟩
  | body _ _ ih => exact ih
  | next _ _ ih => exact ih
  | stage _ ih => exact ih
  | stageNext _ _ ih => exact ih
  | field _ ih =>
    obtain ⟨i, rfl⟩ := ih
    exact ⟨i, by simp⟩
  | element _ ih =>
    obtain ⟨i, rfl⟩ := ih
    exact ⟨i, by simp⟩
  -- a frame's and a container's own records are at the place where it runs
  | required | strict | notObject | bound | notArray => exact ⟨_, (Scope.record_below_nil _ _).symm⟩

theorem mem_afterBody {next : Option Step} {res : Json × List Record} (h : r ∈ res.2) :
    r ∈ (afterBody next res s).2 := by
  rcases res with ⟨w, _ | ⟨r₀, rs⟩⟩
  · cases h
  · exact h

theorem frameStep_of_runs {pres : Presence} {body : Step} {next : Option Step}
    (hv : v ≠ .null ∨ pres = .delegated) :
    frameStep pres body next v s = afterBody next (body v s) s := by
  rcases hv with hv | rfl
  · exact frameStep_present body next s pres hv
  · exact frameStep_delegated body next s v

theorem Reports.mem (h : Reports g v s p r) : r ∈ (g v s).2 := by
  induction h with
  | here _ hr => exact hr
  | required => simp
  | body hv _ ih =>
    rw [frameStep_of_runs hv]
    exact mem_afterBody ih
  | @next pres body k v w s p r hw _ ih =>
    rcases hw with ⟨rfl, rfl⟩ | ⟨rfl, rfl, rfl⟩ | ⟨hv, hb⟩
    · exact (frameStep_default_null body (some k) s w).symm ▸ ih
    · exact (frameStep_optional_null body (some k) s).symm ▸ ih
    · -- the body ran and reported nothing, so the continuation ran on what it left
      rw [frameStep_of_runs hv, hb]
      exact ih
  | @stage g rest v s p r _ ih =>
    rcases hg : g v s with ⟨w, _ | ⟨r₀, rs⟩⟩
    · rw [hg] at ih
      cases ih
    · simp only [Rule.pipeStep, hg]
      rw [hg] at ih
      exact ih
  | stageNext hg _ ih =>
    simp only [Rule.pipeStep, hg]
    exact ih
  | @field pre post key g st members s p r _ ih =>
    -- the field's records follow those of the fields before it, and stay in the object's
    rw [Rule.records_objectStep, Rule.runFields_append, Rule.runFields_cons]
    refine List.mem_append_left _ ((Rule.records_prefix_runFields _ _ _ _).subset ?_)
    exact List.mem_append_right _ ih
  | strict hne =>
    rw [Rule.records_objectStep, if_pos ⟨rfl, hne⟩]
    exact List.mem_append_right _ List.mem_cons_self
  | notObject hv => simp [Rule.objectStep_of_not_obj _ _ hv]
  | @bound b items es s i hi =>
    rw [Rule.records_arrayStep]
    have hmem : s.record i ∈ (b.issues es.length).map s.record := List.mem_map_of_mem hi
    cases items with
    | none => exact hmem
    | some g => exact (Rule.records_prefix_runElements _ _ _ _ _).subset hmem
  | @element b g pre post e s p r _ ih =>
    rw [Rule.records_arrayStep]
    simp only
    rw [Rule.records_runElements_append, Nat.zero_add, Rule.runElements_cons]
    refine (Rule.records_prefix_runElements _ _ _ _ _).subset ?_
    exact List.mem_append_right _ ih
  | notArray hv => simp [Rule.arrayStep_of_not_arr _ _ hv]

/-- Every record the step reports comes from a place below the scope it runs in that `P`
admits. -/
def ReportsAt (P : List Segment → Prop) (g : Step) : Prop :=
  ∀ v s, ∀ r ∈ (g v s).2, ∃ p, P p ∧ Reports g v s p r

variable {P Q : List Segment → Prop}

theorem ReportsAt.mono (h : ReportsAt P g) (hPQ : ∀ p, P p → Q p) : ReportsAt Q g := by
  intro v s r hr
  obtain ⟨p, hp, hrep⟩ := h v s r hr
  exact ⟨p, hPQ p hp, hrep⟩

theorem ReportsHere.reportsAt (h : ReportsHere g) (h0 : P []) : ReportsAt P g :=
  fun _ _ _ hr => ⟨[], h0, .here h hr⟩

end Step

/-! ### The leaf rules report where they run -/

namespace Rule

open Step

theorem reportsHere_identity : ReportsHere Step.identity := by
  intro v s r hr
  cases hr

theorem reportsHere_booleanStep (convert : Bool) : ReportsHere (booleanStep convert) := by
  intro v s r hr
  unfold booleanStep at hr
  split at hr
  · cases hr
  · split at hr
    · cases hr
    · exact ⟨_, List.mem_singleton.mp hr⟩

theorem reportsHere_numberStep (rule : NumberRule) : ReportsHere rule.step := by
  intro v s r hr
  unfold NumberRule.step at hr
  split at hr
  · exact ⟨_, List.mem_singleton.mp hr⟩
  · obtain ⟨i, -, rfl⟩ := List.mem_map.mp hr
    exact ⟨i, rfl⟩

theorem reportsHere_textStep (rule : TextRule) : ReportsHere rule.step := by
  intro v s r hr
  unfold TextRule.step at hr
  split at hr
  · exact ⟨_, List.mem_singleton.mp hr⟩
  · obtain ⟨i, -, rfl⟩ := List.mem_map.mp hr
    exact ⟨i, rfl⟩

end Rule

/-! ### Composite steps descend one segment per child -/

namespace Step

variable {P : List Segment → Prop}

theorem ReportsAt.frameStep {body : Step} {next : Option Step} (hb : ReportsAt P body)
    (hn : ∀ k ∈ next, ReportsAt P k) (h0 : P []) (pres : Presence) :
    ReportsAt P (frameStep pres body next) := by
  intro v s r hr
  -- the continuation, when the frame goes on to it with `w`
  have hproceed : ∀ w, Proceeds pres body v s w → r ∈ (proceedWith next w s).2 →
      ∃ p, P p ∧ Reports (Conform.frameStep pres body next) v s p r := by
    intro w hw hr
    cases next with
    | none => cases hr
    | some k =>
      obtain ⟨p, hp, hk⟩ := hn k rfl w s r hr
      exact ⟨p, hp, .next hw hk⟩
  -- the body, when it runs
  have hrun : (v ≠ .null ∨ pres = .delegated) → r ∈ (afterBody next (body v s) s).2 →
      ∃ p, P p ∧ Reports (Conform.frameStep pres body next) v s p r := by
    intro hv hr
    rcases hbv : body v s with ⟨w, _ | ⟨r₀, rs⟩⟩
    · rw [hbv] at hr
      exact hproceed w (.inr (.inr ⟨hv, hbv⟩)) hr
    · rw [hbv] at hr
      obtain ⟨p, hp, hbr⟩ := hb v s r (by rw [hbv]; exact hr)
      exact ⟨p, hp, .body hv hbr⟩
  by_cases hv : v = .null
  · subst hv
    cases pres with
    | required =>
      rw [frameStep_required_null, List.mem_singleton] at hr
      exact ⟨[], h0, hr ▸ .required⟩
    | optional =>
      rw [frameStep_optional_null] at hr
      exact hproceed .null (.inr (.inl ⟨rfl, rfl, rfl⟩)) hr
    | withDefault d =>
      rw [frameStep_default_null] at hr
      exact hproceed d (.inl ⟨rfl, rfl⟩) hr
    | delegated =>
      rw [frameStep_of_runs (.inr rfl)] at hr
      exact hrun (.inr rfl) hr
  · rw [frameStep_of_runs (.inl hv)] at hr
    exact hrun (.inl hv) hr

theorem ReportsAt.pipeStep {stages : List Step} (h : ∀ g ∈ stages, ReportsAt P g) :
    ReportsAt P (Rule.pipeStep stages) := by
  intro v s
  induction stages generalizing v with
  | nil => intro r hr; cases hr
  | cons g rest ih =>
    intro r hr
    have hrest := ih (fun g' hg' => h g' (List.mem_cons_of_mem _ hg'))
    -- the pipe goes on after a step that reported nothing, and stops after one that did
    rcases hgv : g v s with ⟨w, _ | ⟨r₀, rs⟩⟩
    · simp only [Rule.pipeStep, hgv] at hr
      obtain ⟨p, hp, hpr⟩ := hrest w r hr
      exact ⟨p, hp, .stageNext hgv hpr⟩
    · simp only [Rule.pipeStep, hgv] at hr
      obtain ⟨p, hp, hgr⟩ := h g List.mem_cons_self v s r (by rw [hgv]; exact hr)
      exact ⟨p, hp, .stage hgr⟩

theorem ReportsAt.objectStep {fields : List (String × Step)} (st : Rule.Strictness)
    (h : ∀ kg ∈ fields, ReportsAt (fun q => P (.key kg.1 :: q)) kg.2) (h0 : P []) :
    ReportsAt P (Rule.objectStep fields st) := by
  intro v s r hr
  by_cases hv : ∃ m, v = .obj m
  · obtain ⟨members, rfl⟩ := hv
    rw [Rule.records_objectStep, List.mem_append] at hr
    rcases hr with hr | hr
    · -- a field's record: its step ran on the member under its key, one key deeper
      rcases Rule.mem_runFields [] fields hr with hr | ⟨pre, key, g, post, rfl, hr'⟩
      · cases hr
      · obtain ⟨q, hq, hg⟩ := h (key, g) (by simp) _ _ r (by simpa using hr')
        exact ⟨.key key :: q, hq, .field (by simpa using hg)⟩
    · split at hr
      · next hst =>
        obtain ⟨rfl, hne⟩ := hst
        rw [List.mem_singleton] at hr
        exact ⟨[], h0, hr ▸ .strict hne⟩
      · cases hr
  · have hv' : ∀ m, v ≠ .obj m := fun m hm => hv ⟨m, hm⟩
    rw [Rule.objectStep_of_not_obj _ _ hv', List.mem_singleton] at hr
    exact ⟨[], h0, hr ▸ .notObject hv'⟩

theorem ReportsAt.arrayStep (b : Rule.Bounds) {items : Option Step}
    (h : ∀ g ∈ items, ReportsAt (fun q => ∀ i, P (.index i :: q)) g) (h0 : P []) :
    ReportsAt P (Rule.arrayStep b items) := by
  intro v s r hr
  -- a bound's record is the array's own
  have hbound : ∀ es, r ∈ (b.issues es.length).map s.record →
      ∃ p, P p ∧ Reports (Rule.arrayStep b items) (.arr es) s p r := by
    intro es hr
    obtain ⟨i, hi, rfl⟩ := List.mem_map.mp hr
    exact ⟨[], h0, .bound hi⟩
  by_cases hv : ∃ es, v = .arr es
  · obtain ⟨es, rfl⟩ := hv
    rw [Rule.records_arrayStep] at hr
    cases items with
    | none => exact hbound es hr
    | some g =>
      -- an element's record: the element step ran on it, one index deeper
      rcases Rule.mem_runElements [] es hr with hr | ⟨pre, e, post, rfl, hr'⟩
      · exact hbound _ hr
      · obtain ⟨q, hq, hg⟩ := h g rfl _ _ r (by simpa using hr')
        exact ⟨.index pre.length :: q, hq pre.length, .element (by simpa using hg)⟩
  · have hv' : ∀ es, v ≠ .arr es := fun es hes => hv ⟨es, hes⟩
    rw [Rule.arrayStep_of_not_arr _ _ hv', List.mem_singleton] at hr
    exact ⟨[], h0, hr ▸ .notArray hv'⟩

end Step

/-! ### The places of a schema -/

/-- `S.Within S' p`: the schema `S'` validates what is at the place `p` of a value `S`
validates. An object rule adds one key per field schema it reads, an array rule one index per
element for its items schema, and a pipe rule nothing for its steps. -/
inductive Schema.Within : Schema → Schema → List Segment → Prop
  | here (S : Schema) : Schema.Within S S []
  | field {S S' s : Schema} {d : Descriptor} {fs : List (String × Schema)} {key : String}
      {p : List Segment} : Registry.normalize S d.label = .ok d → d.rule = "object" →
      d.objectProps = .ok fs → (key, s) ∈ fs → Schema.Within s S' p →
      Schema.Within S S' (.key key :: p)
  | element {S S' s : Schema} {d : Descriptor} {p : List Segment} (i : Nat) :
      Registry.normalize S d.label = .ok d → d.rule = "array" → d.schema "items" = .ok (some s) →
      Schema.Within s S' p → Schema.Within S S' (.index i :: p)
  | step {S S' s : Schema} {d : Descriptor} {steps : List Schema} {p : List Segment} :
      Registry.normalize S d.label = .ok d → d.rule = "pipe" →
      d.sequence "steps" = .ok (some steps) → s ∈ steps → Schema.Within s S' p →
      Schema.Within S S' p

/-- The places of a schema: the paths below it at which one of its schemas validates. -/
def Schema.Reaches (S : Schema) (p : List Segment) : Prop := ∃ S', S.Within S' p

/-- A custom check that reports only where it runs: it enters no place and leaves none. -/
def Check.ReportsHere (c : Check) : Prop := Step.ReportsHere c.step

/-- Every custom check a schema holds at any of its places reports only where it runs. -/
def Schema.ChecksReportHere (S : Schema) : Prop :=
  ∀ S' p d c, S.Within S' p → Registry.normalize S' d.label = .ok d →
    d.check "check" = .ok (some c) → c.ReportsHere

theorem Schema.reaches_here (S : Schema) : S.Reaches [] := ⟨S, .here S⟩

theorem Schema.ChecksReportHere.of_within {S s : Schema} (hS : S.ChecksReportHere)
    (hsub : ∀ S' q, s.Within S' q → ∃ p, S.Within S' p) : s.ChecksReportHere := by
  intro S' q d c hw hn hc
  obtain ⟨p, hp⟩ := hsub S' q hw
  exact hS S' p d c hp hn hc

/-! ### The built-in rules yield bodies that report at the places of their schema -/

/-- A compilation of a schema, with no continuation, whose checks report where they run. -/
def PathRequest (s : Schema) (next : Option Fragment) : Prop := next = none ∧ s.ChecksReportHere

/-- A fragment that reports at the places of its schema. -/
def PathFragment (s : Schema) (f : Fragment) : Prop := Step.ReportsAt s.Reaches f.step

theorem Registry.get?_builtins_cases {tag : String} {comp : RuleCompiler}
    (h : Registry.builtins.get? tag = some comp) :
    (tag = "any" ∧ comp = Rule.any) ∨ (tag = "array" ∧ comp = Rule.array) ∨
      (tag = "boolean" ∧ comp = Rule.boolean) ∨ (tag = "custom" ∧ comp = Rule.custom) ∨
      (tag = "number" ∧ comp = Rule.number) ∨ (tag = "object" ∧ comp = Rule.object) ∨
      (tag = "pipe" ∧ comp = Rule.pipe) ∨ (tag = "string" ∧ comp = Rule.text) := by
  have hrules : Registry.builtins.rules = [("any", Rule.any), ("array", Rule.array),
      ("boolean", Rule.boolean), ("custom", Rule.custom), ("number", Rule.number),
      ("object", Rule.object), ("pipe", Rule.pipe), ("string", Rule.text)] := rfl
  obtain ⟨l₁, l₂, hl, -⟩ := List.lookup_eq_some_iff.mp h
  have hmem : (tag, comp) ∈ Registry.builtins.rules := by
    rw [hl]
    simp
  rw [hrules] at hmem
  simpa using hmem

section Rules

open Emit Step

variable {S : Schema} {d : Descriptor} (hd : Registry.normalize S d.label = .ok d)
  (hS : S.ChecksReportHere)

theorem yields_leaf {step : Step} (h : ReportsAt S.Reaches step) :
    Yields PathRequest PathFragment (PathFragment S) (Emit.leaf step) :=
  (Yields.leaf step).mono fun _ hf => show ReportsAt _ _ from hf ▸ h

theorem yields_leaf_of {α : Type} (x : Except Error α) (step : α → Step)
    (hstep : ∀ a, ReportsHere (step a)) :
    Yields PathRequest PathFragment (PathFragment S)
      (Emit.ofExcept x >>= fun a => Emit.leaf (step a)) :=
  Yields.bind (Yields.ofExcept x) fun a _ => yields_leaf ((hstep a).reportsAt S.reaches_here)

include hd hS in
theorem yields_custom :
    Yields PathRequest PathFragment (PathFragment S) (Rule.custom d) := by
  unfold Rule.custom
  refine Yields.bind (Yields.ofExcept _) fun check hcheck => ?_
  cases check with
  | none => exact .fail _
  | some c =>
    -- the check is the schema's own, at its own place
    have hc : ReportsAt S.Reaches c.step :=
      (hS S [] d c (.here S) hd hcheck).reportsAt S.reaches_here
    refine Yields.bind Yields.mode fun m _ => ?_
    rcases c with ⟨_ | _, step⟩ <;> cases m
    · exact yields_leaf hc
    · exact yields_leaf hc
    · exact .fail _
    · exact .pure hc

include hd hS in
theorem yields_pipe (hrule : d.rule = "pipe") :
    Yields PathRequest PathFragment (PathFragment S) (Rule.pipe d) := by
  unfold Rule.pipe
  refine Yields.bind (Yields.ofExcept _) fun seq hseq => ?_
  cases seq with
  | none =>
    exact yields_leaf (Rule.reportsHere_identity.reportsAt S.reaches_here)
  | some steps =>
    -- the places of a step are places of the pipe
    have hstep : ∀ t ∈ steps, ∀ S' q, t.Within S' q → S.Within S' q :=
      fun t ht S' q hw => .step hd hrule hseq ht hw
    refine Yields.bind (Yields.forIn_all (fun f : Fragment => ReportsAt S.Reaches f.step)
      (by simp) ?_) fun compiled hcompiled => ?_
    · intro t ht acc
      refine Yields.bind (Yields.compileNested
        ⟨rfl, hS.of_within fun S' q hw => ⟨q, hstep t ht S' q hw⟩⟩) fun f hf => .pure ⟨f, rfl, ?_⟩
      exact hf.mono fun q ⟨S', hw⟩ => ⟨S', hstep t ht S' q hw⟩
    refine Yields.bind (Yields.forIn_all (ReportsAt S.Reaches) (by simp) ?_) fun stages hstages => ?_
    · intro f hf acc
      refine Yields.bind (Yields.stage f) fun g hg => .pure ⟨g, rfl, ?_⟩
      rw [hg]
      exact hcompiled f hf
    exact yields_leaf (ReportsAt.pipeStep hstages)

include hd hS in
theorem yields_object (hrule : d.rule = "object") :
    Yields PathRequest PathFragment (PathFragment S) (Rule.object d) := by
  unfold Rule.object
  extract_lets +lift compiled₀ steps₀ rest
  -- whichever option gives the fields, each field's places are the object's, one key deeper
  have hrest : ∀ fs, d.objectProps = .ok fs →
      Yields PathRequest PathFragment (PathFragment S) (rest fs) := by
    intro fs hfs
    have hfield : ∀ kt ∈ fs, ∀ S' q, kt.2.Within S' q → S.Within S' (.key kt.1 :: q) :=
      fun kt hkt S' q hw => .field hd hrule hfs hkt hw
    refine Yields.bind (Yields.ofExcept _) fun strictness _ => ?_
    refine Yields.bind (Yields.forIn_all (fun kf : String × Fragment =>
      ReportsAt (fun q => S.Reaches (.key kf.1 :: q)) kf.2.step)
      (by simp [compiled₀]) ?_) fun compiled hcompiled => ?_
    · intro kt hkt acc
      refine Yields.bind (Yields.compileNested
        ⟨rfl, hS.of_within fun S' q hw => ⟨_, hfield kt hkt S' q hw⟩⟩) fun f hf =>
          .pure ⟨(kt.1, f), rfl, ?_⟩
      exact hf.mono fun q ⟨S', hw⟩ => ⟨S', hfield kt hkt S' q hw⟩
    refine Yields.bind (Yields.forIn_all (fun kg : String × Step =>
      ReportsAt (fun q => S.Reaches (.key kg.1 :: q)) kg.2)
      (by simp [steps₀]) ?_) fun steps hsteps => ?_
    · intro kf hkf acc
      refine Yields.bind (Yields.stage kf.2) fun g hg => .pure ⟨(kf.1, g), rfl, ?_⟩
      rw [hg]
      exact hcompiled kf hkf
    exact yields_leaf (ReportsAt.objectStep strictness hsteps S.reaches_here)
  refine Yields.bind (Yields.ofExcept _) fun props hprops => ?_
  cases props with
  | some fs =>
    exact hrest fs
      (by simp [Descriptor.objectProps, hprops, Bind.bind, Except.bind, Pure.pure, Except.pure])
  | none =>
    refine Yields.bind (Yields.ofExcept _) fun props hprops' => hrest _ ?_
    simp [Descriptor.objectProps, hprops, hprops', Bind.bind, Except.bind, Pure.pure, Except.pure]

include hd hS in
theorem yields_array (hrule : d.rule = "array") :
    Yields PathRequest PathFragment (PathFragment S) (Rule.array d) := by
  unfold Rule.array
  refine Yields.bind (Yields.ofExcept _) fun bounds _ => ?_
  refine Yields.bind (Yields.ofExcept _) fun items hitems => ?_
  extract_lets +lift leafOf staged
  -- the items fragment, if any, reports one index deeper, for every index
  have hleaf : ∀ so : Option Step,
      (∀ g ∈ so, ReportsAt (fun q => ∀ i, S.Reaches (.index i :: q)) g) →
      Yields PathRequest PathFragment (PathFragment S) (leafOf so) :=
    fun so hso => yields_leaf (ReportsAt.arrayStep bounds hso S.reaches_here)
  have hstaged : ∀ fo : Option Fragment,
      (∀ f ∈ fo, ReportsAt (fun q => ∀ i, S.Reaches (.index i :: q)) f.step) →
      Yields PathRequest PathFragment (PathFragment S) (staged fo) := by
    intro fo hfo
    cases fo with
    | none => exact hleaf none (by simp)
    | some f =>
      refine Yields.bind (Yields.map some (Yields.stage f)) ?_
      rintro _ ⟨g, hg, rfl⟩
      refine hleaf _ fun g' hg' => ?_
      cases hg'
      rw [hg]
      exact hfo f rfl
  cases items with
  | none => exact hstaged none (by simp)
  | some t =>
    have hitem : ∀ S' q, t.Within S' q → ∀ i, S.Within S' (.index i :: q) :=
      fun S' q hw i => .element i hd hrule hitems hw
    refine Yields.bind (Yields.map some (Yields.compileNested
      ⟨rfl, hS.of_within fun S' q hw => ⟨_, hitem S' q hw 0⟩⟩)) ?_
    rintro _ ⟨f, hf, rfl⟩
    refine hstaged (some f) fun f' hf' => ?_
    cases hf'
    exact hf.mono fun q ⟨S', hw⟩ i => ⟨S', hitem S' q hw i⟩

end Rules

theorem Registry.normalize_of_resolve {reg : Registry} {s : Schema} {label : String}
    {d : Descriptor} {comp : RuleCompiler} (h : reg.resolve s label = .ok (d, comp)) :
    Registry.normalize s d.label = .ok d := by
  obtain ⟨d', hd', h⟩ := except_bind_eq_ok.mp h
  split at h
  · cases h
    rw [Registry.normalize_label hd']
    exact hd'
  · cases h

open Emit Step in
/-- Each built-in rule compiler yields, for a schema whose checks report where they run, a body
that reports at the schema's places. -/
theorem Registry.yields_paths_builtins {s : Schema} {next : Option Fragment} {label : String}
    {d : Descriptor} {comp : RuleCompiler} (hpre : PathRequest s next)
    (hr : Registry.builtins.resolve s label = .ok (d, comp)) :
    Yields PathRequest PathFragment (PathFragment s) (comp d) := by
  have hd := Registry.normalize_of_resolve hr
  rcases Registry.get?_builtins_cases (Registry.get?_of_resolve hr) with
    ⟨-, rfl⟩ | ⟨hrule, rfl⟩ | ⟨-, rfl⟩ | ⟨-, rfl⟩ | ⟨-, rfl⟩ | ⟨hrule, rfl⟩ | ⟨hrule, rfl⟩ |
      ⟨-, rfl⟩
  case inl =>
    exact yields_leaf (Rule.reportsHere_identity.reportsAt s.reaches_here)
  case inr.inl => exact yields_array hd hpre.2 hrule
  case inr.inr.inl => exact yields_leaf_of _ _ Rule.reportsHere_booleanStep
  case inr.inr.inr.inl => exact yields_custom hd hpre.2
  case inr.inr.inr.inr.inl => exact yields_leaf_of _ _ Rule.reportsHere_numberStep
  case inr.inr.inr.inr.inr.inl => exact yields_object hd hpre.2 hrule
  case inr.inr.inr.inr.inr.inr.inl => exact yields_pipe hd hpre.2 hrule
  case inr.inr.inr.inr.inr.inr.inr => exact yields_leaf_of _ _ Rule.reportsHere_textStep

/-- A compilation by the built-in rules, with no continuation, of a schema whose checks report
where they run, ends in a fragment that reports at the schema's places. -/
theorem compileRule_reportsAt {s : Schema} {ctx c' : Context} {f : Fragment}
    (h : compileRule Registry.builtins s none ctx = some (.ok (f, c'))) (hs : s.ChecksReportHere) :
    Step.ReportsAt s.Reaches f.step := by
  refine compileRule_yields (fun s next label d comp hpre hr =>
    Registry.yields_paths_builtins hpre hr) ?_ h ⟨rfl, hs⟩
  -- the frame adds only its `required` record, where the rule runs
  rintro s next ctx p body c f c' ⟨rfl, -⟩ hbody hclose
  obtain ⟨rfl, -⟩ := closeRule_eq_ok hclose
  exact Step.ReportsAt.frameStep hbody (by simp) s.reaches_here p

theorem Outcome.ofRecords_invalid {rs rs' : List Record} (h : Outcome.ofRecords rs' = .invalid rs) :
    rs = rs' := by
  cases rs' with
  | nil => cases h
  | cons r rest => cases h; rfl

theorem Registry.rule_of_normalize_node {rule : String} {options : List (String × Opt)}
    {label : String} {d : Descriptor} (h : Registry.normalize (.node rule options) label = .ok d) :
    d.rule = rule := by
  rw [← Except.ok.inj h]
  rfl

theorem Schema.within_leaf {rule : String} {options : List (String × Opt)} {S' : Schema}
    {p : List Segment} (hobj : rule ≠ "object") (harr : rule ≠ "array") (hpipe : rule ≠ "pipe")
    (hw : (Schema.node rule options).Within S' p) : S' = .node rule options ∧ p = [] := by
  cases hw with
  | here => exact ⟨rfl, rfl⟩
  | field hn hrule => exact absurd ((Registry.rule_of_normalize_node hn).symm.trans hrule) hobj
  | element i hn hrule => exact absurd ((Registry.rule_of_normalize_node hn).symm.trans hrule) harr
  | step hn hrule => exact absurd ((Registry.rule_of_normalize_node hn).symm.trans hrule) hpipe

/-- Records carry the paths of the input locations they were reported from: those a validator
returns are exactly the ones `Reports` derives, each from a place of the schema whose path its field
renders. -/
theorem validate_reports_at_places (config : Config) {S : Schema} {v : Validator}
    (hc : ({ registry := Registry.builtins, config } : Compiler).compile S = some (.ok v))
    (hS : S.ChecksReportHere) :
    (∀ x s r, r ∈ (v.root.step x s).2 ↔ ∃ p, S.Reaches p ∧ Step.Reports v.root.step x s p r) ∧
      (∀ x s p r, Step.Reports v.root.step x s p r → ∃ i, r = (s.below p).record i) ∧
      ∀ x rs, (v.run x).1 = .invalid rs → ∀ r ∈ rs, ∃ p, S.Reaches p ∧
        Step.Reports v.root.step x { messages := v.messages } p r ∧ r.field = renderPath p := by
  obtain ⟨ctx, -, hroot, -⟩ := Compiler.compile_eq_ok _ hc
  have hat := compileRule_reportsAt hroot hS
  refine ⟨fun x s r => ⟨hat x s r, fun ⟨_, _, hrep⟩ => hrep.mem⟩, fun _ _ _ _ h => h.record_at, ?_⟩
  intro x rs hrun r hr
  have hrecords :
      (v.run x).1 = Outcome.ofRecords (v.root.step x { messages := v.messages }).2 := rfl
  rw [hrecords] at hrun
  rw [Outcome.ofRecords_invalid hrun] at hr
  obtain ⟨p, hp, hrep⟩ := hat x _ r hr
  -- the call's scope is at the root, so the record's field is the place's path
  obtain ⟨i, hi⟩ := hrep.record_at
  refine ⟨p, hp, hrep, ?_⟩
  rw [hi]
  simp [Scope.below, Scope.record, Scope.field]

/-- An object with one number field, compiled: its records are at its own place or one key
deeper. -/
theorem validate_reports_at_places_age :
    let S : Schema := .node "object" [("props", .fields [("age", .node "number" [])])]
    let age : Step := frameStep .required ({} : Rule.NumberRule).step none
    let v : Validator := ⟨⟨.sync, frameStep .required (Rule.objectStep [("age", age)] .off) none⟩,
      #[⟨.sync, ({} : Rule.NumberRule).step⟩, ⟨.sync, Rule.objectStep [("age", age)] .off⟩],
      .sync, ({} : Config).buildMessages⟩
    ({ registry := Registry.builtins, config := {} } : Compiler).compile S = some (.ok v) ∧
      S.ChecksReportHere ∧
      (∀ x s r, r ∈ (v.root.step x s).2 ↔ ∃ p, S.Reaches p ∧ Step.Reports v.root.step x s p r) ∧
      (∀ x s p r, Step.Reports v.root.step x s p r → ∃ i, r = (s.below p).record i) ∧
      ∀ x rs, (v.run x).1 = .invalid rs → ∀ r ∈ rs, ∃ p, S.Reaches p ∧
        Step.Reports v.root.step x { messages := v.messages } p r ∧ r.field = renderPath p := by
  intro S age v
  let dObj : Descriptor :=
    ⟨{ rule := "object", options := [("props", .fields [("age", .node "number" [])])] }, renderPath []⟩
  let dAge : Descriptor := ⟨{ rule := "number" }, renderPath [.key "age"]⟩
  have hnum : compileRule Registry.builtins (.node "number" []) none
      { mode := .sync, label := [.key "age"] } = some (.ok (⟨.sync, age⟩,
        { mode := .sync, label := [.key "age"], table := #[⟨.sync, ({} : Rule.NumberRule).step⟩] })) := by
    have hb : runRequests Registry.builtins (Rule.number dAge)
        { mode := .sync, label := [.key "age"] } =
        some (.ok (⟨.sync, ({} : Rule.NumberRule).step⟩, { mode := .sync, label := [.key "age"] })) := by
      simp [Rule.number, runRequests_bind]
      rfl
    have hr : Registry.builtins.resolve (.node "number" []) (renderPath [.key "age"]) =
        .ok (dAge, Rule.number) := rfl
    rw [compileRule_of_resolve hr rfl, hb, thenOk_ok]
    exact congrArg some (closeRule_of_step (by simp))
  have hc :
      ({ registry := Registry.builtins, config := {} } : Compiler).compile S = some (.ok v) := by
    have hroot : compileRule Registry.builtins S none { mode := .sync } =
        some (.ok (v.root, { mode := .sync, table := v.table })) := by
      have hr : Registry.builtins.resolve S (renderPath []) = .ok (dObj, Rule.object) := rfl
      rw [compileRule_of_resolve hr rfl, runRequests_object]
      simp only [show dObj.objectProps = .ok [("age", .node "number" [])] from rfl,
        show Rule.Strictness.ofDescriptor dObj = .ok .off from rfl, thenOk_ok, compileFields,
        Context.enter_some, List.nil_append, hnum]
      exact congrArg some (closeRule_of_step (by simp))
    have hmode : Compiler.declaredMode ⟨Registry.builtins, {}⟩ S = .ok .sync := rfl
    simp only [Compiler.compile, hmode, hroot]
    rfl
  have hS : S.ChecksReportHere := by
    intro S' p d c hw hn hc
    cases hw with
    | here =>
      rw [← Except.ok.inj hn] at hc
      cases hc
    | field hn' _ hprops hmem hw' =>
      -- the one field is a number node, whose only place is its own
      rw [← Except.ok.inj hn'] at hprops
      cases hprops
      obtain ⟨-, rfl⟩ := List.mem_singleton.mp hmem
      obtain ⟨rfl, -⟩ := Schema.within_leaf (by decide) (by decide) (by decide) hw'
      rw [← Except.ok.inj hn] at hc
      cases hc
    | element i hn' hrule =>
      exact absurd ((Registry.rule_of_normalize_node hn').symm.trans hrule) (by decide)
    | step hn' hrule =>
      exact absurd ((Registry.rule_of_normalize_node hn').symm.trans hrule) (by decide)
  exact ⟨hc, hS, validate_reports_at_places {} hc hS⟩

end Conform
