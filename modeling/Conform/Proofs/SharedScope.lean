import Conform.Proofs.Runs
/-! Steps on a shared scope. A step gives back the records it reports; run in place on a scope
that a whole validation call shares (`Step.inPlace`), it appends them to the scope's records and
leaves its path as it was. So the records a scope held before a call are a prefix of those it
holds after, and the count of records grows across a call exactly when the call reported
something. Proved: the frame and the pipe, which stop on a step's own list of records, are the
runners that stop when the shared count grew (`Action.frame`, `Action.pipe`); the loops of the
object and array steps are runs in turn on the shared scope, each within its segment
(`Action.inTurn`); and a validator's outcome lists the records its call appended, in order, and
is valid exactly when there are none. -/

namespace Conform

/-- What a call on a shared scope does: from the value and the scope before it to the value it
leaves and the scope after it. -/
abbrev Action := Json → Scope → Json × Scope

/-- A step run in place on a shared scope: its records are appended to the scope's. -/
def Step.inPlace (f : Step) : Action := fun v s => ((f v s).1, s.extend (f v s).2)

namespace Scope

variable (s : Scope)

def report (i : Issue) : Scope := s.extend [s.record i]

@[simp] theorem extend_nil : s.extend [] = s := by
  simp [extend]

@[simp] theorem records_extend (rs : List Record) : (s.extend rs).records = s.records ++ rs := rfl

@[simp] theorem path_extend (rs : List Record) : (s.extend rs).path = s.path := rfl

end Scope

/-! ### One call -/

section InPlace

variable (f : Step) (v : Json) (s : Scope)

@[simp] theorem Step.inPlace_fst : (f.inPlace v s).1 = (f v s).1 := rfl

@[simp] theorem Step.inPlace_snd : (f.inPlace v s).2 = s.extend (f v s).2 := rfl

theorem Step.records_prefix_inPlace : s.records <+: (f.inPlace v s).2.records :=
  List.prefix_append _ _

theorem Step.count_grows_iff :
    s.records.length < (f.inPlace v s).2.records.length ↔ (f v s).2 ≠ [] := by
  simp [List.length_pos_iff]

theorem Step.inPlace_of_silent (h : (f v s).2 = []) : f.inPlace v s = ((f v s).1, s) := by
  simp [Step.inPlace, h]

end InPlace

/-! ### Runners that compare counts -/

namespace Action

/-- Runs actions in turn on a shared scope, stopping after the first one across which the count
of records grew. -/
def pipe : List Action → Action
  | [], v, s => (v, s)
  | a :: rest, v, s =>
    let r := a v s
    if s.records.length < r.2.records.length then r else pipe rest r.1 r.2

/-- What a frame on a shared scope does after its body, or in its place: the continuation, if
any, on a value. -/
def proceedWith (next : Option Action) (w : Json) (s : Scope) : Json × Scope :=
  match next with
  | none => (w, s)
  | some k => k w s

/-- What a frame on a shared scope does with its body's result: the result as it is when the
count of records grew across the body, else the continuation on the body's output. -/
def afterBody (next : Option Action) (r : Json × Scope) (s : Scope) : Json × Scope :=
  if s.records.length < r.2.records.length then r else proceedWith next r.1 r.2

/-- A frame on a shared scope. A null value is reported `required`, or takes the default, or stays
null, as the presence says, and goes on to the continuation; any other value, and every value of
a delegating frame, goes to the body. -/
def frame (p : Presence) (body : Action) (next : Option Action) : Action := fun v s =>
  match p, v with
  | .required, .null => (.null, s.report { kind := "required" })
  | .withDefault d, .null => proceedWith next d s
  | .optional, .null => proceedWith next .null s
  | _, _ => afterBody next (body v s) s

theorem frame_present (p : Presence) (body : Action) (next : Option Action) {v : Json}
    (hv : v ≠ .null) (s : Scope) : frame p body next v s = afterBody next (body v s) s := by
  cases v
  case null => exact absurd rfl hv
  all_goals cases p <;> rfl

theorem frame_delegated (body : Action) (next : Option Action) (v : Json) (s : Scope) :
    frame .delegated body next v s = afterBody next (body v s) s := by
  cases v <;> rfl

/-- An action one segment deeper; the path is restored after it. -/
def within (seg : Segment) (a : Action) : Action := fun v s =>
  let r := a v (s.enter seg)
  (r.1, { r.2 with path := s.path })

/-- Actions run in turn on a shared scope, each on its own input within its own segment; gives
the outputs and the scope after the last. -/
def inTurn : List (Action × Json × Segment) → Scope → List Json × Scope
  | [], s => ([], s)
  | (a, v, seg) :: jobs, s =>
    let r := within seg a v s
    let rest := inTurn jobs r.2
    (r.1 :: rest.1, rest.2)

end Action

theorem Rule.pipeStep_cons (f : Step) (rest : List Step) (v : Json) (s : Scope) :
    Rule.pipeStep (f :: rest) v s =
      if (f v s).2 = [] then Rule.pipeStep rest (f v s).1 s else f v s := by
  rcases h : f v s with ⟨w, _ | ⟨r, rs⟩⟩ <;> simp [Rule.pipeStep, h]

theorem pipeStep_inPlace (steps : List Step) :
    (Rule.pipeStep steps).inPlace = Action.pipe (steps.map Step.inPlace) := by
  funext v s
  induction steps generalizing v with
  | nil => simp [Step.inPlace, Rule.pipeStep, Action.pipe]
  | cons f rest ih =>
    simp only [List.map_cons, Action.pipe]
    by_cases h : (f v s).2 = []
    · -- nothing reported: the count stands, and the rest runs on the same scope
      rw [if_neg (fun hlt => (Step.count_grows_iff f v s).mp hlt h),
        Step.inPlace_of_silent f v s h, ← ih]
      simp only [Step.inPlace, Rule.pipeStep_cons, h, if_true]
    · rw [if_pos ((Step.count_grows_iff f v s).mpr h)]
      simp only [Step.inPlace, Rule.pipeStep_cons, h, if_false]

theorem afterBody_eq_ite (next : Option Step) (r : Json × List Record) (s : Scope) :
    afterBody next r s = if r.2 = [] then proceedWith next r.1 s else r := by
  obtain ⟨w, _ | ⟨x, xs⟩⟩ := r <;> rfl

theorem proceedWith_inPlace (next : Option Step) (w : Json) (s : Scope) :
    ((proceedWith next w s).1, s.extend (proceedWith next w s).2) =
      Action.proceedWith (next.map Step.inPlace) w s := by
  cases next <;> simp [proceedWith, Action.proceedWith, Step.inPlace]

theorem afterBody_inPlace (next : Option Step) (body : Step) (v : Json) (s : Scope) :
    ((afterBody next (body v s) s).1, s.extend (afterBody next (body v s) s).2) =
      Action.afterBody (next.map Step.inPlace) (body.inPlace v s) s := by
  unfold Action.afterBody
  rw [afterBody_eq_ite]
  by_cases h : (body v s).2 = []
  · rw [if_neg (fun hlt => (Step.count_grows_iff body v s).mp hlt h),
      Step.inPlace_of_silent body v s h, if_pos h]
    exact proceedWith_inPlace next (body v s).1 s
  · rw [if_pos ((Step.count_grows_iff body v s).mpr h), if_neg h]
    rfl

theorem frameStep_inPlace (p : Presence) (body : Step) (next : Option Step) :
    (frameStep p body next).inPlace = Action.frame p body.inPlace (next.map Step.inPlace) := by
  funext v s
  show ((frameStep p body next v s).1, s.extend (frameStep p body next v s).2) = _
  by_cases hv : v = .null
  · subst hv
    cases p with
    | required => rfl
    | withDefault d =>
      rw [frameStep_default_null]
      exact proceedWith_inPlace next d s
    | optional =>
      rw [frameStep_optional_null]
      exact proceedWith_inPlace next .null s
    | delegated =>
      rw [frameStep_delegated, Action.frame_delegated]
      exact afterBody_inPlace next body .null s
  · rw [frameStep_present body next s p hv, Action.frame_present p _ _ hv]
    exact afterBody_inPlace next body v s

/-- A loop of runs in turn, run in place, is the runs in turn on the shared scope, each within
its segment. -/
theorem runInTurn_inPlace (s : Scope) (records : List Record)
    (jobs : List (Step × Json × Segment)) :
    Action.inTurn (jobs.map fun j => (j.1.inPlace, j.2.1, j.2.2)) (s.extend records) =
      ((runInTurn s records jobs).map (·.1),
        s.extend (records ++ (runInTurn s records jobs).flatMap (·.2))) := by
  induction jobs generalizing records with
  | nil => simp [Action.inTurn, runInTurn]
  | cons job jobs ih =>
    obtain ⟨f, v, seg⟩ := job
    -- the call within its segment leaves the shared scope extended by its records
    have hwithin : Action.within seg f.inPlace v (s.extend records) =
        ((f v ((s.extend records).enter seg)).1,
          s.extend (records ++ (f v ((s.extend records).enter seg)).2)) := by
      simp [Action.within, Step.inPlace, Scope.extend, Scope.enter]
    simp only [List.map_cons, Action.inTurn, hwithin, runInTurn, ih, List.map_cons,
      List.flatMap_cons, List.append_assoc]

/-! ### The outcome of a call -/

namespace Outcome

@[simp] theorem errors_ofRecords (rs : List Record) : (ofRecords rs).errors = rs := by
  cases rs <;> rfl

@[simp] theorem isValid_ofRecords (rs : List Record) : (ofRecords rs).isValid ↔ rs = [] := by
  cases rs <;> simp [ofRecords, isValid]

end Outcome

/-- A validator's outcome lists the records its call appended to a fresh scope, in the order
they were appended, and is valid exactly when there are none. -/
theorem Validator.outcome_of_validate {val : Validator} {call : Mode} {v : Json} {o : Outcome}
    {w : Json} (h : val.validate call v = .ok (o, w)) :
    o.errors = (val.root.step.inPlace v { messages := val.messages }).2.records ∧
      (o.isValid ↔ (val.root.step.inPlace v { messages := val.messages }).2.records = []) := by
  unfold validate at h
  split at h
  · cases h
    simp
  · cases h

/-- Records are only ever appended: every step, run in place on a shared scope, keeps the records
before it, and a frame or a pipe stops exactly when their count grew. -/
theorem records_only_grow :
    (∀ (f : Step) v (s : Scope), s.records <+: (f.inPlace v s).2.records ∧
      (f.inPlace v s).2.path = s.path ∧
      (s.records.length < (f.inPlace v s).2.records.length ↔ (f v s).2 ≠ [])) ∧
    (∀ p body next,
      (frameStep p body next).inPlace = Action.frame p body.inPlace (next.map Step.inPlace)) ∧
    (∀ steps, (Rule.pipeStep steps).inPlace = Action.pipe (steps.map Step.inPlace)) ∧
    (∀ (s : Scope) records (jobs : List (Step × Json × Segment)),
      Action.inTurn (jobs.map fun j => (j.1.inPlace, j.2.1, j.2.2)) (s.extend records) =
        ((runInTurn s records jobs).map (·.1),
          s.extend (records ++ (runInTurn s records jobs).flatMap (·.2)))) ∧
    ∀ (val : Validator) call v o w, val.validate call v = .ok (o, w) →
      o.errors = (val.root.step.inPlace v { messages := val.messages }).2.records ∧
      (o.isValid ↔ (val.root.step.inPlace v { messages := val.messages }).2.records = []) :=
  ⟨fun f v s => ⟨Step.records_prefix_inPlace f v s, rfl, Step.count_grows_iff f v s⟩,
    frameStep_inPlace, pipeStep_inPlace, runInTurn_inPlace,
    fun _ _ _ _ _ h => Validator.outcome_of_validate h⟩

end Conform
