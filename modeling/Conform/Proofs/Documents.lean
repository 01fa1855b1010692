import Conform.Proofs.ShorthandGrammar
import Mathlib.Data.List.Forall2
/-! Loading schema documents. A JSON value reads as a schema when it is a string, a map whose
string `$$type` expands as a shorthand and whose other members read as schemas, or a map
without `$$type` whose `type` is a string (`Json.ReadsAsSchema`). A document is a shorthand, a map
marked `$$root: true` read as one schema node, or else the field map of a root `object`: every
member whose key does not start with `$$` is a field, `$$async` and `$$strict` become options,
and, read strictly, any other `$$` key is refused.

Proved (`load_document`): reading a schema succeeds exactly on readable values, a `$$type`
map's fields keeping their order; a field map loads exactly when its fields read and, strictly,
its meta keys are known, with the fields in document order as `props`, and fails with the fault
of its first faulty member. A `$$root` map is read without its `$$root` member, but the member
removal swaps: the map's last member takes `$$root`'s place (`toSchema_root_moves_last`), so the
map reads as written only when at most one member follows `$$root`
(`root_document_moves_last_field`). -/

namespace Conform

variable {ε α β : Type}

/-! ### Traversals that may fail -/

theorem mapM_eq_ok_iff (f : α → Except ε β) (xs : List α) (ys : List β) :
    xs.mapM f = .ok ys ↔ List.Forall₂ (fun x y => f x = .ok y) xs ys := by
  induction xs generalizing ys with
  | nil => cases ys <;> simp [pure, Except.pure]
  | cons x xs ih =>
    rw [List.mapM_cons]
    cases hx : f x with
    | error e => cases ys <;> simp [bind, Except.bind, hx]
    | ok y =>
      cases hxs : xs.mapM f with
      | error e => cases ys <;> simp [bind, Except.bind, ← ih, hxs, hx]
      | ok ys' => cases ys <;> simp [bind, Except.bind, pure, Except.pure, ← ih, hxs, hx]

theorem mapM_ok_of_forall {f : α → Except ε β} {xs : List α} (h : ∀ x ∈ xs, ∃ y, f x = .ok y) :
    ∃ ys, xs.mapM f = .ok ys := by
  induction xs with
  | nil => exact ⟨[], rfl⟩
  | cons x xs ih =>
    obtain ⟨y, hy⟩ := h x List.mem_cons_self
    obtain ⟨ys, hys⟩ := ih fun x' hx' => h x' (List.mem_cons_of_mem _ hx')
    exact ⟨y :: ys, by simp [List.mapM_cons, hy, hys, bind, Except.bind, pure, Except.pure]⟩

/-! ### Values that read as schemas -/

namespace Json

/-- A JSON value that reads as a schema: a string; a map whose `$$type` is a string that expands
as a shorthand and whose other members read as schemas; a map without `$$type` whose `type` is
a string. -/
inductive ReadsAsSchema : Json → Prop
  | shorthand (t : String) : ReadsAsSchema (.str t)
  | tagged {ms : List (String × Json)} {tag : String} {n : Node} :
      ms.lookup "$$type" = some (.str tag) → Shorthand.expand tag = .ok n →
      (∀ m ∈ ms, m.1 ≠ "$$type" → ReadsAsSchema m.2) → ReadsAsSchema (.obj ms)
  | typed {ms : List (String × Json)} {tag : String} :
      ms.lookup "$$type" = none → ms.lookup "type" = some (.str tag) → ReadsAsSchema (.obj ms)

end Json

namespace Schema

def readMember (m : String × Json) : Except Error (String × Schema) :=
  (Schema.ofJson m.2).map ((m.1, ·))

theorem propsOfMembers_eq (ms : List (String × Json)) :
    propsOfMembers ms = (ms.filter (·.1 ≠ "$$type")).mapM readMember := by
  induction ms with
  | nil => rw [propsOfMembers]; rfl
  | cons m rest ih =>
    obtain ⟨k, v⟩ := m
    by_cases hk : k = "$$type"
    · subst hk
      simp [propsOfMembers, ih]
    · rw [propsOfMembers, if_neg hk, ih]
      simp only [List.filter_cons, hk, decide_false, decide_not, Bool.not_false, if_true,
        List.mapM_cons, readMember]
      cases Schema.ofJson v <;> rfl

/-- A member matches its field when the key is the same and the value reads as its schema. -/
def ReadsAs (m : String × Json) (p : String × Schema) : Prop :=
  p.1 = m.1 ∧ Schema.ofJson m.2 = .ok p.2

theorem readMember_eq_ok {m : String × Json} {p : String × Schema} :
    readMember m = .ok p ↔ ReadsAs m p := by
  obtain ⟨k, v⟩ := m
  obtain ⟨k', s⟩ := p
  cases h : Schema.ofJson v <;> simp [readMember, ReadsAs, h, Except.map, eq_comm]

/-- Reading a value as a schema succeeds exactly on readable values. -/
theorem ofJson_ok_iff (j : Json) : (∃ s, Schema.ofJson j = .ok s) ↔ j.ReadsAsSchema := by
  -- the induction follows the reader: a value, a map's node, and a `$$type` map's field members
  refine (Schema.ofJson.mutual_induct
    (fun j => (∃ s, Schema.ofJson j = .ok s) ↔ j.ReadsAsSchema)
    (fun ms => (∃ s, Schema.nodeOfMembers ms = .ok s) ↔ (Json.obj ms).ReadsAsSchema)
    (fun ms => (∃ props, Schema.propsOfMembers ms = .ok props) ↔
      ∀ m ∈ ms, m.1 ≠ "$$type" → m.2.ReadsAsSchema)
    ?str ?obj ?other ?typed ?badTyped ?tagged ?badTagged ?untagged ?nil ?skip ?member).1 j
  case str => exact fun t => ⟨fun _ => .shorthand t, fun _ => ⟨.shorthand t, by rw [Schema.ofJson]⟩⟩
  case obj => exact fun ms ih => by rw [Schema.ofJson]; exact ih
  case other =>
    intro v hstr hobj
    refine ⟨fun ⟨s, h⟩ => ?_, fun h => ?_⟩
    · cases v <;> simp_all [Schema.ofJson]
    · cases h with
      | shorthand t => exact absurd rfl (hstr t)
      | tagged => exact absurd rfl (hobj _)
      | typed => exact absurd rfl (hobj _)
  case typed =>
    -- a `$$type` map: its shorthand expands and its other members read
    intro ms tag hlook ih
    rw [Schema.nodeOfMembers, hlook]
    dsimp only
    constructor
    · rintro ⟨s, h⟩
      obtain ⟨n, hn, h⟩ := except_bind_eq_ok.mp h
      obtain ⟨props, hprops, -⟩ := except_bind_eq_ok.mp h
      exact .tagged hlook hn (ih.mp ⟨props, hprops⟩)
    · intro h
      cases h with
      | tagged hlook' hn hfields =>
        rw [hlook, Option.some.injEq, Json.str.injEq] at hlook'
        subst hlook'
        obtain ⟨props, hprops⟩ := ih.mpr hfields
        exact ⟨_, by rw [hn, hprops]; rfl⟩
      | typed hnone => simp [hlook] at hnone
  case badTyped =>
    intro ms v hstr hlook
    rw [Schema.nodeOfMembers, hlook]
    refine ⟨fun ⟨s, h⟩ => ?_, fun h => ?_⟩
    · cases v <;> simp_all
    · cases h with
      | tagged hlook' => rw [hlook] at hlook'; cases hlook'; exact absurd rfl (hstr _)
      | typed hnone => simp [hlook] at hnone
  case tagged =>
    intro ms hnone tag htype
    refine ⟨fun _ => .typed hnone htype, fun _ => ?_⟩
    rw [Schema.nodeOfMembers, hnone, htype]
    exact ⟨_, rfl⟩
  case badTagged =>
    intro ms hnone v hstr htype
    rw [Schema.nodeOfMembers, hnone, htype]
    refine ⟨fun ⟨s, h⟩ => ?_, fun h => ?_⟩
    · cases v <;> simp_all
    · cases h with
      | tagged hlook => simp [hnone] at hlook
      | typed _ htype' => rw [htype] at htype'; cases htype'; exact absurd rfl (hstr _)
  case untagged =>
    intro ms hnone htype
    rw [Schema.nodeOfMembers, hnone, htype]
    refine ⟨fun ⟨s, h⟩ => (by cases h), fun h => ?_⟩
    cases h with
    | tagged hlook => simp [hnone] at hlook
    | typed _ htype' => simp [htype] at htype'
  case nil => exact ⟨fun _ _ h => (by cases h), fun _ => ⟨[], by rw [Schema.propsOfMembers]⟩⟩
  case skip =>
    intro v rest ih
    rw [Schema.propsOfMembers, if_pos rfl, ih]
    simp
  case member =>
    intro k v rest hk ihv ihrest
    rw [Schema.propsOfMembers, if_neg hk]
    constructor
    · rintro ⟨props, h⟩ m hm hmk
      obtain ⟨s, hs, h⟩ := except_bind_eq_ok.mp h
      obtain ⟨r, hr, -⟩ := except_bind_eq_ok.mp h
      rcases List.mem_cons.mp hm with rfl | hm
      · exact ihv.mp ⟨s, hs⟩
      · exact ihrest.mp ⟨r, hr⟩ m hm hmk
    · intro h
      obtain ⟨s, hs⟩ := ihv.mpr (h (k, v) List.mem_cons_self hk)
      obtain ⟨r, hr⟩ := ihrest.mpr fun m hm hmk => h m (List.mem_cons_of_mem _ hm) hmk
      exact ⟨(k, s) :: r, by simp [hs, hr, bind, Except.bind]⟩

theorem ofJson_tagged {ms : List (String × Json)} {tag : String} {n : Node} {s : Schema}
    (hlook : ms.lookup "$$type" = some (.str tag)) (hn : Shorthand.expand tag = .ok n)
    (h : Schema.ofJson (.obj ms) = .ok s) :
    ∃ props, List.Forall₂ ReadsAs (ms.filter (·.1 ≠ "$$type")) props ∧
      s = (n.set "props" (.fields props)).toSchema := by
  rw [Schema.ofJson, Schema.nodeOfMembers, hlook] at h
  dsimp only at h
  rw [hn] at h
  obtain ⟨n', hn', h⟩ := except_bind_eq_ok.mp h
  cases hn'
  obtain ⟨props, hprops, h⟩ := except_bind_eq_ok.mp h
  rw [propsOfMembers_eq, mapM_eq_ok_iff] at hprops
  refine ⟨props, hprops.imp fun _ _ => readMember_eq_ok.mp, ?_⟩
  cases h
  rfl

end Schema

/-! ### Documents -/

namespace Document

/-- The meta keys a document may carry: `$$async`, `$$strict` and `$$root`. -/
def knownMeta (k : String) : Prop := k = "$$async" ∨ k = "$$strict" ∨ k = "$$root"

instance (k : String) : Decidable (knownMeta k) := inferInstanceAs (Decidable (_ ∨ _))

/-- What is wrong with a member of a document read as a field map, if anything: a field (a key
not starting with `$$`) whose value does not read as a schema, with the reader's error, or, read
strictly, a meta key other than the known ones. -/
def fault (strict : Bool) : String × Json → Option Error
  | (k, v) =>
    if k.startsWith "$$" then
      if strict ∧ ¬knownMeta k then some (.schema s!"unknown meta key '{k}'") else none
    else
      match Schema.ofJson v with
      | .error e => some e
      | .ok _ => none

/-- The fields of a document: the members whose keys do not start with `$$`, in order. -/
def fields (ms : List (String × Json)) : List (String × Json) :=
  ms.filter fun m => !m.1.startsWith "$$"

/-- The options of a document's root `object`: `$$async` as `$$async`, the field schemas as
`props`, `$$strict` as `strict`, sorted by key. A meta key given twice counts by its last
value (a document read from text never has a key twice). -/
def rootOptions (ms : List (String × Json)) (props : List (String × Schema)) :
    List (String × Opt) :=
  ((ms.reverse.lookup "$$async").map fun v => ("$$async", Opt.value v)).toList ++
    ("props", .fields props) :: ((ms.reverse.lookup "$$strict").map fun v => ("strict", Opt.value v)).toList

def setMeta (n : Node) : String × Json → Node
  | (k, v) =>
    if k = "$$async" then n.set "$$async" (.value v)
    else if k = "$$strict" then n.set "strict" (.value v) else n

def metaOptions (a s : Option Json) : List (String × Opt) :=
  (a.map fun v => ("$$async", Opt.value v)).toList ++ (s.map fun v => ("strict", Opt.value v)).toList

theorem meta_keys_ordered :
    ("$$async" : String) < "props" ∧ ("$$async" : String) < "strict" ∧ ("props" : String) < "strict" := by
  decide

theorem lookup_single (k key : String) (v : Json) :
    [(k, v)].lookup key = if k = key then some v else none := by
  by_cases h : k = key
  · subst h
    simp
  · simp [List.lookup_cons, beq_eq_false_iff_ne.mpr (Ne.symm h), h]

theorem setMeta_metaOptions (a s : Option Json) (k : String) (v : Json) :
    setMeta ⟨"object", metaOptions a s⟩ (k, v) =
      ⟨"object", metaOptions (([(k, v)].lookup "$$async").or a) (([(k, v)].lookup "$$strict").or s)⟩ := by
  obtain ⟨-, hlt, -⟩ := meta_keys_ordered
  have hgt : ¬("strict" : String) < "$$async" := by decide
  have hne : ("$$async" : String) ≠ "$$strict" := by decide
  rw [lookup_single, lookup_single]
  by_cases ha : k = "$$async"
  · subst ha
    cases a <;> cases s <;> simp [setMeta, metaOptions, Node.set, Options.insert, hlt, hne]
  · by_cases hs : k = "$$strict"
    · subst hs
      cases a <;> cases s <;> simp [setMeta, metaOptions, Node.set, Options.insert, hgt, hne.symm]
    · simp [setMeta, ha, hs]

theorem foldl_setMeta (ms : List (String × Json)) (a s : Option Json) :
    ms.foldl setMeta ⟨"object", metaOptions a s⟩ =
      ⟨"object", metaOptions ((ms.reverse.lookup "$$async").or a)
        ((ms.reverse.lookup "$$strict").or s)⟩ := by
  induction ms generalizing a s with
  | nil => rfl
  | cons m rest ih =>
    obtain ⟨k, v⟩ := m
    rw [List.foldl_cons, setMeta_metaOptions, ih, List.reverse_cons, List.lookup_append,
      List.lookup_append, Option.or_assoc, Option.or_assoc]

theorem rootOfMembers_eq (strict : Bool) (ms : List (String × Json)) (n : Node) :
    rootOfMembers strict ms n = match ms.findSome? (fault strict) with
      | some e => .error e
      | none => ((fields ms).mapM Schema.readMember).map fun props => (ms.foldl setMeta n, props) := by
  induction ms generalizing n with
  | nil => rfl
  | cons m rest ih =>
    obtain ⟨k, v⟩ := m
    -- a meta key: `$$async`, `$$strict` and `$$root` pass, another one only when not strict
    by_cases hmeta : k.startsWith "$$"
    · have hfields : fields ((k, v) :: rest) = fields rest := by simp [fields, hmeta]
      by_cases hknown : knownMeta k
      · have hfault : fault strict (k, v) = none := by simp [fault, hmeta, hknown]
        rw [List.findSome?_cons_of_isNone (by simp [hfault]), hfields, List.foldl_cons]
        rcases hknown with rfl | rfl | rfl
        · rw [rootOfMembers, if_pos rfl, ih]
          rfl
        · rw [rootOfMembers, if_neg (by decide), if_pos rfl, ih]
          rfl
        · rw [rootOfMembers, if_neg (by decide), if_neg (by decide), if_pos rfl, ih]
          rfl
      · have hne : k ≠ "$$async" ∧ k ≠ "$$strict" ∧ k ≠ "$$root" := by
          simpa [knownMeta, not_or] using hknown
        rw [rootOfMembers, if_neg hne.1, if_neg hne.2.1, if_neg hne.2.2, if_pos hmeta]
        cases strict
        · have hfault : fault false (k, v) = none := by simp [fault, hmeta]
          rw [List.findSome?_cons_of_isNone (by simp [hfault]), hfields, List.foldl_cons,
            if_neg Bool.false_ne_true, ih]
          simp [setMeta, hne.1, hne.2.1]
        · simp [fault, hmeta, hknown]
    · -- a field: its value is read before the rest of the document
      have hne : k ≠ "$$async" ∧ k ≠ "$$strict" ∧ k ≠ "$$root" := by
        refine ⟨?_, ?_, ?_⟩ <;> rintro rfl <;> exact hmeta (by simp)
      rw [rootOfMembers, if_neg hne.1, if_neg hne.2.1, if_neg hne.2.2, if_neg hmeta]
      have hfields : fields ((k, v) :: rest) = (k, v) :: fields rest := by simp [fields, hmeta]
      cases hv : Schema.ofJson v with
      | error e => simp [fault, hmeta, hv, bind, Except.bind]
      | ok s =>
        have hfault : fault strict (k, v) = none := by simp [fault, hmeta, hv]
        rw [List.findSome?_cons_of_isNone (by simp [hfault]), hfields, List.foldl_cons, ih]
        have hset : setMeta n (k, v) = n := by simp [setMeta, hne.1, hne.2.1]
        rw [hset]
        cases rest.findSome? (fault strict) with
        | some e => simp [bind, Except.bind]
        | none =>
          cases hr : (fields rest).mapM Schema.readMember <;>
            simp [List.mapM_cons, Schema.readMember, hv, hr, bind, Except.bind, Except.map, pure,
              Except.pure]

theorem set_props_metaOptions (a s : Option Json) (props : List (String × Schema)) :
    (⟨"object", metaOptions a s⟩ : Node).set "props" (.fields props) =
      ⟨"object", (a.map fun v => ("$$async", Opt.value v)).toList ++
        ("props", .fields props) :: (s.map fun v => ("strict", Opt.value v)).toList⟩ := by
  obtain ⟨-, -, hps⟩ := meta_keys_ordered
  have hpa : ¬("props" : String) < "$$async" := by decide
  cases a <;> cases s <;> simp [metaOptions, Node.set, Options.insert, hps, hpa]

/-- A document that is a field map, not marked `$$root: true`: the first faulty member stops
the loading with its fault; otherwise it loads as a root `object` with the fields as `props`. -/
theorem toSchema_fieldMap (strict : Bool) {ms : List (String × Json)}
    (hroot : ms.lookup "$$root" ≠ some (.bool true)) :
    toSchema strict (.obj ms) = match ms.findSome? (fault strict) with
      | some e => .error e
      | none => ((fields ms).mapM Schema.readMember).map fun props =>
          .node "object" (rootOptions ms props) := by
  -- the `$$root` branch is ruled out by `hroot`
  simp only [toSchema]
  rw [rootOfMembers_eq]
  cases ms.findSome? (fault strict) with
  | some e => rfl
  | none =>
    have hmeta := foldl_setMeta ms none none
    simp only [metaOptions, Option.map_none, Option.toList_none, List.append_nil,
      Option.or_none] at hmeta
    cases (fields ms).mapM Schema.readMember with
    | error e => rfl
    | ok props =>
      simp only [Except.map, bind, Except.bind]
      rw [show Node.ofRule "object" = ⟨"object", metaOptions none none⟩ from rfl, foldl_setMeta,
        set_props_metaOptions]
      simp [rootOptions, Node.toSchema]

theorem fault_eq_none_iff (strict : Bool) (m : String × Json) :
    fault strict m = none ↔
      (¬m.1.startsWith "$$" → m.2.ReadsAsSchema) ∧ (strict → m.1.startsWith "$$" → knownMeta m.1) := by
  obtain ⟨k, v⟩ := m
  by_cases hmeta : k.startsWith "$$"
  · cases strict <;> by_cases hk : knownMeta k <;> simp [fault, hmeta, hk]
  · rw [← Schema.ofJson_ok_iff]
    cases hv : Schema.ofJson v <;> simp [fault, hmeta, hv]

theorem findSome?_fault_eq_none_iff (strict : Bool) (ms : List (String × Json)) :
    ms.findSome? (fault strict) = none ↔
      (∀ m ∈ ms, ¬m.1.startsWith "$$" → m.2.ReadsAsSchema) ∧
        (strict → ∀ m ∈ ms, m.1.startsWith "$$" → knownMeta m.1) := by
  rw [List.findSome?_eq_none_iff]
  simp only [fault_eq_none_iff]
  exact ⟨fun h => ⟨fun m hm => (h m hm).1, fun hs m hm => (h m hm).2 hs⟩,
    fun h m hm => ⟨h.1 m hm, fun hs => h.2 hs m hm⟩⟩

/-- A field map either stops at its first faulty member, with that member's fault, or has none
and loads its fields, each read as a schema in document order. -/
theorem toSchema_fieldMap_cases (strict : Bool) {ms : List (String × Json)}
    (hroot : ms.lookup "$$root" ≠ some (.bool true)) :
    (∃ e, ms.findSome? (fault strict) = some e ∧ toSchema strict (.obj ms) = .error e) ∨
      (ms.findSome? (fault strict) = none ∧ ∃ props,
        List.Forall₂ Schema.ReadsAs (fields ms) props ∧
          toSchema strict (.obj ms) = .ok (.node "object" (rootOptions ms props))) := by
  rw [toSchema_fieldMap strict hroot]
  cases hf : ms.findSome? (fault strict) with
  | some e => exact .inl ⟨e, rfl, rfl⟩
  | none =>
    -- with no faulty member every field reads, so the traversal of the fields succeeds
    obtain ⟨props, hprops⟩ : ∃ props, (fields ms).mapM Schema.readMember = .ok props := by
      refine mapM_ok_of_forall fun m hm => ?_
      have hm' := List.mem_filter.mp hm
      have hnf := List.findSome?_eq_none_iff.mp hf m hm'.1
      rw [fault_eq_none_iff] at hnf
      obtain ⟨s, hs⟩ := (Schema.ofJson_ok_iff m.2).mpr (hnf.1 (by simpa using hm'.2))
      exact ⟨(m.1, s), by simp [Schema.readMember, hs, Except.map]⟩
    refine .inr ⟨rfl, props,
      ((mapM_eq_ok_iff _ _ _).mp hprops).imp fun _ _ => Schema.readMember_eq_ok.mp, ?_⟩
    simp [hprops, Except.map]

/-! ### Documents marked `$$root` -/

theorem findIdx?_key {k : String} {v : Json} {pre post : List (String × Json)}
    (hpre : k ∉ pre.map (·.1)) :
    (pre ++ (k, v) :: post).findIdx? (·.1 == k) = some pre.length := by
  induction pre with
  | nil => simp [List.findIdx?_cons]
  | cons q rest ih =>
    have hq : q.1 ≠ k := fun h => hpre (List.mem_map.mpr ⟨q, List.mem_cons_self, h⟩)
    have hrest : k ∉ rest.map (·.1) := fun h => hpre (List.mem_cons_of_mem _ h)
    simp [List.findIdx?_cons, hq, ih hrest]

theorem swapRemove_last {k : String} {v : Json} {pre : List (String × Json)}
    (hpre : k ∉ pre.map (·.1)) : Members.swapRemove (pre ++ [(k, v)]) k = pre := by
  rw [Members.swapRemove, @findIdx?_key k v pre [] hpre]
  dsimp only
  simp

theorem swapRemove_swaps {k : String} {v : Json} {pre mid : List (String × Json)}
    {last : String × Json} (hpre : k ∉ pre.map (·.1)) :
    Members.swapRemove (pre ++ (k, v) :: (mid ++ [last])) k = pre ++ last :: mid := by
  rw [Members.swapRemove, findIdx?_key hpre]
  dsimp only
  have h₁ : pre.drop (pre.length + (mid.length + 1)) = [] := List.drop_eq_nil_of_le (by omega)
  have h₂ : pre.drop (pre.length + 1) = [] := List.drop_eq_nil_of_le (by omega)
  simp only [List.length_append, List.length_cons]
  rw [if_neg (by omega)]
  simp [List.drop_append, h₁, h₂]
  exact @List.dropLast_concat _ (last :: mid) _

theorem lookup_first {k : String} {v : Json} {pre post : List (String × Json)}
    (hpre : k ∉ pre.map (·.1)) : (pre ++ (k, v) :: post).lookup k = some v :=
  List.lookup_eq_some_iff.mpr ⟨pre, post, rfl, fun p hp =>
    bne_iff_ne.mpr fun h => hpre (List.mem_map.mpr ⟨p, hp, h.symm⟩)⟩

/-- A document marked `$$root: true` reads as one node of its other members, in the order the
swapping removal leaves. -/
theorem toSchema_root_moves_last (strict : Bool) {pre mid : List (String × Json)}
    {last : String × Json} (hpre : "$$root" ∉ pre.map (·.1)) :
    toSchema strict (.obj (pre ++ ("$$root", .bool true) :: (mid ++ [last]))) =
      Schema.ofJson (.obj (pre ++ last :: mid)) := by
  have hlook := @lookup_first "$$root" (.bool true) pre (mid ++ [last]) hpre
  simp only [toSchema, hlook, swapRemove_swaps hpre, Schema.ofJson]

/-- A document marked `$$root: true` with at most one member after `$$root` reads as the node
of its other members, in document order. -/
theorem toSchema_root (strict : Bool) {pre post : List (String × Json)}
    (hpre : "$$root" ∉ pre.map (·.1)) (hpost : post.length ≤ 1) :
    toSchema strict (.obj (pre ++ ("$$root", .bool true) :: post)) =
      Schema.ofJson (.obj (pre ++ post)) := by
  match post, hpost with
  | [], _ =>
    have hlook := @lookup_first "$$root" (.bool true) pre [] hpre
    simp only [toSchema, hlook, swapRemove_last hpre, Schema.ofJson, List.append_nil]
  | [last], _ => exact @toSchema_root_moves_last strict pre [] last hpre

end Document

/-! ### Loading documents -/

/-- Loading a schema document: a shorthand string, a `$$root` map, or a field map that loads exactly
when its members have no fault. -/
theorem load_document (strict : Bool) :
    (∀ t, Document.toSchema strict (.str t) = .ok (.shorthand t)) ∧
    (∀ pre post, "$$root" ∉ pre.map (·.1) → post.length ≤ 1 →
      Document.toSchema strict (.obj (pre ++ ("$$root", .bool true) :: post)) =
        Schema.ofJson (.obj (pre ++ post))) ∧
    (∀ ms, ms.lookup "$$root" ≠ some (.bool true) →
      ((∃ S, Document.toSchema strict (.obj ms) = .ok S) ↔
        (∀ m ∈ ms, ¬m.1.startsWith "$$" → m.2.ReadsAsSchema) ∧
          (strict → ∀ m ∈ ms, m.1.startsWith "$$" → Document.knownMeta m.1)) ∧
      (∀ S, Document.toSchema strict (.obj ms) = .ok S → ∃ props,
        List.Forall₂ Schema.ReadsAs (Document.fields ms) props ∧
          S = .node "object" (Document.rootOptions ms props)) ∧
      (∀ e, Document.toSchema strict (.obj ms) = .error e ↔
        ms.findSome? (Document.fault strict) = some e)) ∧
    (∀ d, (∀ t, d ≠ .str t) → (∀ ms, d ≠ .obj ms) →
      Document.toSchema strict d = .error (.schema s!"schema document must be a map, got {d.kindName}")) ∧
    (∀ j, (∃ s, Schema.ofJson j = .ok s) ↔ j.ReadsAsSchema) ∧
    (∀ ms tag n s, ms.lookup "$$type" = some (.str tag) → Shorthand.expand tag = .ok n →
      Schema.ofJson (.obj ms) = .ok s → ∃ props,
        List.Forall₂ Schema.ReadsAs (ms.filter (·.1 ≠ "$$type")) props ∧
          s = (n.set "props" (.fields props)).toSchema) := by
  refine ⟨fun t => rfl, fun pre post hpre hpost => Document.toSchema_root strict hpre hpost,
    fun ms hroot => ?_, fun d hstr hobj => ?_, Schema.ofJson_ok_iff,
    fun ms tag n s hlook hn h => Schema.ofJson_tagged hlook hn h⟩
  · have hnofault := Document.findSome?_fault_eq_none_iff strict ms
    rcases Document.toSchema_fieldMap_cases strict hroot with ⟨e, hf, he⟩ | ⟨hf, props, hprops, hok⟩
    · -- a faulty member: the loading fails with its fault
      rw [he, hf]
      refine ⟨⟨fun ⟨_, h⟩ => (by cases h), fun h => ?_⟩, fun _ h => (by cases h), fun e' => ?_⟩
      · cases hf.symm.trans (hnofault.mpr h)
      · exact ⟨fun h => by cases h; rfl, fun h => by cases h; rfl⟩
    · -- no faulty member: the fields load in document order
      rw [hok, hf]
      refine ⟨⟨fun _ => hnofault.mp hf, fun _ => ⟨_, rfl⟩⟩, fun S hS => ⟨props, hprops, ?_⟩, fun e => ?_⟩
      · cases hS
        rfl
      · exact ⟨fun h => (by cases h), fun h => (by cases h)⟩
  · cases d with
    | str t => exact absurd rfl (hstr t)
    | obj ms => exact absurd rfl (hobj ms)
    | _ => rfl

/-- The last member of a `$$root` document moves into `$$root`'s place, so a `$$type` root's fields
load out of order. -/
theorem root_document_moves_last_field :
    Document.toSchema false (.obj [("$$root", .bool true), ("$$type", .str "object"),
        ("a", .str "string"), ("b", .str "number")]) =
      .ok (.node "object" [("props", .fields [("b", .shorthand "number"), ("a", .shorthand "string")])]) ∧
    Schema.ofJson (.obj [("$$type", .str "object"), ("a", .str "string"), ("b", .str "number")]) =
      .ok (.node "object" [("props", .fields [("a", .shorthand "string"), ("b", .shorthand "number")])]) ∧
    Document.toSchema false (.obj [("$$root", .bool true), ("$$type", .str "object"),
        ("a", .str "string"), ("b", .str "number")]) ≠
      Schema.ofJson (.obj [("$$type", .str "object"), ("a", .str "string"), ("b", .str "number")]) := by
  have hobject : Shorthand.expand "object" = .ok (Node.ofRule "object") := rfl
  have hplain : Schema.ofJson (.obj [("$$type", .str "object"), ("a", .str "string"),
      ("b", .str "number")]) =
      .ok (.node "object" [("props", .fields [("a", .shorthand "string"), ("b", .shorthand "number")])]) := by
    simp [Schema.ofJson, Schema.nodeOfMembers, Schema.propsOfMembers, hobject, bind, Except.bind,
      Node.set, Options.insert, Node.ofRule, Node.toSchema]
  -- the last member, `b`, takes the place of `$$root`
  have hroot : Document.toSchema false (.obj [("$$root", .bool true), ("$$type", .str "object"),
      ("a", .str "string"), ("b", .str "number")]) =
      .ok (.node "object" [("props", .fields [("b", .shorthand "number"), ("a", .shorthand "string")])]) := by
    rw [show [("$$root", Json.bool true), ("$$type", .str "object"), ("a", .str "string"),
        ("b", .str "number")] = [] ++ ("$$root", Json.bool true) :: ([("$$type", .str "object"),
        ("a", .str "string")] ++ [("b", .str "number")]) from rfl,
      Document.toSchema_root_moves_last false (by simp)]
    simp [Schema.ofJson, Schema.nodeOfMembers, Schema.propsOfMembers, List.lookup_cons, hobject,
      bind, Except.bind, Node.set, Options.insert, Node.ofRule, Node.toSchema]
  refine ⟨hroot, hplain, ?_⟩
  rw [hroot, hplain]
  simp

end Conform
