import Mathlib.Data.List.Forall2
import Mathlib.Data.List.Pairwise
import Tint.Proofs.Json.Schema

/-!
# Members in any order

A record is read from the front and stops at the first member that it does not take. What it takes
does not depend on the order for all that: adding two members to a draft commutes, as each goes to
a place of its own, and a member that stops the record in one place does so in every other.

## The model

* `Schema.Tidy` says that the parts of a schema are separate: they have different names and
  different places in a draft.
* `Doc.Holds names d name v` says that the record `d` with the members `names` has the value `v` for
  one of them, as an object or as an array. `Doc.Lacks`, `Doc.Repeats` and `Doc.Strays` are the ways
  in which its names can be wrong.
* `Reordered rel ms ms'` says that one list of members is another one in any order, with values that
  are related.

## What is proved

* `Schema.add_comm`, `Schema.gather_perm`: members may come in any order.
* `Schema.decode_reordered`: so a record is read as the same from its members in another order, with
  values that are read as the same.
* `Schema.decode_of_strays`, `Schema.decode_of_repeats`, `Schema.decode_of_lacks` and
  `Schema.decode_of_holds`: nothing is read from a record with a wrong name or a wrong value,
  wherever it stands.
-/

namespace Tint.Json

/-! ### Names of members -/

namespace Doc

/-- The record with the members `names` has the value for the member `name`. -/
inductive Holds (names : List String) : Doc → String → Doc → Prop
  /-- The member of an object. -/
  | member {ms : List (Written × Doc)} {m : Written × Doc} {name : String} (listed : m ∈ ms)
      (spells : m.1.Spells name) : Holds names (.object ms) name m.2
  /-- The element of an array at the place of the member. -/
  | element {ds : List Doc} {i : Nat} {name : String} {v : Doc} (place : names[i]? = some name)
      (listed : ds[i]? = some v) : Holds names (.array ds) name v

/-- The record has no value for the member. -/
def Lacks (names : List String) (d : Doc) (name : String) : Prop := ∀ v, ¬ Holds names d name v

/-- The record is an object with two members of one of the names. -/
def Repeats (names : List String) (d : Doc) : Prop :=
  ∃ ms, d = .object ms ∧ ∃ name ∈ names, 1 < ms.countP fun m => m.1.Spells name

/-- The record is an object with a member of another name. -/
def Strays (names : List String) (d : Doc) : Prop :=
  ∃ ms, d = .object ms ∧ ∃ m ∈ ms, ∀ name ∈ names, ¬ m.1.Spells name

end Doc

/-- The members are the same in any order, with values that are related. -/
def Reordered (rel : Written → Doc → Doc → Prop) (ms ms' : List (Written × Doc)) : Prop :=
  ∃ middle, List.Forall₂ (fun m n => m.1 = n.1 ∧ rel m.1 m.2 n.2) ms middle ∧ middle.Perm ms'

namespace Schema

variable {α σ : Type} (schema : Schema σ α)

/-- The names of the parts. -/
def names : List String := schema.parts.map (·.member.name)

end Schema

/-- Two parts have different names and different places in a draft. -/
structure Part.Separate {σ : Type} (p q : Part σ) : Prop where
  /-- The names are different. -/
  name_ne : p.member.name ≠ q.member.name
  /-- The second member is present if it was before the first one was set. -/
  present_left : ∀ draft v, q.member.present (p.set draft v) = q.member.present draft
  /-- The first member is present if it was before the second one was set. -/
  present_right : ∀ draft w, p.member.present (q.set draft w) = p.member.present draft
  /-- The two members are set in either order. -/
  set_comm : ∀ draft v w, q.set (p.set draft v) w = p.set (q.set draft w) v

theorem Part.Separate.symm {σ : Type} {p q : Part σ} (separate : p.Separate q) : q.Separate p where
  name_ne := separate.name_ne.symm
  present_left := separate.present_right
  present_right := separate.present_left
  set_comm draft v w := (separate.set_comm draft w v).symm

instance {σ : Type} : Std.Symm (@Part.Separate σ) := ⟨fun _ _ separate => separate.symm⟩

namespace Schema

variable {α σ : Type} (schema : Schema σ α)

/-- The parts are separate, and a draft has what was put into it. -/
structure Tidy : Prop where
  /-- The parts are separate. -/
  separate : schema.parts.Pairwise Part.Separate
  /-- A member that is set is present. -/
  present_set : ∀ p ∈ schema.parts, ∀ draft v, p.member.present (p.set draft v) = true
  /-- At first no member is present. -/
  empty_absent : ∀ p ∈ schema.parts, p.member.present schema.record.empty = false

variable {schema} {name : List Char} {p q : Part σ} {draft : σ}

theorem Tidy.apart (tidy : schema.Tidy) (hp : p ∈ schema.parts) (hq : q ∈ schema.parts)
    (ne : p.member.name ≠ q.member.name) : p.Separate q :=
  tidy.separate.forall hp hq fun same => ne (same ▸ rfl)

theorem part?_spec (found : schema.part? name = some p) :
    p ∈ schema.parts ∧ p.member.name.toList = name := by
  rw [part?] at found
  exact ⟨List.mem_of_find?_eq_some found, by simpa using List.find?_some found⟩

theorem part?_eq_none (other : ∀ known ∈ schema.names, name ≠ known.toList) :
    schema.part? name = none := by
  rw [part?, List.find?_eq_none]
  intro p mem same
  exact other p.member.name (List.mem_map.2 ⟨p, mem, rfl⟩) (of_decide_eq_true same).symm

theorem part?_name (tidy : schema.Tidy) (mem : p ∈ schema.parts) :
    schema.part? p.member.name.toList = some p := by
  have separate := tidy.separate
  rw [part?]
  generalize schema.parts = parts at mem separate ⊢
  induction parts with
  | nil => cases mem
  | cons first parts ih =>
    obtain ⟨other, separate⟩ := List.pairwise_cons.1 separate
    rcases List.mem_cons.1 mem with rfl | mem
    · exact List.find?_cons_of_pos (by simp)
    · rw [List.find?_cons_of_neg, ih mem separate]
      simpa [String.toList_inj] using (other p mem).name_ne

/-! ### Any order -/

theorem addNamed_twice (tidy : schema.Tidy) (found : schema.part? name = some p) (draft : σ)
    (d d' : Doc) :
    ((schema.addNamed draft name d).bind fun next => schema.addNamed next name d') = none := by
  simp only [addNamed, found]
  split
  · rfl
  · cases p.decode d with
    | none => rfl
    | some v => simp [tidy.present_set p (part?_spec found).1 draft v]

theorem addNamed_stray (found : schema.part? name = none) (draft : σ) (name' : List Char)
    (d d' : Doc) :
    ((schema.addNamed draft name d).bind fun next => schema.addNamed next name' d') =
      (schema.addNamed draft name' d').bind fun next => schema.addNamed next name d := by
  have left (draft : σ) :
      schema.addNamed draft name d = if schema.record.isOpen then some draft else none := by
    rw [addNamed, found]
  simp only [left]
  cases schema.record.isOpen <;> simp

/-- Two members are added in either order. -/
theorem addNamed_comm (tidy : schema.Tidy) (draft : σ) (name name' : List Char) (d d' : Doc) :
    ((schema.addNamed draft name d).bind fun next => schema.addNamed next name' d') =
      (schema.addNamed draft name' d').bind fun next => schema.addNamed next name d := by
  cases found : schema.part? name with
  | none => exact addNamed_stray found draft name' d d'
  | some p =>
    cases found' : schema.part? name' with
    | none => exact (addNamed_stray found' draft name d' d).symm
    | some q =>
      obtain ⟨mem, rfl⟩ := part?_spec found
      obtain ⟨mem', rfl⟩ := part?_spec found'
      by_cases same : p.member.name = q.member.name
      · -- One name is added once in either order.
        rw [← same, addNamed_twice tidy found, addNamed_twice tidy found]
      · obtain ⟨-, left, right, comm⟩ := tidy.apart mem mem' same
        simp only [addNamed, found, found']
        cases present : p.member.present draft <;> cases present' : q.member.present draft <;>
          cases p.decode d <;> cases q.decode d' <;> simp [left, right, comm, present, present']

theorem add_comm (tidy : schema.Tidy) (draft : σ) (key key' : Written) (d d' : Doc) :
    ((schema.add draft key d).bind fun next => schema.add next key' d') =
      (schema.add draft key' d').bind fun next => schema.add next key d := by
  simp only [add]
  cases key.content with
  | none => cases key'.content <;> simp
  | some name =>
    cases key'.content with
    | none => simp
    | some name' => exact addNamed_comm tidy draft name name' d d'

/-- **Members may come in any order.** -/
theorem gather_perm (tidy : schema.Tidy) {ms ms' : List (Written × Doc)} (perm : ms.Perm ms')
    (draft : σ) : schema.gather draft ms = schema.gather draft ms' := by
  induction perm generalizing draft with
  | nil => rfl
  | cons m _ ih => simp only [gather, ih]
  | swap m m' ms =>
    simp only [gather]
    rw [← Option.bind_assoc, ← Option.bind_assoc, add_comm tidy]
  | trans _ _ first second => exact (first draft).trans (second draft)

/-! ### Values that are read as the same -/

theorem add_congr {draft : σ} {key : Written} {d d' : Doc}
    (same : ∀ name p, key.content = some name → schema.part? name = some p →
      p.decode d = p.decode d') : schema.add draft key d = schema.add draft key d' := by
  rw [add, add]
  cases content : key.content with
  | none => rfl
  | some name =>
    simp only [Option.bind_some, addNamed]
    cases found : schema.part? name with
    | none => rfl
    | some p => simp only [same name p content found]

theorem gather_congr {rel : Written → Doc → Doc → Prop} {ms ms' : List (Written × Doc)}
    (related : List.Forall₂ (fun m n => m.1 = n.1 ∧ rel m.1 m.2 n.2) ms ms')
    (same : ∀ key d d' name p, rel key d d' → key.content = some name →
      schema.part? name = some p → p.decode d = p.decode d') (draft : σ) :
    schema.gather draft ms = schema.gather draft ms' := by
  induction related generalizing draft with
  | nil => rfl
  | @cons m n ms ms' first _ ih =>
    obtain ⟨key, d⟩ := m
    obtain ⟨_, d'⟩ := n
    obtain ⟨rfl, value⟩ := first
    have added : schema.add draft key d = schema.add draft key d' :=
      add_congr fun name p content found => same key d d' name p value content found
    simp only [gather, added, ih]

theorem decode_perm (tidy : schema.Tidy) {ms ms' : List (Written × Doc)} (perm : ms.Perm ms') :
    schema.decode (.object ms) = schema.decode (.object ms') := by
  rw [decode, decode, gather_perm tidy perm]

/-- **A record is read as the same from its members in another order**, with values that are read
as the same. -/
theorem decode_reordered (tidy : schema.Tidy) {rel : Written → Doc → Doc → Prop}
    {ms ms' : List (Written × Doc)} (reordered : Reordered rel ms ms')
    (same : ∀ key d d' name p, rel key d d' → key.content = some name →
      schema.part? name = some p → p.decode d = p.decode d') :
    schema.decode (.object ms) = schema.decode (.object ms') := by
  obtain ⟨middle, related, perm⟩ := reordered
  rw [← decode_perm tidy perm, decode, decode, gather_congr related same]

theorem decode_append (opened : schema.record.isOpen = true) {ms added : List (Written × Doc)}
    (stray : ∀ m ∈ added, ∃ name, m.1.content = some name ∧ schema.part? name = none) :
    schema.decode (.object (ms ++ added)) = schema.decode (.object ms) := by
  have kept (draft : σ) : schema.gather draft added = some draft := by
    induction added with
    | nil => rfl
    | cons m added ih =>
      obtain ⟨name, content, found⟩ := stray m List.mem_cons_self
      have others := ih fun n mem => stray n (List.mem_cons_of_mem _ mem)
      rw [gather, add, content, Option.bind_some, addNamed, found]
      simp only [opened, if_true, Option.bind_some, others]
  have appended (draft : σ) : schema.gather draft (ms ++ added) = schema.gather draft ms := by
    induction ms generalizing draft with
    | nil => exact kept draft
    | cons m ms ih => simp only [List.cons_append, gather, ih]
  rw [decode, decode, appended]

/-! ### Wrong names and values -/

/-- A member that no draft takes stops the record wherever it stands. -/
theorem gather_of_mem {ms : List (Written × Doc)} {m : Written × Doc} (listed : m ∈ ms)
    (stops : ∀ draft, schema.add draft m.1 m.2 = none) (draft : σ) :
    schema.gather draft ms = none := by
  induction ms generalizing draft with
  | nil => cases listed
  | cons first ms ih =>
    rw [gather]
    rcases List.mem_cons.1 listed with rfl | listed
    · rw [stops draft, Option.bind_none]
    · simp only [ih listed, Option.bind_fun_none]

/-- A name that is not declared stops a closed record. -/
theorem decode_of_strays (closed : schema.record.isOpen = false) {d : Doc}
    (strays : d.Strays schema.names) : schema.decode d = none := by
  obtain ⟨ms, rfl, m, listed, other⟩ := strays
  have stops (draft : σ) : schema.add draft m.1 m.2 = none := by
    rw [add]
    cases content : m.1.content with
    | none => rfl
    | some name =>
      have found : schema.part? name = none := by
        refine part?_eq_none fun known declared same => other known declared ?_
        rw [Written.Spells, content, same]
      simp only [Option.bind_some, addNamed, found, closed]
      rfl
  rw [decode, gather_of_mem listed stops, Option.bind_none]

/-- A member is present if it was before, or if it has just been added. -/
theorem present_add (tidy : schema.Tidy) (mem : p ∈ schema.parts) {draft next : σ} {key : Written}
    {d : Doc} (added : schema.add draft key d = some next) :
    p.member.present next = (p.member.present draft || decide (key.Spells p.member.name)) := by
  rw [add] at added
  obtain ⟨name, content, added⟩ := Option.bind_eq_some_iff.1 added
  rw [addNamed] at added
  have spelled : key.Spells p.member.name ↔ name = p.member.name.toList := by
    rw [Written.Spells, content, Option.some.injEq]
  cases found : schema.part? name with
  | none =>
    have other : ¬ key.Spells p.member.name := by
      intro spells
      rw [spelled.1 spells, part?_name tidy mem] at found
      cases found
    simp only [found] at added
    split at added
    · cases added
      simp [other]
    · cases added
  | some q =>
    obtain ⟨mem', rfl⟩ := part?_spec found
    simp only [found] at added
    split at added
    · cases added
    · obtain ⟨v, -, rfl⟩ := Option.map_eq_some_iff.1 added
      by_cases same : q.member.name = p.member.name
      · -- The part is the one that is set.
        rw [same, part?_name tidy mem] at found
        cases found
        rw [tidy.present_set p mem, decide_eq_true (spelled.2 rfl), Bool.or_true]
      · have other : ¬ key.Spells p.member.name := by
          rw [spelled, String.toList_inj]
          exact same
        rw [(tidy.apart mem' mem same).present_left, decide_eq_false other, Bool.or_false]

theorem present_gather (tidy : schema.Tidy) (mem : p ∈ schema.parts) {ms : List (Written × Doc)}
    {draft last : σ} (gathered : schema.gather draft ms = some last) :
    p.member.present last =
      (p.member.present draft || ms.any fun m => m.1.Spells p.member.name) := by
  induction ms generalizing draft with
  | nil =>
    cases gathered
    simp
  | cons m ms ih =>
    rw [gather] at gathered
    obtain ⟨next, added, gathered⟩ := Option.bind_eq_some_iff.1 gathered
    rw [ih gathered, present_add tidy mem added, List.any_cons, Bool.or_assoc]

theorem gather_of_present (tidy : schema.Tidy) (mem : p ∈ schema.parts) {draft : σ}
    (present : p.member.present draft = true) {ms : List (Written × Doc)} {m : Written × Doc}
    (listed : m ∈ ms) (spells : m.1.Spells p.member.name) : schema.gather draft ms = none := by
  induction ms generalizing draft with
  | nil => cases listed
  | cons first ms ih =>
    rw [gather]
    rcases List.mem_cons.1 listed with rfl | listed
    · rw [add, spells, Option.bind_some, addNamed, part?_name tidy mem]
      simp only [present, if_true, Option.bind_none]
    · cases added : schema.add draft first.1 first.2 with
      | none => rfl
      | some next =>
        have still := present_add tidy mem added
        rw [present, Bool.true_or] at still
        exact ih still listed

/-- A declared name that is there twice stops a record. -/
theorem gather_of_countP (tidy : schema.Tidy) (mem : p ∈ schema.parts)
    {ms : List (Written × Doc)} (twice : 1 < ms.countP fun m => m.1.Spells p.member.name)
    (draft : σ) : schema.gather draft ms = none := by
  induction ms generalizing draft with
  | nil => cases twice
  | cons m ms ih =>
    rw [gather]
    cases added : schema.add draft m.1 m.2 with
    | none => rfl
    | some next =>
      by_cases spells : m.1.Spells p.member.name
      · -- The first of the two makes the name present for the other one.
        have present := present_add tidy mem added
        rw [decide_eq_true spells, Bool.or_true] at present
        rw [List.countP_cons_of_pos (by simpa using spells)] at twice
        obtain ⟨n, listed, spells'⟩ := List.countP_pos_iff.1 (Nat.lt_of_succ_lt_succ twice)
        exact gather_of_present tidy mem present listed (by simpa using spells')
      · rw [List.countP_cons_of_neg (by simpa using spells)] at twice
        exact ih twice next

/-- Two members of a declared name stop a record. -/
theorem decode_of_repeats (tidy : schema.Tidy) {d : Doc} (repeats : d.Repeats schema.names) :
    schema.decode d = none := by
  obtain ⟨ms, rfl, name, listed, twice⟩ := repeats
  obtain ⟨p, mem, rfl⟩ := List.mem_map.1 listed
  rw [decode, gather_of_countP tidy mem twice, Option.bind_none]

/-- An element that is not read stops an array. -/
theorem fill_of_getElem {ps : List (Part σ)} {ds : List Doc} {i : Nat} {v : Doc}
    (place : ps[i]? = some p) (listed : ds[i]? = some v) (wrong : p.decode v = none) (draft : σ) :
    fill draft ps ds = none := by
  induction ps generalizing ds i draft with
  | nil => cases place
  | cons q ps ih =>
    cases ds with
    | nil => cases listed
    | cons d ds =>
      rw [fill]
      cases i with
      | zero =>
        cases place
        cases listed
        rw [wrong]
        rfl
      | succ i => simp only [ih place listed, Option.bind_fun_none]

/-- An array without an element that has to be there is too short. -/
theorem fill_of_length {ps : List (Part σ)} {ds : List Doc} {i : Nat} (place : ps[i]? = some p)
    (required : p.member.required = true) (short : ds[i]? = none) (draft : σ) :
    fill draft ps ds = none := by
  induction ps generalizing ds i draft with
  | nil => cases place
  | cons q ps ih =>
    cases ds with
    | nil =>
      rw [fill]
      cases i with
      | zero =>
        cases place
        rw [if_pos required]
      | succ i =>
        split
        · rfl
        · exact ih place rfl draft
    | cons d ds =>
      rw [fill]
      cases i with
      | zero => cases short
      | succ i => simp only [ih place short, Option.bind_fun_none]

/-- The place of a name is that of its part. -/
theorem getElem?_parts (tidy : schema.Tidy) (mem : p ∈ schema.parts) {i : Nat} :
    schema.names[i]? = some p.member.name ↔ schema.parts[i]? = some p := by
  rw [names, List.getElem?_map, Option.map_eq_some_iff]
  refine ⟨?_, fun place => ⟨p, place, rfl⟩⟩
  rintro ⟨q, place, same⟩
  have found := part?_name tidy (List.mem_of_getElem? place)
  rw [same, part?_name tidy mem] at found
  cases found
  exact place

/-- A value that is not read stops a record. -/
theorem decode_of_holds (tidy : schema.Tidy) {d v : Doc} (mem : p ∈ schema.parts)
    (holds : d.Holds schema.names p.member.name v) (wrong : p.decode v = none) :
    schema.decode d = none := by
  cases holds with
  | @member ms m _ listed spells =>
    have stops (draft : σ) : schema.add draft m.1 m.2 = none := by
      rw [add, spells, Option.bind_some, addNamed, part?_name tidy mem]
      simp only [wrong, Option.map_none, ite_self]
    rw [decode, gather_of_mem listed stops, Option.bind_none]
  | element place listed =>
    rw [decode, fill_of_getElem ((getElem?_parts tidy mem).1 place) listed wrong, Option.bind_none]

/-- Without a member that has to be there, nothing is read. -/
theorem decode_of_lacks (tidy : schema.Tidy) {d : Doc} (mem : p ∈ schema.parts)
    (required : p.member.required = true) (lacks : d.Lacks schema.names p.member.name) :
    schema.decode d = none := by
  cases d with
  | array ds =>
    obtain ⟨i, place⟩ := List.mem_iff_getElem?.1 mem
    have short : ds[i]? = none := by
      refine Option.eq_none_iff_forall_ne_some.2 fun v listed => ?_
      exact lacks v (.element ((getElem?_parts tidy mem).2 place) listed)
    rw [decode, fill_of_length place required short, Option.bind_none]
  | object ms =>
    rw [decode]
    cases gathered : schema.gather schema.record.empty ms with
    | none => rfl
    | some last =>
      have absent : p.member.present last = false := by
        rw [present_gather tidy mem gathered, tidy.empty_absent p mem, Bool.false_or,
          List.any_eq_false]
        intro m listed spells
        exact lacks m.2 (.member listed (by simpa using spells))
      have missing : ∃ m, schema.record.members.find? (fun m => m.required && !m.present last) =
          some m := by
        rw [← Option.isSome_iff_exists, List.find?_isSome]
        refine ⟨p.member, ?_, by simp [required, absent]⟩
        rw [schema.members_eq]
        exact List.mem_map.2 ⟨p, mem, rfl⟩
      obtain ⟨m, missing⟩ := missing
      rw [Option.bind_some, complete?, missing]
  | _ => rfl

end Schema

end Tint.Json
