import PhiCalculus.Proofs.AppliedMethods

/-!
# No coercions

Where a value of a type is asked for, no other value will do.  A typed access to an attribute gives
what the values of that type are made of, and only of them (`TypedAccess`).  A method that needs an
argument of a type refuses any other one (`Method.argument_form`), and equality, which takes
everything, tells values of different types apart.

A value answers the names of its methods, `Δ` and `ξ` with itself, and if it is an array the indices
of its elements.  To any other name it answers that there is no such attribute
(`Link.finds_nothing`).
-/

set_option autoImplicit false

namespace PhiCalculus

open PhiCalculus.Action

variable {α β : Type} {c : Computations} {frame : Frame} {s t u w : State} {q r x : Ref}
  {attr name : String} {tag : TypeTag} {v : Value} {i : MethodCall}
  {bound : String → Option Ref} {path : List Ref} {b : Link}

/-! ## Typed access -/

/-- What a value of the type is made of. -/
def TypeTag.Payload : TypeTag → Type
  | int => Int64
  | float => Float
  | bool => Bool
  | char => Char
  | string => String
  | bytes => List UInt8
  | regex => Pattern
  | array => List Ref

/-- The value of the type that is made of that. -/
def Value.ofPayload : (tag : TypeTag) → tag.Payload → Value
  | .int, n => .int n
  | .float, x => .float x
  | .bool, b => .bool b
  | .char, c => .char c
  | .string, s => .string s
  | .bytes, bs => .bytes bs
  | .regex, p => .regex p
  | .array, items => .array items

/-- What the value is made of, if it is of the type. -/
def Value.payload? : (tag : TypeTag) → Value → Option tag.Payload
  | .int, .int n => some n
  | .float, .float x => some x
  | .bool, .bool b => some b
  | .char, .char c => some c
  | .string, .string s => some s
  | .bytes, .bytes bs => some bs
  | .regex, .regex p => some p
  | .array, .array items => some items
  | _, _ => none

/-- The typed access to an attribute. -/
def fetchPayload (ask : Answerer) (r : Ref) (attr : String) : (tag : TypeTag) → Action tag.Payload
  | .int => fetchInt ask r attr
  | .float => fetchFloat ask r attr
  | .bool => fetchBool ask r attr
  | .char => fetchChar ask r attr
  | .string => fetchString ask r attr
  | .bytes => fetchBytes ask r attr
  | .regex => fetchPattern ask r attr
  | .array => fetchArray ask r attr

namespace Value

theorem payload?_ofPayload (a : tag.Payload) : payload? tag (ofPayload tag a) = some a := by
  cases tag <;> rfl

theorem tag_ofPayload (a : tag.Payload) : (ofPayload tag a).tag = tag := by
  cases tag <;> rfl

theorem exists_payload (v : Value) : ∃ a, v = ofPayload v.tag a := by
  cases v with
  | int n => exact ⟨n, rfl⟩
  | float x => exact ⟨x, rfl⟩
  | bool b => exact ⟨b, rfl⟩
  | char c => exact ⟨c, rfl⟩
  | string s => exact ⟨s, rfl⟩
  | bytes bs => exact ⟨bs, rfl⟩
  | regex p => exact ⟨p, rfl⟩
  | array items => exact ⟨items, rfl⟩

end Value

theorem fetchPayload_eq (ask : Answerer) (r : Ref) (attr : String) (tag : TypeTag) :
    fetchPayload ask r attr tag = fetchAs ask r attr tag (Value.payload? tag) := by
  cases tag <;> exact congrArg (fetchAs ask r attr _) (funext fun v => by cases v <;> rfl)

/-- A value stands the test just if it is of the type. -/
theorem demand_payload_ok {a : tag.Payload} :
    demand attr tag (Value.payload? tag) v = .ok a ↔ v = Value.ofPayload tag a := by
  constructor
  · intro stands
    by_cases tagged : v.tag = tag
    · subst tagged
      obtain ⟨a', is⟩ := v.exists_payload
      have own : Value.payload? v.tag v = some a' :=
        (congrArg (Value.payload? v.tag) is).trans (Value.payload?_ofPayload a')
      cases (demand_of_part rfl own).symm.trans stands
      exact is
    · cases (demand_of_other _ tagged).symm.trans stands
  · rintro rfl
    exact demand_of_part (Value.tag_ofPayload a) (Value.payload?_ofPayload a)

theorem demand_payload_error {e : Failure} :
    demand attr tag (Value.payload? tag) v = .error e ↔
      v.tag ≠ tag ∧ e = .typeMismatch attr tag v.tag := by
  constructor
  · intro refused
    by_cases tagged : v.tag = tag
    · subst tagged
      obtain ⟨a, is⟩ := v.exists_payload
      cases (demand_payload_ok.mpr is).symm.trans refused
    · cases (demand_of_other _ tagged).symm.trans refused
      exact ⟨tagged, rfl⟩
  · rintro ⟨other, rfl⟩
    exact demand_of_other _ other

/-- How the typed access ends: with what a value of just that type is made of, with a complaint that
names the attribute and both types, or as the attribute fails itself. -/
structure TypedAccess (c : Computations) (r : Ref) (attr : String) (tag : TypeTag) (frame : Frame)
    (s : State) : Prop where
  gives : ∀ a t, c.Runs (fun ask => fetchPayload ask r attr tag) frame s (.ok a) t ↔
    c.Runs (fun ask => fetch ask r attr) frame s (.ok (Value.ofPayload tag a)) t
  fails : ∀ e t, c.Runs (fun ask => fetchPayload ask r attr tag) frame s (.error e) t ↔
    c.Runs (fun ask => fetch ask r attr) frame s (.error e) t ∨
      ∃ v, c.Runs (fun ask => fetch ask r attr) frame s (.ok v) t ∧ v.tag ≠ tag ∧
        e = .typeMismatch attr tag v.tag

theorem typedAccess (c : Computations) (r : Ref) (attr : String) (tag : TypeTag) (frame : Frame)
    (s : State) : TypedAccess c r attr tag frame s where
  gives a t := by
    simp only [fetchPayload_eq]
    rw [runs_fetchAs]
    constructor
    · rintro ⟨e | v, fetched, same⟩
      · cases same
      · rw [← demand_payload_ok.mp same.symm]
        exact fetched
    · exact fun fetched => ⟨_, fetched, (demand_payload_ok.mpr rfl).symm⟩
  fails e t := by
    simp only [fetchPayload_eq]
    rw [runs_fetchAs]
    constructor
    · rintro ⟨e' | v, fetched, same⟩
      · cases same
        exact .inl fetched
      · exact .inr ⟨v, fetched, demand_payload_error.mp same.symm⟩
    · rintro (fetched | ⟨v, fetched, refused⟩)
      · exact ⟨_, fetched, rfl⟩
      · exact ⟨_, fetched, (demand_payload_error.mpr refused).symm⟩

/-! ## Arguments of methods -/

/-- The argument that a method needs, and the type that it needs. -/
def Method.needs? : Method → Option (String × TypeTag)
  | .int .neg => none
  | .int _ => some ("x", .int)
  | .float .neg => none
  | .float _ => some ("x", .float)
  | .conjunction => some ("x", .bool)
  | .disjunction => some ("x", .bool)
  | .concat => some ("x", .string)
  | .element => some ("i", .int)
  | .find => some ("txt", .string)
  | _ => none

/-- The method dataizes its receiver and its argument, both of types of their own, and goes on with
what these are made of. -/
structure Method.TakesArgument (m : Method) (own : TypeTag) (attr : String) (tag : TypeTag)
    (rest : own.Payload → tag.Payload → Action Ref) : Prop where
  param : attr ∈ m.params
  receiver : m.receiver = some own
  made : ∀ a z, Stepwise State.Creates True fun _ => rest a z
  result : ∀ ask o, methodResult ask m o = fetchPayload ask o sigma own >>= fun a =>
    hold (Value.ofPayload own a).items (fetchPayload ask o attr tag) >>= fun z => rest a z

/-- **A method that needs an argument of a type takes it like this.** -/
theorem Method.argument_form {m : Method} (needs : m.needs? = some (attr, tag)) :
    ∃ (own : TypeTag) (rest : own.Payload → tag.Payload → Action Ref),
      m.TakesArgument own attr tag rest := by
  have makes {γ δ : Type} (value : γ → δ → Value) :
      ∀ a z, Stepwise State.Creates True fun _ => data (value a z) :=
    fun _ _ => Stepwise.act (.data _)
  cases m with
  | int op =>
      have operates (op : Arithmetic) (a z : Int64) : Stepwise State.Creates True fun _ =>
          conclude (integerResult op a z) >>= data :=
        .bind (Stepwise.conclude _) fun v => Stepwise.act (.data v)
      cases op with
      | neg => cases needs
      | _ =>
          cases needs
          exact ⟨.int, fun a z => conclude (integerResult _ a z) >>= data, List.mem_cons_self, rfl,
            operates _, fun _ _ => rfl⟩
  | float op =>
      cases op with
      | neg => cases needs
      | _ =>
          cases needs
          exact ⟨.float, fun a z => data (realResult _ a z), List.mem_cons_self, rfl, makes _,
            fun _ _ => rfl⟩
  | conjunction =>
      cases needs
      exact ⟨.bool, fun a z => data (.bool (and a z)), List.mem_cons_self, rfl, makes _,
        fun _ _ => rfl⟩
  | disjunction =>
      cases needs
      exact ⟨.bool, fun a z => data (.bool (or a z)), List.mem_cons_self, rfl, makes _,
        fun _ _ => rfl⟩
  | concat =>
      cases needs
      exact ⟨.string, fun (a z : String) => data (.string (a ++ z)), List.mem_cons_self, rfl,
        makes _, fun _ _ => rfl⟩
  | element =>
      cases needs
      exact ⟨.array, fun items index => conclude (elementAt items index), List.mem_cons_self, rfl,
        fun _ _ => Stepwise.conclude _, fun _ _ => rfl⟩
  | find =>
      cases needs
      exact ⟨.regex, fun p text => stringObjects (Pattern.findIn p text) >>= fun found =>
        data (.array found), List.mem_cons_self, rfl,
        fun _ _ => .bind (straight_stringObjects _).stepwise fun _ => Stepwise.act (.data _),
        fun _ _ => rfl⟩
  | _ => cases needs

namespace Calls

/-- The argument has been given, and its dataization has ended in that value. -/
structure Argues (c : Computations) (b : Link) (i : MethodCall) (bound : String → Option Ref)
    (attr : String) (w : State) (v : Value) (u : State) : Prop where
  receives : b.Receives i w
  gives : ∃ x, bound attr = some x ∧ c.Ends (.dataize x) (b.asking i) w (.ok v) u

/-- An argument of another type is refused. -/
theorem forces_mismatch (calls : Calls c q frame s i path bound b) (computes : c.ComputesMethods)
    (needs : i.method.needs? = some (attr, tag)) (argues : Argues c b i bound attr w v u)
    (other : v.tag ≠ tag) :
    (Link.taken q frame s).Forces c (.error (.typeMismatch attr tag v.tag)) u := by
  obtain ⟨own, rest, form⟩ := Method.argument_form needs
  obtain ⟨x, given, argument⟩ := argues.gives
  have tagged := i.has form.receiver
  subst tagged
  obtain ⟨a, is⟩ := i.value.exists_payload
  have has : Value.payload? i.value.tag i.value = some a :=
    (congrArg (Value.payload? i.value.tag) is).trans (Value.payload?_ofPayload a)
  have fails : c.Runs (fun ask => methodResult ask i.method b.object) b.working b.state
      (.error (.typeMismatch attr tag v.tag)) u := by
    simp only [form.result, fetchPayload_eq]
    refine (Link.runs_binary calls.embodies rfl has argues.receives (congrArg Value.items is.symm)
      form.param given argument form.made).mpr ?_
    show c.Runs (fun _ => conclude (demand attr tag (Value.payload? tag) v) >>= rest a) _ _ _ _
    rw [demand_of_other _ other]
    exact runs_nothing.mpr rfl
  exact calls.comes.forces_failure calls.embodies computes fails

/-- **Equality accepts every value.** -/
theorem forces_equality (calls : Calls c q frame s i path bound b) (computes : c.ComputesMethods)
    (equality : i.method = .eq) (argues : Argues c b i bound "x" w v u) :
    (Link.taken q frame s).Forces c (.ok (.bool (Value.same u.heap.vertex i.value v)))
      (u.withMade (.ok (.bool (Value.same u.heap.vertex i.value v)))) := by
  obtain ⟨x, given, argument⟩ := argues.gives
  refine calls.comes.forces_made calls.embodies computes nofun fun result t => ?_
  have param : "x" ∈ i.method.params := by rw [equality]; exact List.mem_cons_self
  let compare (a b : Value) : Action Ref :=
    asks (fun s => Value.same s.heap.vertex a b) >>= fun same => data (.bool same)
  have made (a b : Value) : Stepwise State.Creates True fun _ => compare a b :=
    .bind (Stepwise.act (.asks _)) fun _ => Stepwise.act (.data _)
  have form (ask : Answerer) : methodResult ask .eq b.object = fetch ask b.object sigma >>= fun a =>
      hold a.items (fetch ask b.object "x") >>= compare a := rfl
  have second (a : Value) : Stepwise State.Creates True fun ask =>
      hold a.items (fetch ask b.object "x") := .hold _ (straight_fetch _ _).stepwise
  have receiver := (Link.receives_iff calls.embodies (c := c)).mpr ⟨rfl, argues.receives⟩
  have fetched : c.Runs (fun ask => hold i.value.items (fetch ask b.object "x")) b.working w
      (.ok v) u :=
    (runs_hold _).mpr ((argues.receives.argument_iff calls.embodies param given).mpr argument)
  simp only [equality, form]
  have first : Stepwise State.Creates True fun ask => fetch ask b.object sigma :=
    (straight_fetch _ _).stepwise
  refine (runs_bind_of_ok first (fun a => .bind (second a) (made a)) receiver).trans ?_
  refine (runs_bind_of_ok (second _) (made _) fetched).trans (runs_nothing.trans ?_)
  exact ends_bind_of_answer (asks_apply _ _ u)

end Calls

/-- Values of different types are not the same. -/
theorem Value.same_of_other {v v' : Value} (vertex : Ref → Vertex) (other : v.tag ≠ v'.tag) :
    Value.same vertex v v' = false := by
  cases v <;> cases v' <;> first | rfl | exact absurd rfl other

/-! ## Names that a value does not answer -/

/-- The value answers the name: with itself, with an element, or with a method. -/
inductive Value.Answers (v : Value) (name : String) : Prop where
  | itself : name = delta ∨ name = xi → Answers v name
  | element {items : List Ref} {n : Nat} : v = .array items → indexOf? name = some n →
      n < items.length → Answers v name
  | method {m : Method} : Method.ofName? v.tag name = some m → Answers v name

/-- **To any other name there is no attribute, and nothing is changed.** -/
theorem Link.finds_nothing {a : Link} (value : a.IsValue v) (unanswered : ¬ v.Answers name) :
    a.Finds c name (.error (.noSuchAttribute name a.subject)) a.state := by
  have noData : name ≠ delta := fun same => unanswered (.itself (.inl same))
  have unnamed : Method.ofName? v.tag name = none := by
    by_contra named
    obtain ⟨m, named⟩ := Option.ne_none_iff_exists'.mp named
    exact unanswered (.method named)
  have concrete : (a.state.heap.cell a.object).isView = false := value.isView
  by_cases special : name ∈ reserved
  · simp only [reserved, List.mem_cons, List.not_mem_nil, or_false] at special
    rcases special with rfl | rfl | rfl
    · exact (AnswersReserved.ownerless value).finds concrete
    · have homeless : (a.state.heap.cell a.object).home? = none := by
        rw [Cell.home?, show (a.state.heap.cell a.object).kind = .data v from value]
      exact (AnswersReserved.homeless homeless).finds concrete
    · exact absurd (.itself (.inr rfl)) unanswered
  by_cases element : ∃ items n, v = .array items ∧ indexOf? name = some n
  · obtain ⟨items, n, array, index⟩ := element
    have beyond : items[n]? = none :=
      List.getElem?_eq_none_iff.mpr (not_lt.mp fun inside => unanswered (.element array index inside))
    exact (AnswersAsValue.beyond noData array index beyond).finds value special
  · have unindexed (items : List Ref) (array : v = .array items) : indexOf? name = none := by
      by_contra index
      obtain ⟨n, index⟩ := Option.ne_none_iff_exists'.mp index
      exact element ⟨items, n, array, index⟩
    exact (AnswersAsValue.unknown noData unindexed unnamed).finds value special

/-- **No coercion anywhere.**  Let an object apply a method of a value.  If the method needs an
argument of a type and the argument is found to be of another one, then this is what the
dataization fails with; equality takes any argument, and is false for another type.  A typed access
gives what it is after just if the attribute has a value of the type.  And a value that does not
answer a name says so, and nothing is made. -/
theorem no_coercions (computes : c.ComputesMethods) :
    (∀ (i : MethodCall) path q bound s, s.Applies i path q bound → ∀ frame,
      ∃ b, Calls c q frame s i path bound b ∧
        (∀ attr tag, i.method.needs? = some (attr, tag) → ∀ w v u,
          Calls.Argues c b i bound attr w v u → v.tag ≠ tag → ∀ result t,
            c.Ends (.dataize q) frame s result t ↔
              Concludes q frame u (.error (.typeMismatch attr tag v.tag)) result t) ∧
        (i.method = .eq → ∀ w v u, Calls.Argues c b i bound "x" w v u →
          ∃ same, (v.tag ≠ i.value.tag → same = false) ∧ ∀ result t,
            c.Ends (.dataize q) frame s result t ↔
              Concludes q frame (u.withMade (.ok (.bool same))) (.ok (.bool same)) result t)) ∧
    (∀ r attr tag frame s, TypedAccess c r attr tag frame s) ∧
    ∀ r v name frame s, (s.heap.cell r).kind = .data v → ¬ v.Answers name → ∀ result t,
      c.Ends (.find r name) frame s result t ↔
        result = .error (.noSuchAttribute name (s.heap.subject r)) ∧ t = s := by
  refine ⟨fun i path q bound s applies frame => ?_, typedAccess c,
    fun r v name frame s value unanswered result t => ?_⟩
  · obtain ⟨b, calls⟩ := applies.calls c frame
    refine ⟨b, calls, fun attr tag needs w v u argues other result t => ?_,
      fun equality w v u argues => ?_⟩
    · exact dataize_of_forces (calls.forces_mismatch computes needs argues other)
    · refine ⟨Value.same u.heap.vertex i.value v, fun other => ?_, fun result t => ?_⟩
      · exact Value.same_of_other _ (Ne.symm other)
      · exact dataize_of_forces (calls.forces_equality computes equality argues)
  · have finds : Link.Finds c ⟨r, frame, s⟩ name _ s := Link.finds_nothing value unanswered
    constructor
    · exact fun ends => finds.unique (Link.stepwise_ask _) ends
    · rintro ⟨rfl, rfl⟩
      exact finds

/-- The number 5 and a text, and views that add the text to the number and compare the two. -/
def State.withText : State :=
  let five := State.initial.allocData (.int 5)
  let text := five.2.allocData (.string "12")
  let plus := text.2.alloc (.view (.method five.1 "plus") none)
  let sum := plus.2.alloc (.view (.bind plus.1 (.position 0) text.1) none)
  let eq := sum.2.alloc (.view (.method five.1 "eq") none)
  (eq.2.alloc (.view (.bind eq.1 (.name "x") text.1) none)).2

/-- The text is not taken for a number, is not equal to it, and is no character either; and a number
has no length. -/
theorem text_is_no_number :
    let c := Computations.ofExpressions
    (∀ result t, c.Ends (.dataize ⟨4⟩) {} State.withText result t →
      ∃ e, result = .error e ∧ e.cause = .typeMismatch "x" .int .string) ∧
    (∃ t, c.Ends (.dataize ⟨6⟩) {} State.withText (.ok (.bool false)) t) ∧
    (∃ t, c.Runs (fun ask => fetchPayload ask ⟨2⟩ delta .char) {} State.withText
      (.error (.typeMismatch delta .char .string)) t) ∧
    c.Ends (.find ⟨1⟩ "length") {} State.withText
      (.error (.noSuchAttribute "length" (State.withText.heap.subject ⟨1⟩))) State.withText := by
  intro c
  obtain ⟨methods, typed, names⟩ := no_coercions computesMethods_ofExpressions
  -- in both cases the argument has the same cell when it is reached as it has now
  have argued {i : MethodCall} {path : List Ref} {q : Ref} {b : Link}
      (calls : Calls c q {} State.withText i path (Function.update (fun _ => none) "x" (some ⟨2⟩)) b)
      (out : ⟨2⟩ ∉ path) : ∃ w, Calls.Argues c b i (Function.update (fun _ => none) "x" (some ⟨2⟩))
        "x" w (.string "12") w := by
    have receives : b.Receives i b.state := .nothing calls.tracing
    have text : (b.state.heap.cell ⟨2⟩).kind = .data (.string "12") := by
      rw [calls.same.2 ⟨2⟩ (by decide) out]
      rfl
    have argument : c.Ends (.dataize ⟨2⟩) (b.asking i) b.state (.ok (.string "12")) b.state :=
      (dataize_data text).mpr ⟨rfl, .nothing calls.tracing⟩
    exact ⟨b.state, receives, ⟨2⟩, rfl, argument⟩
  refine ⟨fun result t ends => ?_, ?_, ?_, ?_⟩
  · let i : MethodCall := ⟨⟨1⟩, .int 5, "plus", .int .plus, rfl⟩
    have applies : State.withText.Applies i [⟨4⟩, ⟨3⟩] ⟨4⟩ _ :=
      .bind (.method rfl rfl) rfl (by decide) rfl List.mem_cons_self rfl
    obtain ⟨b, calls, mismatch, _⟩ := methods i _ _ _ _ applies {}
    obtain ⟨w, argues⟩ := argued calls (by decide)
    have concludes := (mismatch "x" .int rfl _ _ _ argues nofun result t).mp ends
    cases concludes with
    | failure places => cases places <;> exact ⟨_, rfl, rfl⟩
  · let i : MethodCall := ⟨⟨1⟩, .int 5, "eq", .eq, rfl⟩
    have applies : State.withText.Applies i [⟨6⟩, ⟨5⟩] ⟨6⟩ _ :=
      .bind (.method rfl rfl) rfl (by decide) rfl List.mem_cons_self rfl
    obtain ⟨b, calls, _, equality⟩ := methods i _ _ _ _ applies {}
    obtain ⟨w, argues⟩ := argued calls (by decide)
    obtain ⟨same, differ, ends⟩ := equality rfl _ _ _ argues
    rw [differ nofun] at ends
    exact ⟨_, (ends _ _).mpr (.value (.nothing rfl))⟩
  · have fetched : c.Runs (fun ask => fetch ask ⟨2⟩ delta) {} State.withText
        (.ok (.string "12")) State.withText := ⟨2, rfl⟩
    exact ⟨_, ((typed ⟨2⟩ delta .char {} State.withText).fails _ _).mpr
      (.inr ⟨_, fetched, nofun, rfl⟩)⟩
  · refine (names ⟨1⟩ (.int 5) "length" {} State.withText rfl ?_ _ _).mpr ⟨rfl, rfl⟩
    intro answers
    cases answers with
    | itself same => exact absurd same (by decide)
    | element array _ _ => cases array
    | method named => cases named

/-- The expectation that a value answers to the names of its methods and to no other names. -/
def Computations.AnswersMethodsOnly (c : Computations) : Prop :=
  ∀ r v name frame s, (s.heap.cell r).kind = .data v → Method.ofName? v.tag name = none →
    c.Ends (.find r name) frame s (.error (.noSuchAttribute name (s.heap.subject r))) s

/-- A number answers `Δ` with itself. -/
theorem number_answers_data : ¬ Computations.ofExpressions.AnswersMethodsOnly := by
  intro only
  have five : (State.withText.heap.cell ⟨1⟩).kind = .data (.int 5) := rfl
  have finds : Link.Finds .ofExpressions ⟨⟨1⟩, {}, State.withText⟩ delta
      (.ok (.fixed ⟨1⟩ delta ⟨1⟩)) State.withText := Link.IsValue.finds five
  cases (finds.unique (Link.stepwise_ask _) (only ⟨1⟩ _ delta {} _ five rfl)).1

end PhiCalculus
