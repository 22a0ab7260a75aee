import PhiCalculus.Proofs.Coercions
import PhiCalculus.Proofs.Numerals
import PhiCalculus.Proofs.Selection

/-!
# Access to arrays

An element of an array is reached by the attribute that its index names, by the method `at`, or by
unpacking the array into slots.  The first one reads the index from a name, the second one gets it
as an integer, and the third one counts.  All three give the same object, and at an index where there
is none the first two fail, each in its own way (`ways_into_arrays_agree`).

A name spells an index if it is a decimal numeral for it, with or without a plus sign
(`SpellsIndex`).  Arrays have no methods of such names, so a name that spells an index leads to an
element or nowhere, and any other name leads to the array itself, to one of its methods, or nowhere
(`State.IsArray.finds_spelled`, `State.IsArray.finds_other`).
-/

set_option autoImplicit false

namespace PhiCalculus

open PhiCalculus.Action

variable {frame : Frame} {s t u w : State} {o q r j self x : Ref} {items : List Ref}
  {name : String} {i : MethodCall} {index : Int64} {k : Nat} {path : List Ref}
  {bound : String → Option Ref} {b : Link}

/-! ## Reading attributes -/

/-- Reading the attribute of the object, as an expression does it, ends in that. -/
abbrev Gets (self r : Ref) (name : String) (frame : Frame) (s : State) (result : Except Failure Ref)
    (t : State) : Prop :=
  Computations.ofExpressions.Ends (.eval (.get (.object r) name) self) frame s result t

theorem gets_iff {result : Except Failure Ref} : Gets self r name frame s result t ↔
    Computations.ofExpressions.Runs
      (fun ask => ask (.find r name) >>= fun p => hold [r] (ask (.read p)))
      (frame.holding [self]) s result t := by
  have onward (r : Ref) : Stepwise State.Changes True fun ask =>
      ask (.find r name) >>= fun p => hold [r] (ask (.read p)) :=
    .bind (Link.stepwise_ask _) fun p => .hold [r] (Link.stepwise_ask _)
  have first : Computations.ofExpressions.Ends (.eval (.object r) self) (frame.holding [self]) s
      (.ok r) s := runs_request.mpr ⟨0, rfl⟩
  refine runs_request.trans ((runs_hold [self]).trans ?_)
  exact runs_bind_of_ok (Link.stepwise_ask _) onward first

/-- There is no attribute to read. -/
theorem gets_of_missing {f : Failure}
    (missing : Link.Finds .ofExpressions ⟨r, frame.holding [self], s⟩ name (.error f) u)
    {result : Except Failure Ref} :
    Gets self r name frame s result t ↔ result = .error f ∧ t = u := by
  refine gets_iff.trans (runs_bind_of_error (Link.stepwise_ask _) (fun p => ?_) missing)
  exact .hold [r] (Link.stepwise_ask _)

/-- Reading goes on at the place that is found. -/
theorem gets_of_found {p : Place}
    (found : Link.Finds .ofExpressions ⟨r, frame.holding [self], s⟩ name (.ok p) u)
    {result : Except Failure Ref} : Gets self r name frame s result t ↔
      Computations.ofExpressions.Ends (.read p) ((frame.holding [self]).holding [r]) u result t := by
  refine gets_iff.trans ((runs_bind_of_ok (Link.stepwise_ask _) (fun p => ?_) found).trans ?_)
  · exact .hold [r] (Link.stepwise_ask _)
  · exact runs_hold [r]

/-- What is in a read-only place is read. -/
theorem gets_of_fixed {n : String}
    (found : Link.Finds .ofExpressions ⟨r, frame.holding [self], s⟩ name (.ok (.fixed o n x)) u)
    {result : Except Failure Ref} :
    Gets self r name frame s result t ↔ result = .ok x ∧ t = u := by
  rw [gets_of_found found]
  constructor
  · exact fun ends => Link.ends_fixed.unique (Link.stepwise_ask _) ends
  · rintro ⟨rfl, rfl⟩
    exact Link.ends_fixed

/-! ## Names of indices -/

/-- The name spells the index: it is a decimal numeral for it, after an optional plus sign, and the
index has 64 bits. -/
def SpellsIndex (name : String) (k : Nat) : Prop :=
  k < 2 ^ 64 ∧ ∃ digits, (name.toList = digits ∨ name.toList = '+' :: digits) ∧
    Number.Numeral 10 digits k

theorem indexOf?_eq_some : indexOf? name = some k ↔ SpellsIndex name k := by
  have limit : k ≤ indexLimit ↔ k < 2 ^ 64 := by
    rw [indexLimit]
    omega
  rw [SpellsIndex, ← limit, ← Number.readUnsigned_eq_ok (by decide), indexOf?]
  cases Number.readUnsigned 10 indexLimit name.toList with
  | ok n => simp
  | error fault => simp

theorem indexOf?_eq_none : indexOf? name = none ↔ ∀ k, ¬ SpellsIndex name k := by
  simp only [← indexOf?_eq_some]
  exact Option.eq_none_iff_forall_ne_some

/-- Neither `Δ` nor a reserved name spells an index. -/
theorem SpellsIndex.plain (spells : SpellsIndex name k) : name ≠ delta ∧ name ∉ reserved := by
  have none : ∀ name ∈ delta :: reserved, indexOf? name = none := by decide
  have plain : name ∉ delta :: reserved := fun special =>
    indexOf?_eq_none.mp (none name special) k spells
  exact not_or.mp (mt List.mem_cons.mpr plain)

/-- An integer in decimal spells an index if it is one. -/
theorem spellsIndex_toString {n : Int} : SpellsIndex (toString n) k ↔ n = k ∧ k < 2 ^ 64 := by
  have numeral := Number.Numeral.toDigits n.natAbs
  have signless : '+' ∉ (toString n).toList := by
    rw [toList_toString_int]
    split
    · exact numeral.plain.1
    · simpa using numeral.plain.1
  constructor
  · rintro ⟨small, digits, rfl | signed, spelled⟩
    · have positive : 0 ≤ n := by
        by_contra negative
        rw [toList_toString_int, if_neg negative] at spelled
        exact spelled.plain.2.1 List.mem_cons_self
      rw [toList_toString_int, if_pos positive] at spelled
      have same := numeral.unique spelled
      omega
    · exact absurd List.mem_cons_self (signed ▸ signless)
  · rintro ⟨rfl, small⟩
    refine ⟨small, _, .inl rfl, ?_⟩
    rw [toList_toString_int, if_pos (Int.natCast_nonneg k)]
    exact numeral

/-- An integer in decimal starts with a minus sign or a digit. -/
theorem toString_ne {word : String}
    (letter : (word.toList.head?.all fun c => c != '-' && !c.isDigit) = true) (n : Int) :
    toString n ≠ word := by
  have starts : ∃ c rest, (toString n).toList = c :: rest ∧ (c = '-' ∨ c.isDigit = true) := by
    rw [toList_toString_int]
    split
    · obtain ⟨c, rest, digits, digit⟩ := toDigits_cons n.natAbs
      exact ⟨c, rest, digits, .inr digit⟩
    · exact ⟨'-', _, rfl, .inl rfl⟩
  obtain ⟨c, rest, spelled, start⟩ := starts
  rintro rfl
  rw [spelled] at letter
  rcases start with sign | digit
  · simp [sign] at letter
  · simp [digit] at letter

/-- No method of arrays is called like an integer. -/
theorem unnamed_toString (n : Int) : Method.ofName? .array (toString n) = none := by
  have eq : toString n ≠ "eq" := toString_ne (by decide) n
  have length : toString n ≠ "length" := toString_ne (by decide) n
  have at' : toString n ≠ "at" := toString_ne (by decide) n
  rw [Method.ofName?, if_neg (by simpa using eq)]
  unfold Method.ofType?
  split <;> simp_all

/-! ## Names that an array answers -/

/-- The object is an array with those elements. -/
def State.IsArray (s : State) (r : Ref) (items : List Ref) : Prop :=
  (s.heap.cell r).kind = .data (.array items)

namespace State.IsArray

variable {c : Computations} {p : Place} (array : s.IsArray r items)
include array

/-- The name of an index leads to the element. -/
theorem finds_element (spells : SpellsIndex name k) (element : items[k]? = some x) :
    Link.Finds c ⟨r, frame, s⟩ name (.ok (.fixed r (toString k) x)) s :=
  (Link.AnswersAsValue.element spells.plain.1 rfl (indexOf?_eq_some.mpr spells) element).finds
    array spells.plain.2

/-- The name of any other index leads nowhere. -/
theorem finds_beyond (spells : SpellsIndex name k) (beyond : items.length ≤ k) :
    Link.Finds c ⟨r, frame, s⟩ name (.error (.noSuchAttribute name (s.heap.subject r))) s :=
  (Link.AnswersAsValue.beyond spells.plain.1 rfl (indexOf?_eq_some.mpr spells)
    (List.getElem?_eq_none beyond)).finds array spells.plain.2

/-- An integer that is no index of an element leads nowhere. -/
theorem finds_no_integer {n : Int} (out : n < 0 ∨ items.length ≤ n) :
    Link.Finds c ⟨r, frame, s⟩ (toString n)
      (.error (.noSuchAttribute (toString n) (s.heap.subject r))) s := by
  refine Link.finds_nothing (a := ⟨r, frame, s⟩) array fun answers => ?_
  cases answers with
  | itself same =>
      rcases same with same | same
      · exact toString_ne (by decide) n same
      · exact toString_ne (by decide) n same
  | element is index inside =>
      cases is
      obtain ⟨rfl, _⟩ := spellsIndex_toString.mp (indexOf?_eq_some.mp index)
      omega
  | method named => cases named.symm.trans (unnamed_toString n)

/-- **No other name leads to an element:** it leads to the array itself or to a new method. -/
theorem finds_other (other : ∀ k, ¬ SpellsIndex name k)
    (finds : Link.Finds c ⟨r, frame, s⟩ name (.ok p) t) :
    (name = delta ∨ name = xi) ∧ p = .fixed r name r ∧ t = s ∨
      ∃ m, Method.ofName? .array name = some m ∧ p = .fixed r name ⟨s.heap.size⟩ ∧
        (t.heap.cell ⟨s.heap.size⟩).kind = .table (methodTable r .array name m) := by
  let a : Link := ⟨r, frame, s⟩
  have value : a.IsValue (.array items) := array
  have concrete : (a.state.heap.cell a.object).isView = false := value.isView
  by_cases special : name ∈ reserved
  · obtain ⟨result, answers⟩ := Link.exists_answersReserved concrete special
    obtain ⟨same, rfl⟩ := (answers.finds (c := c) concrete).unique (Link.stepwise_ask _) finds
    cases answers with
    | itself =>
        cases same
        exact .inl ⟨.inr rfl, rfl, rfl⟩
    | owner kind => cases kind.symm.trans value
    | home there =>
        have homed := State.home?_eq there
        rw [Cell.home?, show (a.state.heap.cell a.object).kind = _ from value] at homed
        cases homed
    | gone _ _ => cases same
    | homeless _ => cases same
    | ownerless _ => cases same
  · obtain ⟨result, u, answers⟩ := a.exists_answersAsValue (.array items) name
    obtain ⟨same, rfl⟩ := (answers.finds (c := c) value special).unique (Link.stepwise_ask _) finds
    cases answers with
    | itself isDelta =>
        cases same
        subst isDelta
        exact .inl ⟨.inl rfl, rfl, rfl⟩
    | element _ _ index _ => exact absurd (indexOf?_eq_some.mp index) (other _)
    | beyond _ _ index _ => exact absurd (indexOf?_eq_some.mp index) (other _)
    | method _ _ named =>
        cases same
        exact .inr ⟨_, named, rfl, s.kind_alloc _⟩
    | unknown _ _ _ => cases same

end State.IsArray

/-! ## Reading what an object of a method decorates -/

/-- The views that have kept nothing are views. -/
theorem State.Applies.isView (applies : s.Applies i path q bound) :
    ∀ w ∈ path, (s.heap.cell w).isView = true := by
  induction applies with
  | object _ => nofun
  | kept _ _ => nofun
  | method _ unresolved =>
      intro w there
      rw [List.mem_singleton.mp there]
      exact isView_of_view unresolved
  | bind _ unresolved _ _ _ _ ih =>
      intro w there
      rcases List.mem_cons.mp there with rfl | there
      · exact isView_of_view unresolved
      · exact ih w there

/-- **Reading what an object of a method decorates runs the method.**  Views that apply the method
lead to such an object, and nothing else is touched on the way. -/
theorem State.Applies.gets (applies : s.Applies i path q bound) (self : Ref) (frame : Frame) :
    ∃ b : Link, b.state.Embodies b.object i bound ∧ s.SameBut path b.state ∧
      b.frame.tracing = frame.tracing ∧ ∀ result t, Gets self q phi frame s result t ↔
        Computations.ofExpressions.Runs (fun ask => methodResult ask i.method b.object) b.working
          b.state result t := by
  let a : Link := ⟨q, frame.holding [self], s⟩
  obtain ⟨o, u, ⟨steps, settled⟩, is, same⟩ := applies.settles .ofExpressions a.inside
  let b : Link := ⟨o, a.inside, u⟩
  have declares (around : Frame) : Link.Declares ⟨o, around, u⟩ phi := by
    rw [Link.Declares, is.body]
    rfl
  have found : a.Finds .ofExpressions phi (.ok (.slot o phi)) u := by
    cases view : (s.heap.cell q).isView with
    | true =>
        have behind : a.Behind .ofExpressions b :=
          ⟨view, rfl, steps, (settle_of_view view).symm.trans settled⟩
        exact (Link.finds_behind behind).mpr (Link.finds_declared (declares _) (by decide))
    | false =>
        cases (settle_of_concrete view).symm.trans settled
        exact Link.finds_declared (declares _) (by decide)
  refine ⟨b, is, same, rfl, fun result t => ?_⟩
  -- the object is in use already when it is read
  have alike : (a.inside.holding [o]).Alike (b.inside.holding [o]) := by
    refine ⟨rfl, rfl, fun x => ?_⟩
    simp [Frame.holding, Link.inside, b]
  rw [gets_of_found found, ← Link.reads_method is computesMethods_ofExpressions]
  refine (Link.reads_native is).trans (Iff.trans ?_ (Link.reads_native is).symm)
  exact Link.ends_alike level_ofExpressions alike

/-! ## The methods of an array -/

/-- An array and its method `length`. -/
def MethodCall.measuring (r : Ref) (items : List Ref) : MethodCall where
  receiver := r
  value := .array items
  name := "length"
  method := .arrayLength
  named := rfl

/-- The element is at the index. -/
def IsAt (items : List Ref) (index : Int64) (x : Ref) : Prop :=
  0 ≤ index.toInt ∧ items[index.toInt.toNat]? = some x

/-- The index is that of no element. -/
def IsOutside (items : List Ref) (index : Int64) : Prop :=
  index.toInt < 0 ∨ items.length ≤ index.toInt

theorem elementAt_of_isAt (element : IsAt items index x) : elementAt items index = .ok x := by
  have positive : ¬ index < 0 := by
    rw [Int64.lt_iff_toInt_lt]
    exact not_lt.mpr element.1
  rw [elementAt, if_neg positive, element.2]

theorem elementAt_of_isOutside (outside : IsOutside items index) :
    elementAt items index = .error (.outOfBounds index items.length) := by
  rw [elementAt]
  split
  · rfl
  · next positive =>
    have positive : 0 ≤ index.toInt := by
      rw [Int64.lt_iff_toInt_lt] at positive
      exact not_lt.mp positive
    have beyond : items.length ≤ index.toInt.toNat := by
      rcases outside with negative | beyond <;> omega
    rw [List.getElem?_eq_none beyond]

/-- Without a trace, nothing is told. -/
theorem State.tells_iff_of_untraced {around : Frame} {v : Value} (untraced : around.tracing = false) :
    s.Tells around x v u ↔ u = s := by
  constructor
  · rintro (_ | traced)
    · rfl
    · cases untraced.symm.trans traced
  · rintro rfl
    exact .nothing untraced

namespace Link

variable {c : Computations} {result : Except Failure Ref}

/-- An access to an array gives the element at the index, once the array and the index have been
dataized. -/
theorem runs_picking (is : b.state.Embodies b.object (.picking r items) bound)
    (given : bound "i" = some j) (number : (b.state.heap.cell j).kind = .data (.int index)) :
    c.Runs (fun ask => methodResult ask .element b.object) b.working b.state result t ↔
      result = elementAt items index ∧ ∃ w, b.Indexes c r items j w (.ok (.int index)) t := by
  have made (items : List Ref) (n : Int64) : Stepwise State.Creates True fun _ =>
      conclude (elementAt items n) := Stepwise.conclude _
  constructor
  · intro runs
    obtain ⟨_, w, fetched⟩ := exists_first runs
    obtain ⟨_, fetched, _⟩ := runs_fetchAs.mp fetched
    obtain ⟨_, receives⟩ := (receives_iff is).mp fetched
    obtain ⟨found, u, ends⟩ := exists_argument (p := items) is rfl rfl receives rfl
      List.mem_cons_self given made runs
    have number : (w.heap.cell j).kind = .data (.int index) := by rw [receives.heap]; exact number
    obtain ⟨rfl, _⟩ := (dataize_data number).mp ends
    obtain ⟨rfl, rfl⟩ := (runs_element is given ⟨receives, ends⟩).mp runs
    exact ⟨rfl, w, receives, ends⟩
  · rintro ⟨rfl, w, indexes⟩
    exact (runs_element is given indexes).mpr ⟨rfl, rfl⟩

/-- Without a trace, dataizing the array and the index leaves everything as it is. -/
theorem indexes_iff_of_untraced (untraced : b.frame.tracing = false)
    (number : (b.state.heap.cell j).kind = .data (.int index)) :
    (∃ w, b.Indexes c r items j w (.ok (.int index)) t) ↔ t = b.state := by
  have receives {w : State} : b.Receives (.picking r items) w ↔ w = b.state :=
    State.tells_iff_of_untraced untraced
  have argument {u : State} : c.Ends (.dataize j) (b.asking (.picking r items)) b.state
      (.ok (.int index)) u ↔ u = b.state :=
    (dataize_data number).trans ((and_iff_right rfl).trans (State.tells_iff_of_untraced untraced))
  constructor
  · rintro ⟨w, received, ends⟩
    obtain rfl := receives.mp received
    exact argument.mp ends
  · rintro rfl
    exact ⟨b.state, receives.mpr rfl, argument.mpr rfl⟩

/-- The length of an array is made an object. -/
theorem runs_measuring (is : b.state.Embodies b.object (.measuring r items) bound)
    (receives : b.Receives (.measuring r items) w) :
    c.Runs (fun ask => methodResult ask .arrayLength b.object) b.working b.state result t ↔
      (conclude (.ok (countValue items.length)) >>= data).Ends b.working w result t := by
  have made (items : List Ref) : Stepwise State.Creates True fun _ =>
      data (countValue items.length) := Stepwise.act (.data _)
  exact (runs_unary (a := items) is rfl rfl receives made).trans runs_nothing

end Link

/-! ## How arrays are made -/

/-- An array of these elements has been made in that state: as data, by expressions that have given
the elements, or from a slot that has taken them. -/
inductive MakesArray (items : List Ref) : State → Ref → State → Prop where
  | data {self r : Ref} {frame : Frame} {s t : State} :
      Computations.ofExpressions.Ends (.eval (.data (.array items)) self) frame s (.ok r) t →
        MakesArray items s r t
  | base {es : List Expr} {self r : Ref} {frame : Frame} {s t u : State} :
      Computations.ofExpressions.Runs (fun ask => evalAll ask self es) (frame.holding [self]) s
        (.ok items) u →
      Computations.ofExpressions.Ends (.eval (.array es) self) frame s (.ok r) t →
        MakesArray items u r t
  | vararg {o r : Ref} {name : String} {frame : Frame} {s t : State} :
      s.heap.slot? o name = some (.vararg items) →
      Computations.ofExpressions.Ends (.read (.slot o name)) frame s (.ok r) t →
        MakesArray items s r t

/-- What has been made is an array of the elements, and it is new. -/
theorem MakesArray.isArray (makes : MakesArray items s r t) :
    t.IsArray r items ∧ r.index = s.heap.size := by
  have made {frame : Frame} (ends : (Action.data (.array items)).Ends frame s (.ok r) t) :
      t.IsArray r items ∧ r.index = s.heap.size := by
    cases ends
    exact ⟨s.kind_allocData (.array items), rfl⟩
  cases makes with
  | data ends =>
      have runs := (runs_request.trans (runs_hold _)).mp ends
      exact made (runs_nothing.mp runs)
  | @base es self _ frame s _ _ given ends =>
      have onward (items : List Ref) : Stepwise State.Creates True fun _ =>
          Action.data (.array items) := Stepwise.act (.data _)
      have runs := (runs_request.trans (runs_hold _)).mp ends
      have rest := (runs_bind_of_ok (straight_evalAll self es).stepwise onward given).mp runs
      exact made (runs_nothing.mp rest)
  | @vararg o _ name frame _ _ collected ends =>
      have runs := (runs_request.trans (runs_hold _)).mp ends
      have reads (ask : Answerer) : readPlace ask (.slot o name) (frame.holding [o]) s =
          Action.data (.array items) (frame.holding [o]) s := by
        rw [readPlace, bind_of_answer (asks_apply _ _ s), collected]
      exact made (runs_nothing.mp ((runs_congr reads).mp runs))

/-! ## The ways into an array -/

/-- An object that applies `at` of the array to the index, which is the number of another object. -/
structure ElementAccess (s : State) (r : Ref) (items : List Ref) (index : Int64) where
  object : Ref
  path : List Ref
  bound : String → Option Ref
  number : Ref
  applies : s.Applies (.picking r items) path object bound
  given : bound "i" = some number
  kind : (s.heap.cell number).kind = .data (.int index)

/-- Reading what the object decorates gives that.  It comes to an object of the method, for which
only the views that have kept nothing are touched, and dataizes the array and then the index; without
a trace this changes nothing more. -/
def ElementAccess.Gives (a : ElementAccess s r items index) (self : Ref) (frame : Frame)
    (given : Except Failure Ref) : Prop :=
  ∃ b : Link, b.state.Embodies b.object (.picking r items) a.bound ∧ s.SameBut a.path b.state ∧
    b.frame.tracing = frame.tracing ∧
    (∀ result t, Gets self a.object phi frame s result t ↔ result = given ∧
      ∃ w, b.Indexes .ofExpressions r items a.number w (.ok (.int index)) t) ∧
    (frame.tracing = false → ∀ t,
      (∃ w, b.Indexes .ofExpressions r items a.number w (.ok (.int index)) t) ↔ t = b.state)

theorem ElementAccess.gives (a : ElementAccess s r items index) (self : Ref) (frame : Frame) :
    a.Gives self frame (elementAt items index) := by
  obtain ⟨b, is, same, tracing, gets⟩ := a.applies.gets self frame
  have out : a.number ∉ a.path := by
    intro there
    have isView := a.applies.isView _ there
    rw [Cell.isView, a.kind] at isView
    cases isView
  have number : (b.state.heap.cell a.number).kind = .data (.int index) := by
    rw [same.2 _ (Heap.lt_size_of_kind a.kind) out]
    exact a.kind
  refine ⟨b, is, same, tracing, fun result t => ?_, fun untraced t => ?_⟩
  · exact (gets result t).trans (Link.runs_picking is a.given number)
  · exact Link.indexes_iff_of_untraced (tracing.trans untraced) number

/-- What the names and the methods of an array give. -/
structure WaysInto (scope : Ref) (frame : Frame) (s : State) (r : Ref) (items : List Ref) : Prop where
  /-- At the index of an element, the attribute, `at` and the unpacked slot give the same object. -/
  element : ∀ index x, IsAt items index x →
    (unpack items)[index.toInt.toNat]? = some (toString index.toInt, .free (some x)) ∧
    (∀ result t, Gets scope r (toString index.toInt) frame s result t ↔ result = .ok x ∧ t = s) ∧
    ∀ a : ElementAccess s r items index, a.Gives scope frame (.ok x)
  /-- At any other index, `at` says that it is out of bounds, -/
  outside : ∀ index, IsOutside items index → (Failure.outOfBounds index items.length).kind = .general ∧
    ∀ a : ElementAccess s r items index,
      a.Gives scope frame (.error (.outOfBounds index items.length))
  /-- and the attribute is not there, whatever integer it is called like. -/
  beyond : ∀ n : Int, n < 0 ∨ items.length ≤ n → ∀ result t,
    Gets scope r (toString n) frame s result t ↔
      result = .error (.noSuchAttribute (toString n) (s.heap.subject r)) ∧ t = s
  /-- The length is the number of elements. -/
  length : (items.length < 2 ^ 63 → (Int64.ofNat items.length).toInt = items.length) ∧
    ∀ q path bound, s.Applies (.measuring r items) path q bound → ∃ b,
      Calls .ofExpressions q frame s (.measuring r items) path bound b ∧
      (frame.tracing = false → b.Receives (.measuring r items) b.state) ∧
      ∀ w, b.Receives (.measuring r items) w → ∀ result t,
        Computations.ofExpressions.Ends (.dataize q) frame s result t ↔
          Concludes q frame (w.withMade (.ok (.int (Int64.ofNat items.length))))
            (.ok (.int (Int64.ofNat items.length))) result t
  /-- A name that spells an index leads to an element or nowhere. -/
  spelled : ∀ name k, SpellsIndex name k → ∀ result t,
    Computations.ofExpressions.Ends (.find r name) frame s result t ↔ t = s ∧
      ((∃ x, items[k]? = some x ∧ result = .ok (.fixed r (toString k) x)) ∨
        items.length ≤ k ∧ result = .error (.noSuchAttribute name (s.heap.subject r)))
  /-- Any other name leads to the array itself, to a method that is made for it, or nowhere; so if
  the elements are older than the array, it does not lead to an element. -/
  unspelled : ∀ name, (∀ k, ¬ SpellsIndex name k) → ∀ p t,
    Computations.ofExpressions.Ends (.find r name) frame s (.ok p) t →
      ∃ x, p = .fixed r name x ∧ ((∀ y ∈ items, y.index < r.index) → x ∉ items) ∧
        ((name = delta ∨ name = xi) ∧ x = r ∧ t = s ∨
          ∃ m, Method.ofName? .array name = some m ∧ x = ⟨s.heap.size⟩ ∧
            (t.heap.cell x).kind = .table (methodTable r .array name m))

theorem State.IsArray.finds_spelled (array : s.IsArray r items) {c : Computations}
    (spells : SpellsIndex name k) {result : Except Failure Place} :
    c.Ends (.find r name) frame s result t ↔ t = s ∧
      ((∃ x, items[k]? = some x ∧ result = .ok (.fixed r (toString k) x)) ∨
        items.length ≤ k ∧ result = .error (.noSuchAttribute name (s.heap.subject r))) := by
  constructor
  · intro ends
    cases there : items[k]? with
    | some x =>
        obtain ⟨rfl, rfl⟩ :=
          (array.finds_element spells there).unique (Link.stepwise_ask _) ends
        exact ⟨rfl, .inl ⟨x, rfl, rfl⟩⟩
    | none =>
        have beyond := List.getElem?_eq_none_iff.mp there
        obtain ⟨rfl, rfl⟩ := (array.finds_beyond spells beyond).unique (Link.stepwise_ask _) ends
        exact ⟨rfl, .inr ⟨beyond, rfl⟩⟩
  · rintro ⟨rfl, ⟨x, there, rfl⟩ | ⟨beyond, rfl⟩⟩
    · exact array.finds_element spells there
    · exact array.finds_beyond spells beyond

theorem State.IsArray.waysInto (array : s.IsArray r items) (self : Ref) (frame : Frame) :
    WaysInto self frame s r items where
  element index x isAt := by
    have spells : SpellsIndex (toString index.toInt) index.toInt.toNat := by
      refine spellsIndex_toString.mpr ⟨?_, ?_⟩
      · exact (Int.toNat_of_nonneg isAt.1).symm
      · have bound := index.toInt_lt
        omega
    have named : toString index.toInt.toNat = toString index.toInt :=
      congrArg toString (Int.toNat_of_nonneg isAt.1)
    refine ⟨?_, fun result t => ?_, fun a => ?_⟩
    · rw [getElem?_unpack, isAt.2, named]
      rfl
    · exact gets_of_fixed (array.finds_element spells isAt.2)
    · rw [← elementAt_of_isAt isAt]
      exact a.gives self frame
  outside index outside := by
    refine ⟨rfl, fun a => ?_⟩
    rw [← elementAt_of_isOutside outside]
    exact a.gives self frame
  beyond n out result t := gets_of_missing (array.finds_no_integer out)
  length := by
    refine ⟨fun few => Int64.toInt_ofNat_of_lt few, fun q path bound applies => ?_⟩
    obtain ⟨b, calls⟩ := applies.calls .ofExpressions frame
    refine ⟨b, calls, fun untraced => .nothing (calls.tracing.trans untraced), ?_⟩
    intro w receives result t
    exact dataize_of_forces (calls.comes.forces_made calls.embodies computesMethods_ofExpressions
      nofun fun _ _ => Link.runs_measuring calls.embodies receives)
  spelled name k spells result t := array.finds_spelled spells
  unspelled name other p t finds := by
    rcases array.finds_other other finds with ⟨special, rfl, rfl⟩ | ⟨m, named, rfl, new⟩
    · refine ⟨r, rfl, fun older there => ?_, .inl ⟨special, rfl, rfl⟩⟩
      exact Nat.lt_irrefl _ (older r there)
    · refine ⟨_, rfl, fun older there => ?_, .inr ⟨m, named, rfl, new⟩⟩
      exact Nat.lt_asymm (older _ there) (Heap.lt_size_of_kind array)

/-- **The ways into an array agree.**  However an array has been made, at the index of an element the
attribute, the method `at` and the unpacked slot give that element, and at no other index there is
one.  Names that spell an index lead to elements and not to methods, and the length is the number of
elements.  All other names do not lead to elements: an array is newer than what there was when it was
made, and what these names lead to is the array itself or newer still. -/
theorem ways_into_arrays_agree :
    (∀ items s r t, MakesArray items s r t → t.IsArray r items ∧ r.index = s.heap.size) ∧
    ∀ self frame s r items, s.IsArray r items → WaysInto self frame s r items := by
  constructor
  · intro items s r t makes
    exact makes.isArray
  · intro self frame s r items array
    exact array.waysInto self frame

/-- An array of the numbers 7 and 8, and a view that applies its method `at` to the number 1. -/
def State.withPair : State :=
  let seven := State.initial.allocData (.int 7)
  let eight := seven.2.allocData (.int 8)
  let pair := eight.2.allocData (.array [seven.1, eight.1])
  let pick := pair.2.alloc (.view (.method pair.1 "at") none)
  let one := pick.2.allocData (.int 1)
  (one.2.alloc (.view (.bind pick.1 (.position 0) one.1) none)).2

/-- The attribute `1` and the method `at` give the number 8, and there is no attribute `2`. -/
theorem eight_is_reached :
    Gets ⟨3⟩ ⟨3⟩ "1" {} State.withPair (.ok ⟨2⟩) State.withPair ∧
    (∃ t, Gets ⟨3⟩ ⟨6⟩ phi {} State.withPair (.ok ⟨2⟩) t) ∧
    Gets ⟨3⟩ ⟨3⟩ "2" {} State.withPair
      (.error (.noSuchAttribute "2" (State.withPair.heap.subject ⟨3⟩))) State.withPair := by
  have ways : WaysInto ⟨3⟩ {} State.withPair ⟨3⟩ [⟨1⟩, ⟨2⟩] :=
    ways_into_arrays_agree.2 ⟨3⟩ {} State.withPair ⟨3⟩ [⟨1⟩, ⟨2⟩] rfl
  obtain ⟨_, named, picked⟩ := ways.element 1 ⟨2⟩ ⟨by decide, rfl⟩
  let access : ElementAccess State.withPair ⟨3⟩ [⟨1⟩, ⟨2⟩] 1 :=
    ⟨⟨6⟩, [⟨6⟩, ⟨4⟩], _, ⟨5⟩,
      .bind (.method rfl rfl) rfl (by decide) rfl List.mem_cons_self rfl, rfl, rfl⟩
  obtain ⟨b, _, _, _, gives, untraced⟩ := picked access
  refine ⟨(named _ _).mpr ⟨rfl, rfl⟩, ⟨b.state, ?_⟩, ?_⟩
  · exact (gives _ _).mpr ⟨rfl, (untraced rfl b.state).mpr rfl⟩
  · exact (ways.beyond 2 (.inr (by decide)) _ _).mpr ⟨rfl, rfl⟩

end PhiCalculus
