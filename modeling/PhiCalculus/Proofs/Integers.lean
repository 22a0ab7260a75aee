import Mathlib.Algebra.Order.Group.Int
import Mathlib.Algebra.Order.Ring.Int
import Mathlib.Data.Int.ModEq
import PhiCalculus.Proofs.AppliedMethods

/-!
# Methods of integers

What the methods of integers give is said in terms of the integers themselves (`Arithmetic.Gives`):
sums, differences, products and negations are the integers of 64 bits that are congruent to the
exact results, comparisons are those of the signed integers, and quotients are truncated toward
zero.  There is one result for each pair of operands (`Arithmetic.gives_iff`).

Nothing else comes of applying a method of an integer, from the views that a program makes for it
down to the value (`integer_methods`).
-/

set_option autoImplicit false

namespace PhiCalculus

open PhiCalculus.Action

/-! ## Integers of 64 bits -/

/-- There is one integer of 64 bits for each residue. -/
theorem int64_eq_of_modEq {a b : Int64} (same : a.toInt ≡ b.toInt [ZMOD 2 ^ 64]) : a = b := by
  have := a.le_toInt
  have := b.le_toInt
  have := a.toInt_lt
  have := b.toInt_lt
  rw [Int.ModEq] at same
  exact Int64.toInt_inj.mp (by omega)

theorem bmod_modEq (n : Int) : n.bmod (2 ^ 64) ≡ n [ZMOD 2 ^ 64] := Int.bmod_emod

/-- The quotient that is truncated toward zero, by its remainder. -/
theorem truncated_iff {a b q : Int} (nonzero : b ≠ 0) :
    (∃ r, a = q * b + r ∧ |r| < |b| ∧ (r = 0 ∨ r.sign = a.sign)) ↔ q = a.tdiv b := by
  constructor
  · rintro ⟨r, split, small, sign⟩
    rw [Int.abs_eq_natAbs b, abs_lt] at small
    have whole : r + b * q = a := by rw [split, Int.mul_comm]; omega
    rcases Int.le_total 0 a with pos | neg
    · have nonneg : 0 ≤ r := by
        rcases sign with rfl | sign
        · exact le_refl _
        · exact Int.sign_nonneg_iff.mp (sign ▸ Int.sign_nonneg_iff.mpr pos)
      exact ((Int.tdiv_tmod_unique pos nonzero).mpr ⟨whole, nonneg, small.2⟩).1.symm
    · have nonpos : r ≤ 0 := by
        rcases sign with rfl | sign
        · exact le_refl _
        · exact Int.sign_nonpos_iff.mp (sign ▸ Int.sign_nonpos_iff.mpr neg)
      exact ((Int.tdiv_tmod_unique' neg nonzero).mpr ⟨whole, small.1, nonpos⟩).1.symm
  · rintro rfl
    refine ⟨a.tmod b, (Int.tdiv_mul_add_tmod a b).symm, ?_, ?_⟩
    · rw [Int.abs_eq_natAbs, Int.abs_eq_natAbs, Int.natAbs_tmod]
      exact_mod_cast Nat.mod_lt _ (Int.natAbs_pos.mpr nonzero)
    · by_cases divides : b ∣ a
      · exact .inl (Int.tmod_eq_zero_of_dvd divides)
      · exact .inr (by rw [Int.sign_tmod, if_neg divides])

/-! ## What the operations give -/

namespace Arithmetic

/-- The exact result of an operation that wraps around. -/
def ideal? : Arithmetic → Int → Int → Option Int
  | plus, a, b => some (a + b)
  | minus, a, b => some (a - b)
  | times, a, b => some (a * b)
  | neg, a, _ => some (-a)
  | _, _, _ => none

/-- What the operation gives for two integers; a negation disregards the second one. -/
inductive Gives (a b : Int64) : Arithmetic → Except Failure Value → Prop where
  | wrapped {op : Arithmetic} {ideal : Int} {z : Int64} : op.ideal? a.toInt b.toInt = some ideal →
      z.toInt ≡ ideal [ZMOD 2 ^ 64] → Gives a b op (.ok (.int z))
  | less : Gives a b .lt (.ok (.bool (a.toInt < b.toInt)))
  | greater : Gives a b .gt (.ok (.bool (b.toInt < a.toInt)))
  | quotient {q : Int64} {r : Int} : a.toInt = q.toInt * b.toInt + r → |r| < |b.toInt| →
      (r = 0 ∨ r.sign = a.toInt.sign) → Gives a b .div (.ok (.int q))
  | overflow {q : Int64} : a.toInt = -2 ^ 63 → b.toInt = -1 → q.toInt = -2 ^ 63 →
      Gives a b .div (.ok (.int q))
  | byZero : b.toInt = 0 → Gives a b .div (.error (.divisionByZero a))

variable {a b : Int64} {op : Arithmetic} {given : Except Failure Value}

/-- The wrapped results are those that are computed. -/
theorem wrapped_iff {ideal : Int} (is : op.ideal? a.toInt b.toInt = some ideal) :
    ∃ z : Int64, z.toInt ≡ ideal [ZMOD 2 ^ 64] ∧ integerResult op a b = .ok (.int z) := by
  cases op with
  | plus =>
      cases is
      exact ⟨a + b, by rw [Int64.toInt_add]; exact bmod_modEq _, rfl⟩
  | minus =>
      cases is
      exact ⟨a - b, by rw [Int64.toInt_sub]; exact bmod_modEq _, rfl⟩
  | times =>
      cases is
      exact ⟨a * b, by rw [Int64.toInt_mul]; exact bmod_modEq _, rfl⟩
  | neg =>
      cases is
      exact ⟨-a, by rw [Int64.toInt_neg]; exact bmod_modEq _, rfl⟩
  | div => cases is
  | lt => cases is
  | gt => cases is

/-- The quotient is truncated, unless it is the one that does not fit. -/
theorem toInt_div (fits : a.toInt ≠ -2 ^ 63 ∨ b.toInt ≠ -1) :
    (a / b).toInt = a.toInt.tdiv b.toInt := by
  rcases fits with other | other
  · refine a.toInt_div_of_ne_left b fun same => other ?_
    rw [same, Int64.toInt_minValue]
  · refine a.toInt_div_of_ne_right b fun same => other ?_
    rw [same]
    rfl

theorem div_of_overflow (low : a.toInt = -2 ^ 63) (negative : b.toInt = -1) :
    (a / b).toInt = -2 ^ 63 := by
  rw [Int64.toInt_div, low, negative]
  rfl

theorem integerResult_div (nonzero : b.toInt ≠ 0) :
    integerResult .div a b = .ok (.int (a / b)) := by
  have other : (b == 0) = false := by
    rw [beq_eq_false_iff_ne]
    rintro rfl
    exact nonzero rfl
  rw [integerResult, other]
  rfl

/-- A quotient is the one that is computed. -/
theorem quotient_eq {q : Int64} {r : Int} (split : a.toInt = q.toInt * b.toInt + r)
    (small : |r| < |b.toInt|) (sign : r = 0 ∨ r.sign = a.toInt.sign) :
    integerResult .div a b = .ok (.int q) := by
  have nonzero : b.toInt ≠ 0 := by
    rintro zero
    rw [zero, abs_zero] at small
    exact absurd small (not_lt.mpr (abs_nonneg r))
  have truncated := (truncated_iff nonzero).mp ⟨r, split, small, sign⟩
  have fits : a.toInt ≠ -2 ^ 63 ∨ b.toInt ≠ -1 := by
    by_contra both
    obtain ⟨low, negative⟩ := not_or.mp both
    rw [not_not.mp low, not_not.mp negative] at truncated
    have high : q.toInt = 2 ^ 63 := truncated
    exact absurd q.toInt_lt (by rw [high]; exact lt_irrefl _)
  rw [integerResult_div nonzero, Int64.toInt_inj.mp (truncated.trans (toInt_div fits).symm)]

/-- **There is one result for each pair of operands.** -/
theorem gives_iff : op.Gives a b given ↔ given = integerResult op a b := by
  constructor
  · intro gives
    cases gives with
    | wrapped is same =>
        obtain ⟨z, same', result⟩ := wrapped_iff is
        rw [result, int64_eq_of_modEq (same.trans same'.symm)]
    | less => exact congrArg (Except.ok ∘ Value.bool) (decide_eq_decide.mpr Int64.lt_iff_toInt_lt.symm)
    | greater =>
        exact congrArg (Except.ok ∘ Value.bool) (decide_eq_decide.mpr Int64.lt_iff_toInt_lt.symm)
    | quotient split small sign => exact (quotient_eq split small sign).symm
    | overflow low negative same =>
        have nonzero : b.toInt ≠ 0 := by rw [negative]; decide
        rw [integerResult_div nonzero,
          Int64.toInt_inj.mp (same.trans (div_of_overflow low negative).symm)]
    | byZero zero =>
        rw [integerResult, if_pos (beq_iff_eq.mpr (Int64.toInt_inj.mp zero))]
  · rintro rfl
    have ring (ideal : Int) (is : op.ideal? a.toInt b.toInt = some ideal) :
        op.Gives a b (integerResult op a b) := by
      obtain ⟨z, same, result⟩ := wrapped_iff is
      rw [result]
      exact .wrapped is same
    cases op with
    | lt =>
        have same : (decide (a < b)) = decide (a.toInt < b.toInt) :=
          decide_eq_decide.mpr Int64.lt_iff_toInt_lt
        rw [integerResult, same]
        exact .less
    | gt =>
        have same : (decide (b < a)) = decide (b.toInt < a.toInt) :=
          decide_eq_decide.mpr Int64.lt_iff_toInt_lt
        rw [integerResult, same]
        exact .greater
    | div =>
        by_cases zero : b.toInt = 0
        · rw [integerResult, if_pos (beq_iff_eq.mpr (Int64.toInt_inj.mp zero))]
          exact .byZero zero
        rw [integerResult_div zero]
        by_cases both : a.toInt = -2 ^ 63 ∧ b.toInt = -1
        · exact .overflow both.1 both.2 (div_of_overflow both.1 both.2)
        · obtain ⟨r, split, small, sign⟩ :=
            (truncated_iff zero).mpr (toInt_div (not_and_or.mp both))
          exact .quotient split small sign
    | _ => exact ring _ rfl

end Arithmetic

/-! ## Applied methods -/

variable {c : Computations} {frame : Frame} {s t u w : State} {q r x : Ref} {a n : Int64}
  {name : String} {op : Arithmetic} {bound : String → Option Ref} {path : List Ref} {b : Link}

/-- The method of an integer that has that name. -/
def MethodCall.onInt (r : Ref) (a : Int64) (named : Arithmetic.ofName? name = some op) :
    MethodCall where
  receiver := r
  value := .int a
  name := name
  method := .int op
  named := by
    have other : name ≠ "eq" := by
      rintro rfl
      cases named
    rw [Method.ofName?, if_neg (by simpa using other), Value.tag, Method.ofType?, named]
    rfl

/-- The term of a value that is no array is written without asking for others. -/
theorem Heap.term?_of_scalar {h : Heap} {v : Value} (kind : (h.cell r).kind = .data v)
    (scalar : v.items = []) : h.term? r = some (v.termOf []) := by
  rw [Heap.term?, Heap.termFuel, Nat.mul_succ, Heap.termAt, if_neg (by decide), kind]
  simp [scalar]

/-- To dataize a number, a text or the like always comes to an end. -/
theorem Link.exists_receives {i : MethodCall} (is : b.state.Embodies b.object i bound)
    (scalar : i.value.items = []) : ∃ w, b.Receives i w := by
  cases traced : b.frame.tracing with
  | false => exact ⟨b.state, .nothing traced⟩
  | true =>
      have value : b.state.heap.valueTerm? i.value = some (i.value.termOf []) := by
        rw [Heap.valueTerm?, scalar]
        rfl
      exact ⟨_, .line traced (Heap.term?_of_scalar is.receiver scalar) value⟩

namespace Calls

variable {named : Arithmetic.ofName? name = some op}

/-- Negation needs the receiver only. -/
theorem forces_negation {named : Arithmetic.ofName? name = some .neg}
    (calls : Calls c q frame s (.onInt r a named) path bound b)
    (computes : c.ComputesMethods) (receives : b.Receives (.onInt r a named) w) :
    (Link.taken q frame s).Forces c (integerResult .neg a a)
      (w.withMade (integerResult .neg a a)) := by
  refine calls.comes.forces_made calls.embodies computes nofun fun result t => ?_
  have made : ∀ a : Int64, Stepwise State.Creates True fun _ => data (.int (-a)) :=
    fun _ => Stepwise.act (.data _)
  exact (Link.runs_unary (a := a) calls.embodies rfl rfl receives made).trans runs_nothing

/-- The other operations go on with the argument. -/
theorem forces_operation (calls : Calls c q frame s (.onInt r a named) path bound b)
    (computes : c.ComputesMethods) (receives : b.Receives (.onInt r a named) w) (binary : op ≠ .neg)
    (given : bound "x" = some x) (argument : c.Ends (.dataize x) (b.asking (.onInt r a named)) w
      (.ok (.int n)) u) :
    (Link.taken q frame s).Forces c (integerResult op a n)
      (u.withMade (integerResult op a n)) := by
  have fails (f : Failure) (is : integerResult op a n = .error f) : f.ofMissing = f := by
    cases Arithmetic.gives_iff.mpr is.symm
    rfl
  refine calls.comes.forces_made calls.embodies computes fails fun result t => ?_
  have made (a z : Int64) : Stepwise State.Creates True fun _ =>
      conclude (integerResult op a z) >>= data :=
    .bind (Stepwise.conclude _) fun v => Stepwise.act (.data v)
  have param : "x" ∈ (Method.int op).params := by
    cases op <;> first | exact List.mem_cons_self | exact absurd rfl binary
  have runs : c.Runs (fun ask => fetchInt ask b.object sigma >>= fun a =>
      hold [] (fetchInt ask b.object "x") >>= fun z => conclude (integerResult op a z) >>= data)
        b.working b.state result t ↔ (conclude (integerResult op a n) >>= data).Ends b.working u
          result t :=
    (Link.runs_binary (a := a) calls.embodies rfl rfl receives rfl param given argument made).trans
      runs_nothing
  refine Iff.trans ?_ runs
  cases op <;> first | exact Iff.rfl | exact absurd rfl binary

end Calls

/-- **Methods of integers compute modulo 2⁶⁴.**  Let an object apply a method of an integer.
Dataizing it comes to an object of the method, dataizes the receiver and then the argument, if there
is one.  If the argument is found to be an integer, whatever object it is, then there is one result
that the operation gives for both, and the dataization ends in it and in nothing else.  Only a
division by zero fails, with a general error. -/
theorem integer_methods (computes : c.ComputesMethods) (named : Arithmetic.ofName? name = some op)
    (applies : s.Applies (.onInt r a named) path q bound) (frame : Frame) :
    ∃ b w, Calls c q frame s (.onInt r a named) path bound b ∧ b.Receives (.onInt r a named) w ∧
      ∀ n u, (op = .neg ∧ u = w ∨ op ≠ .neg ∧ ∃ x, bound "x" = some x ∧
        c.Ends (.dataize x) (b.asking (.onInt r a named)) w (.ok (.int n)) u) →
          (∃! given, op.Gives a n given) ∧
          (∀ given, op.Gives a n given → ∀ result t,
            c.Ends (.dataize q) frame s result t ↔
              Concludes q frame (u.withMade given) given result t) ∧
          ∀ e t, c.Ends (.dataize q) frame s (.error e) t →
            op = .div ∧ n.toInt = 0 ∧ e.kind = .general := by
  obtain ⟨b, calls⟩ := applies.calls c frame
  obtain ⟨w, receives⟩ := Link.exists_receives calls.embodies rfl
  refine ⟨b, w, calls, receives, fun n u operand => ?_⟩
  have forces : (Link.taken q frame s).Forces c (integerResult op a n)
      (u.withMade (integerResult op a n)) := by
    rcases operand with ⟨rfl, rfl⟩ | ⟨binary, x, given, argument⟩
    · exact calls.forces_negation computes receives
    · exact calls.forces_operation computes receives binary given argument
  have ends (given : Except Failure Value) (gives : op.Gives a n given)
      (result : Except Failure Value) (t : State) : c.Ends (.dataize q) frame s result t ↔
        Concludes q frame (u.withMade given) given result t := by
    rw [Arithmetic.gives_iff.mp gives]
    exact dataize_of_forces forces
  refine ⟨⟨_, Arithmetic.gives_iff.mpr rfl, fun _ => Arithmetic.gives_iff.mp⟩, ends, ?_⟩
  intro e t fails
  have gives : op.Gives a n (integerResult op a n) := Arithmetic.gives_iff.mpr rfl
  have concludes := (ends _ gives _ _).mp fails
  generalize integerResult op a n = given at gives concludes
  cases concludes with
  | failure places =>
      cases gives with
      | byZero zero => exact ⟨rfl, zero, places.kind⟩

/-- The greatest integer, and views that add one to it. -/
def State.withSum : State :=
  let most := State.initial.allocData (.int Int64.maxValue)
  let one := most.2.allocData (.int 1)
  let plus := one.2.alloc (.view (.method most.1 "plus") none)
  (plus.2.alloc (.view (.bind plus.1 (.position 0) one.1) none)).2

/-- The sum wraps around to the least integer. -/
theorem sum_wraps : ∃ t, Computations.ofExpressions.Ends (.dataize ⟨4⟩) {} State.withSum
    (.ok (.int Int64.minValue)) t := by
  have named : Arithmetic.ofName? "plus" = some .plus := rfl
  have applies : State.withSum.Applies (.onInt ⟨1⟩ Int64.maxValue named) [⟨4⟩, ⟨3⟩] ⟨4⟩
      (Function.update (fun _ => none) "x" (some ⟨2⟩)) :=
    .bind (.method rfl rfl) rfl (by decide) rfl List.mem_cons_self rfl
  obtain ⟨b, w, calls, receives, computed⟩ :=
    integer_methods computesMethods_ofExpressions named applies {}
  have one : (w.heap.cell ⟨2⟩).kind = .data (.int 1) := by
    rw [receives.heap, calls.same.2 ⟨2⟩ (by decide) (by decide)]
    rfl
  have argument : Computations.ofExpressions.Ends (.dataize ⟨2⟩)
      (b.asking (.onInt ⟨1⟩ Int64.maxValue named)) w (.ok (.int 1)) w :=
    (dataize_data one).mpr ⟨rfl, .nothing calls.tracing⟩
  obtain ⟨_, ends, _⟩ := computed 1 w (.inr ⟨nofun, ⟨2⟩, rfl, argument⟩)
  have gives : Arithmetic.plus.Gives Int64.maxValue 1 (.ok (.int Int64.minValue)) :=
    .wrapped rfl (by decide)
  exact ⟨_, (ends _ gives _ _).mpr (.value (.nothing rfl))⟩

end PhiCalculus
