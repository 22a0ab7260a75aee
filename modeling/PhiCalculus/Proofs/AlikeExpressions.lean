import PhiCalculus.Proofs.AlikeRequests
import PhiCalculus.Proofs.Labels

/-!
# Runs that are alike go on alike

Attempts and expressions end alike for objects that are alike, if the requests that they make are
answered alike.  An expression is evaluated for an object whose role it belongs to, so it is either
written in the program, as a part of what an abstraction computes once, or it is what an attempt, an
object that raises or a method computes as a whole (`Heap.Plays.evaluates`).

By induction on the nesting of requests, requests that correspond are then answered alike
(`Likeness.asks_answerWithin`), and so global objects are dataized alike
(`Likeness.alike_globalValue`).
-/

set_option autoImplicit false

namespace PhiCalculus

open PhiCalculus.Action

/-! ## What is evaluated for an object -/

/-- An expression that is evaluated for an object is a part of what an abstraction computes, or the
whole of what is not written in the program. -/
theorem Heap.Plays.evaluates {p : Program} {h : Heap} {role : Role} {self : Ref}
    (plays : h.Plays p role self) (checked : p.check = .ok ()) {e : Expr}
    (computes : role.Computes e) :
    (∃ decl outer name origin, role = .abstraction (decl :: outer) ∧ p.Scopes (decl :: outer) ∧
      (name, .once origin) ∈ decl ∧ origin.Part e ∧ e.Written) ∨
        ∃ n, role.native? = some n ∧ e = .native n := by
  have within {decl : Declared} {outer : List Declared} (scopes : p.Scopes (decl :: outer))
      (computes : (Role.abstraction (decl :: outer)).Computes e) :
      ∃ name origin, (name, .once origin) ∈ decl ∧ origin.Part e ∧ e.Written := by
    have written := scopes.written checked
    obtain ⟨name, origin, part, declared | declared⟩ := computes
    · exact ⟨name, origin, declared, part, part.written (written.computed name origin declared)⟩
    · rcases written.plain.kinds name _ declared with same | same | ⟨_, same⟩ <;> cases same
  cases plays with
  | top _ scopes =>
      obtain ⟨name, origin, declared, part, written⟩ := within scopes computes
      exact .inl ⟨_, _, name, origin, rfl, scopes, declared, part, written⟩
  | inner _ scopes =>
      obtain ⟨name, origin, declared, part, written⟩ := within scopes computes
      exact .inl ⟨_, _, name, origin, rfl, scopes, declared, part, written⟩
  | attempt => exact .inr ⟨_, rfl, Role.computes_native rfl computes⟩
  | signal => exact .inr ⟨_, rfl, Role.computes_native rfl computes⟩
  | method => exact .inr ⟨_, rfl, Role.computes_native rfl computes⟩

/-- The other parts of what is computed for an object are computed for it as well. -/
theorem Role.Computes.part {role : Role} {e e' : Expr} (computes : role.Computes e)
    (step : ∀ {whole : Expr}, whole.Part e → whole.Part e') : role.Computes e' := by
  obtain ⟨name, origin, part, declared⟩ := computes
  exact ⟨name, origin, step part, declared⟩

/-- The slots of an abstraction are declared without evaluating anything. -/
theorem evalSlots_plain (ask : Answerer) (self : Ref) {decl : Declared} (plain : decl.Plain)
    (slots : Slots) : evalSlots ask self slots decl = pure (declareAll slots decl) := by
  induction decl generalizing slots with
  | nil => rfl
  | cons a rest ih =>
      obtain ⟨name, e⟩ := a
      have later : Declared.Plain rest :=
        ⟨fun n s there => plain.unreserved n s (List.mem_cons_of_mem _ there),
          fun n s there => plain.kinds n s (List.mem_cons_of_mem _ there)⟩
      rcases plain.kinds name e List.mem_cons_self with rfl | rfl | ⟨origin, rfl⟩
      · exact ih later _
      · exact ih later _
      · exact ih later _

namespace Likeness

variable {p : Program} {L : Likeness p} {r self : Ref} {frame frame' : Frame} {s s' t t' : State}

theorem Declares.grows {place place' : Place} (declares : L.Declares place place' s)
    (next : L.Then s s' t t') : L.Declares place place' t := by
  obtain ⟨o, name, slot, is, is', ordinary, found⟩ := declares
  obtain ⟨slot', found', -⟩ := next.grows.slot found
  exact ⟨o, name, slot', is, is', ordinary.grows next.grows, found'⟩

section

variable {ask ask' : Answerer} (asked : L.Asks ask ask')
include asked

/-! ## Attempts -/

theorem alike_signal (here : L.At frame frame' s s') (ordinary : s.heap.Ordinary p r) :
    L.Ends (fun o o' t _ => L.Same o o' t) s s' (signal ask r frame s)
      (signal ask' (L.place r) frame' s') := by
  refine here.bind (asked (.find r sigma) here ordinary) ?_
  rintro home _ t₁ t₁' here next₁ ⟨rfl, fits, -⟩
  refine here.bind (asked (.read home) here fits) ?_
  rintro target _ t₂ t₂' here next₂ ⟨⟨rfl, target_ordinary⟩, -⟩
  refine here.hold (exist_one target_ordinary.exist) rfl fun here => ?_
  have still := (ordinary.grows next₁.grows).grows next₂.grows
  refine here.bind (asked (.find r "ex") here still) ?_
  rintro argument _ t₃ t₃' here next₃ ⟨rfl, fits, -⟩
  refine here.bind (asked (.read argument) here fits) ?_
  rintro payload _ t₄ t₄' here next₄ ⟨⟨rfl, payload_ordinary⟩, -⟩
  have exist := ((target_ordinary.grows next₃.grows).grows next₄.grows).exist
  exact here.failure (.raise (sameVertex exist) payload_ordinary)

theorem alike_partOf (here : L.At frame frame' s s') (ordinary : s.heap.Ordinary p r)
    (name : String) :
    L.Ends (fun o o' t _ => L.Same o o' t) s s' (partOf ask r name frame s)
      (partOf ask' (L.place r) name frame' s') := by
  refine here.bind (asked (.find r name) here ordinary) ?_
  rintro place _ t₁ t₁' here next₁ ⟨rfl, fits, -⟩
  refine here.bind (asked (.read place) here fits) ?_
  rintro prototype _ t₂ t₂' here next₂ ⟨⟨rfl, prototype_ordinary⟩, -⟩
  have fits := fits.grows next₂.grows
  refine here.bind (here.hold fits.refs place.refs_rename fun here =>
    alike_copyOf asked here prototype_ordinary.exist) ?_
  rintro part _ t₃ t₃' here next₃ ⟨⟨rfl, part_ordinary⟩, concrete, free⟩
  have owns := ((ordinary.grows next₁.grows).grows next₂.grows).grows next₃.grows
  refine here.bind (here.hold (exist_one part_ordinary.exist) rfl fun here =>
    alike_moveTo here part_ordinary concrete free owns) ?_
  rintro _ _ t₄ t₄' here next₄ -
  exact here.answer ⟨rfl, part_ordinary.grows next₄.grows⟩

theorem alike_runMain (here : L.At frame frame' s s') (ordinary : s.heap.Ordinary p r) :
    L.Ends (fun v v' t _ => L.SameValue v v' t) s s' (runMain ask r frame s)
      (runMain ask' (L.place r) frame' s') := by
  refine here.bind (alike_partOf asked here ordinary "main") ?_
  rintro main _ t₁ t₁' here next₁ ⟨rfl, main_ordinary⟩
  refine here.hold (exist_one main_ordinary.exist) rfl fun here => ?_
  refine here.bind (alike_placeAt asked here main_ordinary 0) ?_
  intro first first' t₂ t₂' here next₂ declares
  have still := (ordinary.grows next₁.grows).grows next₂.grows
  have raises := t₂.grows_alloc (.table (signalTable r))
  refine here.bind (alike_alloc (k := .table (signalTable r)) here rfl ?_) ?_
  · refine here.fits.allocTable .signal ?_ rfl ?_
    · exact .signal ⟨_, t₂.kind_alloc _, rfl, Role.declared_signal r⟩ (still.grows raises)
    · intro name slot there x shown
      simp only [signalTable, List.mem_cons, Prod.mk.injEq, List.not_mem_nil, or_false] at there
      rcases there with ⟨-, rfl⟩ | ⟨-, rfl⟩ <;> cases shown
  rintro raiser _ t₃ t₃' here next₃ ⟨⟨rfl, raiser_ordinary⟩, -, -⟩
  refine here.bind (alike_write asked here (declares.grows next₃) raiser_ordinary) ?_
  rintro _ _ t₄ t₄' here next₄ -
  have still := ((main_ordinary.grows next₂.grows).grows next₃.grows).grows next₄.grows
  exact (asked (.dataize main) here still).weaken fun _ answered => answered.1

theorem alike_runCatch (here : L.At frame frame' s s') (ordinary : s.heap.Ordinary p r)
    {payload : Ref} (payload_ordinary : s.heap.Ordinary p payload) :
    L.Ends (fun v v' t _ => L.SameValue v v' t) s s' (runCatch ask r payload frame s)
      (runCatch ask' (L.place r) (L.place payload) frame' s') := by
  refine here.bind (here.hold (exist_one payload_ordinary.exist) rfl fun here =>
    alike_partOf asked here ordinary "catch") ?_
  rintro handler _ t₁ t₁' here next₁ ⟨rfl, handler_ordinary⟩
  have fits : (View.bind handler (.position 0) payload).Fits p t₁.heap := by
    intro x there
    simp only [View.refs, List.mem_cons, List.not_mem_nil, or_false] at there
    rcases there with rfl | rfl
    · exact handler_ordinary
    · exact payload_ordinary.grows next₁.grows
  refine here.bind (alike_view here (v := .bind handler (.position 0) payload) rfl fits) ?_
  rintro applied _ t₂ t₂' here next₂ ⟨rfl, applied_ordinary⟩
  exact (asked (.dataize applied) here applied_ordinary).weaken fun _ answered => answered.1

theorem alike_runFinally (here : L.At frame frame' s s') (ordinary : s.heap.Ordinary p r) :
    L.Ends (fun _ _ _ _ => True) s s' (runFinally ask r frame s)
      (runFinally ask' (L.place r) frame' s') := by
  refine here.bind (alike_partOf asked here ordinary "finally") ?_
  rintro final _ t₁ t₁' here next₁ ⟨rfl, final_ordinary⟩
  refine here.bind (asked (.dataize final) here final_ordinary) ?_
  intro _ _ t₂ t₂' here next₂ _
  exact here.answer trivial

/-- A raise is aimed at the attempt in both runs or in neither. -/
theorem alike_handle (here : L.At frame frame' s s') (ordinary : s.heap.Ordinary p r)
    {outcome outcome' : Except Failure Value}
    (seen : L.Seen (fun v v' t _ => L.SameValue v v' t) outcome outcome' s s') :
    L.Ends (L.Seen fun v v' t _ => L.SameValue v v' t) s s' (handle ask r outcome frame s)
      (handle ask' (L.place r) outcome' frame' s') := by
  cases seen with
  | ok same => exact here.answer (.ok same)
  | error fails =>
      cases fails with
      | @raise v v' payload same payload_ordinary =>
          have aimed : (v' == s'.heap.vertex (L.place r)) = (v == s.heap.vertex r) := by
            obtain ⟨target, exist, rfl, rfl⟩ := same
            rw [Bool.eq_iff_iff, beq_iff_eq, beq_iff_eq]
            exact L.vertex here.alike exist ordinary.exist
          refine .reads (vertex_apply r _ _) (vertex_apply _ _ _) ?_
          rw [aimed]
          split
          · exact here.observe (alike_runCatch asked here ordinary payload_ordinary)
          · exact here.answer (.error (.raise same payload_ordinary))
      | _ => exact here.answer (.error (by constructor <;> assumption))

omit asked in
theorem Seen.outcomeRefs {outcome outcome' : Except Failure Value}
    (seen : L.Seen (fun v v' t _ => L.SameValue v v' t) outcome outcome' s s') :
    outcomeRefs outcome' = (PhiCalculus.outcomeRefs outcome).map L.place ∧
      ∀ x ∈ PhiCalculus.outcomeRefs outcome, s.heap.Ordinary p x := by
  cases seen with
  | ok same =>
      obtain ⟨rfl, items⟩ := same
      exact ⟨Value.items_rename _, items⟩
  | error fails =>
      cases fails with
      | raise same payload => exact ⟨rfl, by simpa [PhiCalculus.outcomeRefs] using payload⟩
      | _ => exact ⟨rfl, by simp [PhiCalculus.outcomeRefs]⟩

omit asked in
theorem Seen.grows {outcome outcome' : Except Failure Value}
    (seen : L.Seen (fun v v' t _ => L.SameValue v v' t) outcome outcome' s s')
    (alike : L.alike s s') (next : L.Then s s' t t') :
    L.Seen (fun v v' t _ => L.SameValue v v' t) outcome outcome' t t' := by
  cases seen with
  | ok same => exact .ok (same.grows next)
  | error fails => exact .error (fails.grows alike next)

/-- **Attempts end alike.** -/
theorem alike_attempt (here : L.At frame frame' s s') (ordinary : s.heap.Ordinary p r) :
    L.Ends (fun o o' t _ => L.Same o o' t) s s' (attempt ask r frame s)
      (attempt ask' (L.place r) frame' s') := by
  refine here.recover (alike_runMain asked here ordinary) ?_
  intro main main' t₁ t₁' here next₁ seen
  have ordinary := ordinary.grows next₁.grows
  refine here.bind (alike_handle asked here ordinary seen) ?_
  intro outcome outcome' t₂ t₂' here next₂ seen
  have ordinary := ordinary.grows next₂.grows
  obtain ⟨same, exist⟩ := seen.outcomeRefs
  refine here.bind (here.hold (fun x there => (exist x there).exist) same fun here =>
    alike_runFinally asked here ordinary) ?_
  rintro _ _ t₃ t₃' here' next₃ -
  refine here'.bind (here'.conclude (seen.grows here.alike next₃)) ?_
  intro v v' t₄ t₄' here next₄ same
  exact alike_data here same

/-! ## Expressions -/

theorem alike_evalAll (here : L.At frame frame' s s') {items : List Expr}
    (fits : ∀ e ∈ items, Request.Fits p s.heap (.eval e self)) :
    L.Ends (fun refs refs' t _ => L.AllSame refs refs' t) s s' (evalAll ask self items frame s)
      (evalAll ask' (L.place self) items frame' s') := by
  induction items generalizing frame frame' s s' with
  | nil => exact here.answer ⟨rfl, by simp⟩
  | cons e rest ih =>
      refine here.bind (asked (.eval e self) here (fits e List.mem_cons_self)) ?_
      rintro r _ t₁ t₁' here next₁ ⟨⟨rfl, ordinary⟩, -⟩
      refine here.bind (here.hold (exist_one ordinary.exist) rfl fun here => ih here ?_) ?_
      · exact fun e there => Request.Fits.grows (fits e (List.mem_cons_of_mem _ there)) next₁.grows
      rintro refs _ t₂ t₂' here next₂ ⟨rfl, all⟩
      exact here.answer ⟨rfl, List.forall_mem_cons.mpr ⟨ordinary.grows next₂.grows, all⟩⟩

/-- A new instance of an abstraction is written in the abstraction of its self. -/
theorem alike_buildObject (here : L.At frame frame' s s') (ordinary : s.heap.Ordinary p self)
    {decl inner : Declared} {outer : List Declared} {form name : String} {origin : Expr}
    (plays : s.heap.Plays p (.abstraction (decl :: outer)) self) (scopes : p.Scopes (decl :: outer))
    (declared : (name, .once origin) ∈ decl) (part : origin.Part (.build form (some .self) inner))
    (plain : inner.Plain) :
    L.Ends (fun o o' t _ => L.Same o o' t) s s'
      (buildObject ask self form (some .self) inner frame s)
      (buildObject ask' (L.place self) form (some .self) inner frame' s') := by
  have fits : Request.Fits p s.heap (.eval .self self) :=
    ⟨ordinary, _, plays, name, origin, part.home, .inl declared⟩
  refine here.bind (asked (.eval .self self) here fits) ?_
  rintro home _ t t' here next ⟨⟨rfl, home_ordinary⟩, is⟩
  cases is rfl
  simp only [evalSlots_plain _ _ plain]
  have empty : ∀ name s, (name, s) ∈ declareAll [] inner → s.shown = [] :=
    shown_declareAll (by simp)
  have renamed : Kind.table ⟨form, some (L.place self), none, declareAll [] inner⟩ =
      Kind.rename L.place (.table ⟨form, some self, none, declareAll [] inner⟩) := by
    simp only [Kind.rename, Table.rename, Slots.rename_of_shown empty, Option.map_some,
      Option.map_none]
  refine (alike_alloc here renamed ?_).weaken fun _ new => new.same
  refine here.fits.allocTable (.abstraction (inner :: decl :: outer)) ?_ rfl ?_
  · have grown := next.grows.trans (t.grows_alloc
      (.table ⟨form, some self, none, declareAll [] inner⟩))
    exact .inner ⟨_, t.kind_alloc _, rfl, Slots.Of.nil.declareAll plain⟩
      (scopes.inner declared part) (ordinary.grows grown) home_ordinary.exist
      (plays.grows ordinary.exist grown)
  · intro n slot there x shown
    rw [empty n slot there] at shown
    cases shown

theorem alike_native (here : L.At frame frame' s s') (ordinary : s.heap.Ordinary p self)
    {role : Role} (plays : s.heap.Plays p role self) {n : Native} (whole : role.native? = some n) :
    L.Ends (fun o o' t _ => L.Same o o' t) s s' (native ask self n frame s)
      (native ask' (L.place self) n frame' s') := by
  cases role with
  | abstraction scopes => cases whole
  | attempt =>
      cases whole
      exact alike_attempt asked here ordinary
  | signal =>
      cases whole
      exact alike_signal asked here ordinary
  | method m =>
      cases whole
      exact alike_methodResult asked here ordinary plays

/-- **Expressions end alike.** -/
theorem alike_evalExpr (here : L.At frame frame' s s') {e : Expr}
    (fits : Request.Fits p s.heap (.eval e self)) :
    L.Ends (L.Answered (.eval e self)) s s' (evalExpr ask self e frame s)
      (evalExpr ask' (L.place self) e frame' s') := by
  obtain ⟨ordinary, role, plays, computes⟩ := fits
  -- what is not `self` only has to end in objects that correspond
  suffices ends : e ≠ .self → L.Ends (fun o o' t _ => L.Same o o' t) s s'
      (evalExpr ask self e frame s) (evalExpr ask' (L.place self) e frame' s') by
    by_cases is : e = .self
    · subst is
      exact here.answer ⟨⟨rfl, ordinary⟩, fun _ => rfl⟩
    · exact (ends is).weaken fun _ same => ⟨same, fun same => absurd same is⟩
  intro other
  have fits {e' : Expr} (step : ∀ {whole : Expr}, whole.Part e → whole.Part e') :
      Request.Fits p s.heap (.eval e' self) := ⟨ordinary, role, plays, computes.part step⟩
  rcases plays.evaluates here.fits.checked computes with
    ⟨decl, outer, name, origin, rfl, scopes, declared, part, written⟩ | ⟨n, whole, rfl⟩
  · cases written with
    | self => exact absurd rfl other
    | @literal type text tag v known read =>
        simp only [evalExpr, literal_eq_data known read]
        exact alike_dataScalar here (Value.items_of_parse read)
    | @array items written =>
        refine here.bind (alike_evalAll asked here fun e there => fits (.item · there)) ?_
        rintro refs _ t t' here next ⟨rfl, all⟩
        exact alike_data here ⟨rfl, all⟩
    | name n => exact alike_lookUp asked here ordinary plays n
    | @get e name written =>
        refine here.bind (asked (.eval e self) here (fits .get)) ?_
        rintro r _ t₁ t₁' here next₁ ⟨⟨rfl, ordinary⟩, -⟩
        refine here.bind (asked (.find r name) here ordinary) ?_
        rintro place _ t₂ t₂' here next₂ ⟨rfl, fits, -⟩
        refine here.hold (exist_one (ordinary.grows next₂.grows).exist) rfl fun here => ?_
        exact (asked (.read place) here fits).weaken fun _ same => same.1
    | @method e name written =>
        refine here.bind (asked (.eval e self) here (fits .method)) ?_
        rintro r _ t t' here next ⟨⟨rfl, ordinary⟩, -⟩
        exact alike_view here rfl (by simpa [View.Fits, View.refs] using ordinary)
    | @bind base value key _ _ =>
        refine here.bind (asked (.eval base self) here (fits .base)) ?_
        rintro r _ t₁ t₁' here next₁ ⟨⟨rfl, base_ordinary⟩, -⟩
        refine here.bind (here.hold (exist_one base_ordinary.exist) rfl fun here =>
          asked (.eval value self) here (Request.Fits.grows (fits .argument) next₁.grows)) ?_
        rintro o _ t₂ t₂' here next₂ ⟨⟨rfl, value_ordinary⟩, -⟩
        refine alike_view here rfl ?_
        simpa [View.Fits, View.refs] using ⟨base_ordinary.grows next₂.grows, value_ordinary⟩
    | @copied e written =>
        refine here.bind (asked (.eval e self) here (fits .copied)) ?_
        rintro r _ t t' here next ⟨⟨rfl, ordinary⟩, -⟩
        exact alike_view here rfl ordinary.exist
    | @unvar e written =>
        refine here.bind (asked (.eval e self) here (fits .unvar)) ?_
        rintro r _ t t' here next ⟨⟨rfl, ordinary⟩, -⟩
        exact alike_view here rfl (by simpa [View.Fits, View.refs] using ordinary)
    | build plain _ => exact alike_buildObject asked here ordinary plays scopes declared part plain
  · exact alike_native asked here ordinary plays whole

/-! ## Requests and runs -/

theorem alike_answer : L.Asks (answer ask) (answer ask') := by
  intro α q frame frame' s s' here fits
  refine here.hold (Request.Fits.refs fits) (Request.refs_rename L.place q) fun here => ?_
  cases q with
  | find r name => exact alike_findPlace asked here fits name
  | read place => exact alike_readPlace asked here fits
  | resolve r => exact alike_resolveView asked here fits
  | dataize r => exact alike_dataizeObject asked here fits
  | eval e self => exact alike_evalExpr asked here fits

theorem alike_globalValue (here : L.At frame frame' s s') {name : String}
    (global : (p.base.global? name).isSome = true) :
    L.Ends (fun v v' t _ => L.SameValue v v' t) s s' (globalValue ask name frame s)
      (globalValue ask' name frame' s') := by
  obtain ⟨root, named⟩ := Option.isSome_iff_exists.mp global
  have named : s.global? name = some root := by
    rw [State.global?, here.fits.globals]
    exact named
  have exist := here.fits.exist_of_global named
  refine .reads (asks_apply _ _ _) (asks_apply _ _ _) ?_
  rw [L.global? name here.alike, named]
  refine here.bind (here.hold (exist_one exist) rfl fun here => alike_copyOf asked here exist) ?_
  rintro copy _ t t' here next ⟨⟨rfl, ordinary⟩, -, -⟩
  refine here.hold (exist_one (Nat.lt_of_lt_of_le exist next.grows.size)) rfl fun here => ?_
  exact (asked (.dataize copy) here ordinary).weaken fun _ answered => answered.1

end

variable (L)

/-- **Requests that correspond are answered alike**, however deep they may nest. -/
theorem asks_answerWithin (steps : Nat) : L.Asks (answerWithin steps) (answerWithin steps) := by
  induction steps with
  | zero => exact fun _ _ _ _ _ here _ => .unfinished here.stay
  | succ steps ih => exact alike_answer ih

end Likeness

end PhiCalculus
