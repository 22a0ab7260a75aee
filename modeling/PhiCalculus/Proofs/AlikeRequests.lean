import PhiCalculus.Proofs.AlikeLookup

/-!
# Values of objects that are alike

Dataizing objects that are alike and computing the results of methods end alike, if the requests
that they make are answered alike.

The receiver of a method is a value of the type that has the method, so that asking for it never
gives another type (`Likeness.alike_fetchTyped`).
-/

set_option autoImplicit false

namespace PhiCalculus

open PhiCalculus.Action

/-! ## Receivers -/

/-- The type whose values have the method; every type has equality. -/
def Method.receiver : Method → Option TypeTag
  | eq => none
  | int _ => some .int
  | float _ => some .float
  | negation => some .bool
  | conjunction => some .bool
  | disjunction => some .bool
  | choose => some .bool
  | stringLength => some .string
  | concat => some .string
  | bytesSize => some .bytes
  | arrayLength => some .array
  | element => some .array
  | find => some .regex

theorem Method.receiver_of_name {tag : TypeTag} {name : String} {m : Method}
    (named : Method.ofName? tag name = some m) : ∀ expected ∈ m.receiver, tag = expected := by
  intro expected is
  rw [Method.ofName?] at named
  split at named
  · cases named
    cases is
  · unfold Method.ofType? at named
    split at named <;> simp_all [Method.receiver]
    all_goals obtain ⟨op, -, rfl⟩ := named
    all_goals simpa [Method.receiver] using is

/-- The object is a method of a value of that type. -/
def Heap.Receives (h : Heap) (r : Ref) (tag : TypeTag) : Prop :=
  ∃ home v, (h.cell r).home? = some home ∧ (h.cell home).kind = .data v ∧ v.tag = tag

theorem Heap.Plays.receives {p : Program} {h : Heap} {m : Method} {r : Ref}
    (plays : h.Plays p (.method m) r) {tag : TypeTag} (expected : m.receiver = some tag) :
    h.Receives r tag := by
  cases plays with
  | @method _ _ v home _ made _ kind named =>
      obtain ⟨t, isTable, homed, -⟩ := made
      refine ⟨home, v, ?_, kind, Method.receiver_of_name named tag expected⟩
      rw [Cell.home?, isTable]
      exact homed

/-! ## Values that refer to nothing -/

theorem Value.rename_of_items {σ : Ref → Ref} (v : Value) (none : v.items = []) :
    v.rename σ = v := by
  cases v with
  | array items => rw [show items = [] from none]; rfl
  | _ => rfl

/-- Every value of the type has the part, and refers to nothing. -/
def TypeTag.Scalar {α : Type} (tag : TypeTag) (part : Value → Option α) : Prop :=
  ∀ v : Value, v.tag = tag → v.items = [] ∧ ∃ a, part v = some a

namespace TypeTag.Scalar

theorem int : Scalar .int fun | .int n => some n | _ => none := by
  intro v right
  cases v <;> cases right
  exact ⟨rfl, _, rfl⟩

theorem float : Scalar .float fun | .float x => some x | _ => none := by
  intro v right
  cases v <;> cases right
  exact ⟨rfl, _, rfl⟩

theorem bool : Scalar .bool fun | .bool b => some b | _ => none := by
  intro v right
  cases v <;> cases right
  exact ⟨rfl, _, rfl⟩

theorem string : Scalar .string fun | .string s => some s | _ => none := by
  intro v right
  cases v <;> cases right
  exact ⟨rfl, _, rfl⟩

theorem bytes : Scalar .bytes fun | .bytes bs => some bs | _ => none := by
  intro v right
  cases v <;> cases right
  exact ⟨rfl, _, rfl⟩

theorem regex : Scalar .regex fun | .regex p => some p | _ => none := by
  intro v right
  cases v <;> cases right
  exact ⟨rfl, _, rfl⟩

end TypeTag.Scalar

namespace Likeness

variable {p : Program} {L : Likeness p} {r o : Ref} {frame frame' : Frame} {s s' t t' : State}

section

variable {ask ask' : Answerer} (asked : L.Asks ask ask') (here : L.At frame frame' s s')
include here

/-! ## Dataization -/

theorem alike_valueTerm? {v : Value} (items : ∀ x ∈ v.items, s.heap.Ordinary p x) :
    s'.heap.valueTerm? (v.rename L.place) = s.heap.valueTerm? v := by
  have same : (v.items.map L.place).mapM s'.heap.term? = v.items.mapM s.heap.term? :=
    mapM_map_eq fun x there => L.term? here.alike here.fits (items x there).exist
  have shown : (v.rename L.place).termOf = v.termOf := funext v.termOf_rename
  rw [Heap.valueTerm?, Heap.valueTerm?, Value.items_rename, same, shown]

/-- A term that both runs need is the same, or both are cut short. -/
theorem alike_finite {α : Type} {f f' : State → Option String} (same : f' s' = f s)
    {post : α → α → State → State → Prop} {k k' : String → Action α}
    (rest : ∀ text, L.Ends post s s' (k text frame s) (k' text frame' s')) :
    L.Ends post s s' ((finite f >>= k) frame s) ((finite f' >>= k') frame' s') := by
  rw [bind_apply, bind_apply, finite, finite, same]
  cases f s with
  | none => exact .unfinished here.stay
  | some text => exact rest text

/-- A term that only the first run needs is there, or that run is cut short. -/
theorem alike_finite_silent {α : Type} (silent : L.silent = true) {f : State → Option String}
    {post : α → α → State → State → Prop} {k : String → Action α} {o' : Outcome α}
    (rest : ∀ text, L.Ends post s s' (k text frame s) o') :
    L.Ends post s s' ((finite f >>= k) frame s) o' := by
  rw [bind_apply, finite]
  cases f s with
  | none => exact .cut silent here.fits
  | some text => exact rest text

/-- The second run leaves a line if the first one does, unless it is silent. -/
theorem alike_leaveLine (depth : Nat) {v : Value} (exist : r.index < s.heap.size)
    (items : ∀ x ∈ v.items, s.heap.Ordinary p x) :
    L.Ends (fun _ _ _ _ => True) s s' (leaveLine depth r v frame s)
      ((bif L.silent then pure () else
        leaveLine depth (L.place r) (v.rename L.place) : Action Unit) frame' s') := by
  have line (text : String) := L.trace text here.alike
  have next {line : String} {t' : State} (heap : t'.heap = s'.heap)
      (alike : L.alike { s with trace := line :: s.trace } t') :
      L.Then s s' { s with trace := line :: s.trace } t' :=
    ⟨alike, here.fits.of_heap rfl rfl, Heap.Grows.refl _, heap ▸ Heap.Grows.refl _⟩
  cases silent : L.silent with
  | true =>
      rw [silent] at line
      refine alike_finite_silent here silent fun term => ?_
      refine alike_finite_silent here silent fun value => ?_
      exact .answer (next rfl (line _)) trivial
  | false =>
      rw [silent] at line
      refine alike_finite here (L.term? here.alike here.fits exist) fun term => ?_
      refine alike_finite here (alike_valueTerm? here items) fun value => ?_
      exact .answer (next rfl (line _)) trivial

/-- What goes on alike ends alike after a line was left in the trace, where there is one. -/
theorem alike_traced {α : Type} {post : α → α → State → State → Prop} {x x' : Action α}
    (depth : Nat) {v : Value} (exist : r.index < s.heap.size)
    (items : ∀ x ∈ v.items, s.heap.Ordinary p x)
    (rest : ∀ {t t'}, L.At frame frame' t t' → L.Then s s' t t' →
      L.Ends post t t' (x frame t) (x' frame' t')) :
    L.Ends post s s' ((if frame.tracing then leaveLine depth r v >>= fun _ => x else x) frame s)
      ((if frame'.tracing then leaveLine depth (L.place r) (v.rename L.place) >>= fun _ => x'
        else x') frame' s') := by
  rw [here.tracing]
  cases frame.tracing with
  | false => exact rest here here.stay
  | true =>
      have line : L.Ends post s s' ((leaveLine depth r v >>= fun _ => x) frame s)
          (((bif L.silent then pure () else leaveLine depth (L.place r) (v.rename L.place)
            : Action Unit) >>= fun _ => x') frame' s') :=
        here.bind (alike_leaveLine here depth exist items) fun here next _ => rest here next
      cases silent : L.silent with
      | true => rwa [silent] at line
      | false => rwa [silent] at line

theorem alike_place {post : Value → Value → State → State → Prop} (exist : r.index < s.heap.size)
    {f f' : Failure} (fails : L.Fails s s' f f') :
    L.Ends post s s' (PhiCalculus.place r f frame s)
      (PhiCalculus.place (L.place r) f' frame' s') := by
  rw [PhiCalculus.place, PhiCalculus.place, fails.isRaise, fails.isPlaced]
  split
  · exact here.failure fails
  · refine alike_finite here (L.term? here.alike here.fits exist) fun term => ?_
    exact here.failure (.during term fails)

include asked

theorem alike_findData (ordinary : s.heap.Ordinary p r) :
    L.Ends (fun place place' t _ => place' = place.rename L.place ∧ place.Fits p t.heap) s s'
      (findData ask r frame s) (findData ask' (L.place r) frame' s') := by
  refine here.recover (asked (.find r delta) here ordinary) ?_
  intro e e' t t' here _ seen
  cases seen with
  | ok found => exact here.answer ⟨found.1, found.2.1⟩
  | error fails =>
      cases fails with
      | noSuchAttribute same =>
          dsimp only
          split
          · exact here.failure (.notData same .missing)
          · exact here.failure (.noSuchAttribute same)
      | notYetBound same => exact here.failure (.notYetBound same)
      | alreadyBound plain same => exact here.failure (.alreadyBound plain same)
      | notData same reason => exact here.failure (.notData same reason)
      | typeMismatch expected found plain => exact here.failure (.typeMismatch expected found plain)
      | raise same payload => exact here.failure (.raise same payload)
      | divisionByZero n => exact here.failure (.divisionByZero n)
      | outOfBounds index size => exact here.failure (.outOfBounds index size)
      | homeGone same => exact here.failure (.homeGone same)
      | during term fails => exact here.failure (.during term fails)

theorem alike_forceValue (ordinary : s.heap.Ordinary p r) :
    L.Ends (L.Answered (.dataize r)) s s' (forceValue ask r frame s)
      (forceValue ask' (L.place r) frame' s') := by
  refine .reads (cell_apply _ _ _) (cell_apply _ _ _) ?_
  rw [Cell.value?_of_rename (here.kind ordinary.exist)]
  have value {v : Value} {x : Ref} {t t' : State} (here : L.At frame frame' t t')
      (found : (t.heap.cell x).value? = some v) : L.SameValue v (v.rename L.place) t :=
    ⟨rfl, fun _ there => here.fits.ordinary_of_items (Heap.kind_of_value? found) there⟩
  cases found : (s.heap.cell r).value? with
  | some v =>
      refine here.answer ⟨value here found, fun w kind => ?_⟩
      rw [Cell.value?, kind] at found
      exact (Option.some.inj found).symm
  | none =>
      refine here.bind (alike_findData asked here ordinary) ?_
      rintro place _ t₁ t₁' here next₁ ⟨rfl, fits⟩
      refine here.bind (asked (.read place) here fits) ?_
      rintro x _ t₂ t₂' here next₂ ⟨⟨rfl, x_ordinary⟩, -⟩
      have next := next₁.trans next₂
      refine .reads (cell_apply _ _ _) (cell_apply _ _ _) ?_
      rw [Cell.value?_of_rename (here.kind x_ordinary.exist)]
      cases read : (t₂.heap.cell x).value? with
      | some v =>
          refine here.answer ⟨value here read, fun w kind => ?_⟩
          have before := Heap.kind_data_before kind ordinary.exist next.grows
          rw [Cell.value?, before] at found
          cases found
      | none =>
          have still := ordinary.grows next.grows
          exact here.failure (.notData (here.subject still.exist)
            (.holds (here.subject x_ordinary.exist)))

theorem alike_dataizeObject (ordinary : s.heap.Ordinary p r) :
    L.Ends (L.Answered (.dataize r)) s s' (dataizeObject ask r frame s)
      (dataizeObject ask' (L.place r) frame' s') := by
  refine .reads (frame_apply _ _) (frame_apply _ _) ?_
  refine here.recover (alike_forceValue asked here.deeper ordinary) ?_
  intro e e' t t' here next seen
  have exist := (ordinary.grows next.grows).exist
  cases seen with
  | error fails => exact alike_place here exist fails
  | @ok v v' _ _ answered =>
      obtain ⟨⟨rfl, items⟩, own⟩ := answered
      dsimp only
      rw [here.depth]
      refine alike_traced here frame.depth exist items fun here next' => ?_
      exact here.answer ⟨⟨rfl, fun x there => (items x there).grows next'.grows⟩,
        fun w kind => own w (Heap.kind_data_before kind exist next'.grows)⟩

/-! ## Parameters -/

theorem alike_fetch (ordinary : s.heap.Ordinary p r) (attr : String) :
    L.Ends (fun v v' t _ => L.SameValue v v' t ∧
        (attr = sigma → ∀ tag, s.heap.Receives r tag → v.tag = tag)) s s'
      (fetch ask r attr frame s) (fetch ask' (L.place r) attr frame' s') := by
  refine here.bind (asked (.find r attr) here ordinary) ?_
  rintro place _ t₁ t₁' here next₁ ⟨rfl, fits, homed⟩
  have here := here.holding fits.refs
  rw [hold_apply, hold_apply, Place.refs_rename]
  refine here.bind (asked (.read place) here fits) ?_
  rintro x _ t₂ t₂' here next₂ ⟨⟨rfl, ordinary'⟩, content⟩
  refine (asked (.dataize x) here ordinary').weaken ?_
  rintro v v' t₃ t₃' next₃ ⟨same, own⟩
  refine ⟨same, fun is tag ⟨home, w, receives, kind, tagged⟩ => ?_⟩
  -- the home of a method is a value, which is its own value
  have exist : home.index < s.heap.size :=
    Heap.lt_size_of_isData (by simp [Cell.isData, Cell.value?, kind])
  have kept := ((next₁.grows.cell r ordinary.exist).home?).trans receives
  have value := Heap.kind_data_of_grows kind exist ((next₁.trans next₂).trans next₃).grows
  cases isTable : (t₁.heap.cell r).kind with
  | data _ => rw [Cell.home?, isTable] at kept; cases kept
  | view _ _ => rw [Cell.home?, isTable] at kept; cases kept
  | table table =>
      obtain ⟨found, at', rfl⟩ := homed is table isTable
      rw [Cell.home?, isTable] at kept
      cases at'.symm.trans kept
      cases content r sigma home rfl
      rw [own w value, tagged]

/-- Asking a method for its receiver gives the right type. -/
theorem alike_fetchTyped (ordinary : s.heap.Ordinary p r) {attr : String} {tag : TypeTag}
    (receives : attr = sigma → s.heap.Receives r tag) :
    L.Ends (fun v v' t _ => L.SameValue v v' t ∧ v.tag = tag) s s'
      (fetchTyped ask r attr tag frame s) (fetchTyped ask' (L.place r) attr tag frame' s') := by
  refine here.bind (alike_fetch asked here ordinary attr) ?_
  rintro v v' t t' here next ⟨⟨rfl, items⟩, received⟩
  simp only [Value.tag_rename]
  split
  · next right => exact here.answer ⟨⟨rfl, items⟩, beq_iff_eq.mp right⟩
  · next wrong =>
    refine here.failure (.typeMismatch tag v.tag fun is => wrong ?_)
    exact beq_iff_eq.mpr (received is tag (receives is))

/-- A part that every value of the type has. -/
theorem alike_fetchAs {α : Type} {post : α → α → State → State → Prop} {part : Value → Option α}
    (ordinary : s.heap.Ordinary p r) {attr : String} {tag : TypeTag}
    (receives : attr = sigma → s.heap.Receives r tag)
    (parts : ∀ {v t t'}, v.tag = tag → L.SameValue v (v.rename L.place) t →
      ∃ a a', part v = some a ∧ part (v.rename L.place) = some a' ∧ post a a' t t') :
    L.Ends post s s' (fetchAs ask r attr tag part frame s)
      (fetchAs ask' (L.place r) attr tag part frame' s') := by
  refine here.bind (alike_fetchTyped asked here ordinary receives) ?_
  rintro v v' t t' here next ⟨⟨rfl, items⟩, right⟩
  obtain ⟨a, a', has, has', holds⟩ := @parts v t t' right ⟨rfl, items⟩
  rw [has, has']
  exact here.answer holds

/-- A part of a value that refers to nothing is the same in both runs. -/
theorem alike_scalar {α : Type} {part : Value → Option α} (ordinary : s.heap.Ordinary p r)
    {attr : String} {tag : TypeTag} (receives : attr = sigma → s.heap.Receives r tag)
    (scalar : tag.Scalar part) :
    L.Ends (fun a a' _ _ => a' = a) s s' (fetchAs ask r attr tag part frame s)
      (fetchAs ask' (L.place r) attr tag part frame' s') := by
  refine alike_fetchAs asked here ordinary receives fun {v _ _} right _ => ?_
  obtain ⟨none, a, has⟩ := scalar v right
  exact ⟨a, a, has, by rw [v.rename_of_items none, has], rfl⟩

theorem alike_fetchArray (ordinary : s.heap.Ordinary p r) {attr : String}
    (receives : attr = sigma → s.heap.Receives r .array) :
    L.Ends (fun items items' t _ => L.AllSame items items' t) s s' (fetchArray ask r attr frame s)
      (fetchArray ask' (L.place r) attr frame' s') := by
  refine alike_fetchAs asked here ordinary receives fun {v _ _} right same => ?_
  cases v with
  | array items => exact ⟨items, items.map L.place, rfl, rfl, rfl, same.2⟩
  | _ => cases right

end

/-- A value that refers to nothing. -/
theorem sameValue_of_items {v : Value} (none : v.items = []) : L.SameValue v v s :=
  ⟨(v.rename_of_items none).symm, by simp [none]⟩

section

variable {ask ask' : Answerer} (asked : L.Asks ask ask') (here : L.At frame frame' s s')
include here

/-! ## Methods -/

theorem alike_dataScalar {v : Value} (none : v.items = []) :
    L.Ends (fun o o' t _ => L.Same o o' t) s s' (Action.data v frame s)
      (Action.data v frame' s') := alike_data here (sameValue_of_items none)

theorem alike_stringObjects (texts : List String) :
    L.Ends (fun refs refs' t _ => L.AllSame refs refs' t) s s' (stringObjects texts frame s)
      (stringObjects texts frame' s') := by
  induction texts generalizing s s' with
  | nil => exact here.answer ⟨rfl, by simp⟩
  | cons text rest ih =>
      refine here.bind (alike_dataScalar here rfl) ?_
      rintro r _ t₁ t₁' here next₁ ⟨rfl, ordinary⟩
      refine here.bind (ih here) ?_
      rintro refs _ t₂ t₂' here next₂ ⟨rfl, all⟩
      exact here.answer ⟨rfl, List.forall_mem_cons.mpr ⟨ordinary.grows next₂.grows, all⟩⟩

theorem alike_integerResult (op : Arithmetic) (a b : Int64) :
    L.Ends (fun o o' t _ => L.Same o o' t) s s'
      ((conclude (integerResult op a b) >>= Action.data) frame s)
      ((conclude (integerResult op a b) >>= Action.data) frame' s') := by
  have scalar {v : Value} (none : v.items = []) :
      L.Ends (fun o o' t _ => L.Same o o' t) s s' ((conclude (.ok v) >>= Action.data) frame s)
        ((conclude (.ok v) >>= Action.data) frame' s') := alike_dataScalar here none
  cases op with
  | div =>
      unfold integerResult
      dsimp only
      split
      · exact here.failure (.divisionByZero a)
      · refine scalar ?_
        rfl
  | _ =>
      refine scalar ?_
      rfl

omit here in
theorem realResult_items (op : Arithmetic) (a b : Float) : (realResult op a b).items = [] := by
  cases op <;> rfl

omit here in
theorem elementAt_rename {items : List Ref} (index : Int64)
    (ordinary : ∀ x ∈ items, t.heap.Ordinary p x) :
    L.Seen (fun o o' t _ => L.Same o o' t) (elementAt items index)
      (elementAt (items.map L.place) index) t t' := by
  have out : L.Seen (fun o o' t _ => L.Same o o' t) (.error (.outOfBounds index items.length))
      (.error (.outOfBounds index items.length)) t t' := .error (.outOfBounds _ _)
  rw [elementAt, elementAt, List.length_map]
  split
  · exact out
  · rw [List.getElem?_map]
    cases found : items[index.toInt.toNat]? with
    | none => exact out
    | some item => exact .ok ⟨rfl, ordinary item (List.mem_of_getElem? found)⟩

include asked

/-- A method without arguments, of a value that refers to nothing. -/
theorem alike_unary {α : Type} {tag : TypeTag} {part : Value → Option α} {result : α → Action Ref}
    (ordinary : s.heap.Ordinary p r) (receives : s.heap.Receives r tag) (scalar : tag.Scalar part)
    (gives : ∀ a {t t'}, L.At frame frame' t t' →
      L.Ends (fun o o' t _ => L.Same o o' t) t t' (result a frame t) (result a frame' t')) :
    L.Ends (fun o o' t _ => L.Same o o' t) s s' ((fetchAs ask r sigma tag part >>= result) frame s)
      ((fetchAs ask' (L.place r) sigma tag part >>= result) frame' s') := by
  refine here.bind (alike_scalar asked here ordinary (fun _ => receives) scalar) ?_
  rintro a _ t t' here - rfl
  exact gives _ here

/-- A method with one argument, of values that refer to nothing. -/
theorem alike_binary {α β : Type} {argument : String} {tag tag' : TypeTag}
    {part : Value → Option α} {part' : Value → Option β} {result : α → β → Action Ref}
    (ordinary : s.heap.Ordinary p r) (receives : s.heap.Receives r tag)
    (plain : argument ≠ sigma) (scalar : tag.Scalar part) (scalar' : tag'.Scalar part')
    (gives : ∀ a b {t t'}, L.At frame frame' t t' →
      L.Ends (fun o o' t _ => L.Same o o' t) t t' (result a b frame t) (result a b frame' t')) :
    L.Ends (fun o o' t _ => L.Same o o' t) s s'
      ((fetchAs ask r sigma tag part >>= fun a =>
        fetchAs ask r argument tag' part' >>= fun b => result a b) frame s)
      ((fetchAs ask' (L.place r) sigma tag part >>= fun a =>
        fetchAs ask' (L.place r) argument tag' part' >>= fun b => result a b) frame' s') := by
  refine here.bind (alike_scalar asked here ordinary (fun _ => receives) scalar) ?_
  rintro a _ t₁ t₁' here next rfl
  refine here.bind (alike_scalar asked here (ordinary.grows next.grows)
    (fun is => absurd is plain) scalar') ?_
  rintro b _ t₂ t₂' here - rfl
  exact gives _ _ here

/-- **Methods end alike, and never find a receiver of another type.** -/
theorem alike_methodResult {m : Method} (ordinary : s.heap.Ordinary p r)
    (plays : s.heap.Plays p (.method m) r) :
    L.Ends (fun o o' t _ => L.Same o o' t) s s' (methodResult ask m r frame s)
      (methodResult ask' m (L.place r) frame' s') := by
  have receiver {tag : TypeTag} (expected : m.receiver = some tag) : s.heap.Receives r tag :=
    plays.receives expected
  -- results without elements
  have gives {v : Value} (none : v.items = []) {t t' : State} (here : L.At frame frame' t t') :
      L.Ends (fun o o' t _ => L.Same o o' t) t t' (Action.data v frame t)
        (Action.data v frame' t') := alike_dataScalar here none
  cases m with
  | eq =>
      refine here.bind (alike_fetch asked here ordinary sigma) ?_
      rintro a _ t₁ t₁' here next₁ ⟨⟨rfl, items⟩, -⟩
      have here' := here.holding fun x there => (items x there).exist
      rw [Value.items_rename]
      refine here.bind (alike_fetch asked here' (ordinary.grows next₁.grows) "x") ?_
      rintro b _ t₂ t₂' here next₂ ⟨⟨rfl, items'⟩, -⟩
      refine .reads (asks_apply _ _ _) (asks_apply _ _ _) ?_
      rw [Value.same_rename fun x there y there' => L.vertex here.alike
        ((items x there).grows next₂.grows).exist (items' y there').exist]
      exact gives rfl here
  | int op =>
      cases op with
      | neg => exact alike_unary asked here ordinary (receiver rfl) .int fun _ => gives rfl
      | _ =>
          exact alike_binary asked here ordinary (receiver rfl) (by decide) .int .int
            fun a b _ _ here => alike_integerResult here _ a b
  | float op =>
      cases op with
      | neg => exact alike_unary asked here ordinary (receiver rfl) .float fun _ => gives rfl
      | _ =>
          exact alike_binary asked here ordinary (receiver rfl) (by decide) .float
            .float fun a b => gives (realResult_items _ a b)
  | negation =>
      exact alike_unary asked here ordinary (receiver rfl) .bool fun _ => gives rfl
  | conjunction =>
      exact alike_binary asked here ordinary (receiver rfl) (by decide) .bool .bool
        fun _ _ => gives rfl
  | disjunction =>
      exact alike_binary asked here ordinary (receiver rfl) (by decide) .bool .bool
        fun _ _ => gives rfl
  | choose =>
      refine here.bind (alike_scalar asked here ordinary (fun _ => receiver rfl) .bool) ?_
      rintro a _ t₁ t₁' here next₁ rfl
      refine here.bind (asked (.find r _) here (ordinary.grows next₁.grows)) ?_
      rintro branch _ t₂ t₂' here - ⟨rfl, fits, -⟩
      exact (asked (.read branch) here fits).weaken fun _ same => same.1
  | stringLength =>
      exact alike_unary asked here ordinary (receiver rfl) .string fun _ => gives rfl
  | concat =>
      exact alike_binary asked here ordinary (receiver rfl) (by decide) .string
        .string fun _ _ => gives rfl
  | bytesSize =>
      exact alike_unary asked here ordinary (receiver rfl) .bytes fun _ => gives rfl
  | arrayLength =>
      refine here.bind (alike_fetchArray asked here ordinary fun _ => receiver rfl) ?_
      rintro items _ t t' here - ⟨rfl, -⟩
      rw [List.length_map]
      exact gives rfl here
  | element =>
      refine here.bind (alike_fetchArray asked here ordinary fun _ => receiver rfl) ?_
      rintro items _ t₁ t₁' here next₁ ⟨rfl, all⟩
      have here' := here.holding fun x there => (all x there).exist
      refine here.bind (alike_scalar asked here' (ordinary.grows next₁.grows)
        (fun is => absurd is (by decide)) .int) ?_
      rintro _ index t₂ t₂' here next₂ rfl
      exact here.conclude (elementAt_rename index fun x there => (all x there).grows next₂.grows)
  | find =>
      refine alike_binary asked here ordinary (receiver rfl) (by decide) .regex
        .string fun pattern text _ _ here => ?_
      refine here.bind (alike_stringObjects here _) ?_
      rintro found _ t t' here - ⟨rfl, all⟩
      exact alike_data here ⟨rfl, all⟩

end

end Likeness

end PhiCalculus
