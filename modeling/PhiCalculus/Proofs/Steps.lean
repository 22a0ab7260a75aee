import PhiCalculus.Proofs.Labels
import PhiCalculus.Proofs.Straight

/-!
# The steps of the evaluator

Every operation of the evaluator is made of requests and single changes.  What an operation changes
is said as precisely as it can be without knowing on which object it acts: looking things up,
dataizing, methods and expressions add objects; reading a slot also fills its cache; finding what a
view stands for, and attempts, may also write.

All of them go straight on but dataizations, which go one level deeper and look at the failure that
there is no such attribute, and attempts, which look at raises.  Everything else lets raises pass.
-/

set_option autoImplicit false

namespace PhiCalculus

open PhiCalculus.Action

/-! ## Operations on objects -/

theorem straight_settle (r : Ref) : Straight State.Creates fun ask => settle ask r :=
  .bind (.act (.cell r)) fun _ => .ite (.request _) (.act (.pure r))

theorem straight_copyConcrete (r : Ref) : Straight State.Creates fun _ => copyConcrete r := by
  unfold copyConcrete
  refine .bind (.act (.cell r)) fun ⟨_, kind⟩ => ?_
  cases kind with
  | table t => exact .act (.table _)
  | data v => exact .act (.pure r)
  | view v result => exact .act (.pure r)

theorem straight_copyOf (r : Ref) : Straight State.Creates fun ask => copyOf ask r :=
  .bind (straight_settle r) fun o => .hold [o] (straight_copyConcrete o)

theorem acts_ownConcrete (r owner : Ref) : (ownConcrete r owner).Acts State.Edits := by
  refine .of_state fun s => ?_
  simp only [ownConcrete, bind_apply, cell_apply]
  cases kind : (s.heap.cell r).kind with
  | table t =>
      have owned : (s.heap.cell r).owner? = t.owner := by simp only [Cell.owner?, kind]
      cases free : t.owner with
      | none =>
          simp only [free]
          exact ⟨_, fun _ => rfl, .answer (.own owner (owned.trans free)) rfl⟩
      | some _ =>
          simp only [free]
          exact ⟨_, fun _ => rfl, .failure (.creates (.refl s)) rfl rfl⟩
  | data _ => exact ⟨_, fun _ => rfl, .answer (.creates (.refl s)) rfl⟩
  | view _ _ => exact ⟨_, fun _ => rfl, .answer (.creates (.refl s)) rfl⟩

theorem straight_moveTo (r owner : Ref) : Straight State.Edits fun ask => moveTo ask r owner :=
  .bind ((straight_settle r).mono State.Creates.edits) fun o => .act (acts_ownConcrete o owner)

theorem straight_ownerOf (r : Ref) : Straight State.Creates fun ask => ownerOf ask r :=
  .bind (straight_settle r) fun _ => .act (.asks _)

theorem straight_ownPlace? (r : Ref) (name : String) :
    Straight State.Creates fun ask => ownPlace? ask r name :=
  .bind (straight_settle r) fun _ => .act (.asks _)

theorem straight_placeAt (r : Ref) (position : Nat) :
    Straight State.Creates fun ask => placeAt ask r position := by
  unfold placeAt
  refine .bind (straight_settle r) fun o => .bind (.act (.cell o)) fun c => ?_
  cases c.slots.openNames[position]? with
  | some name => exact .act (.pure _)
  | none => exact .act (.fail rfl)

theorem straight_placeOf (r : Ref) (key : Key) :
    Straight State.Creates fun ask => placeOf ask r key := by
  cases key with
  | position i => exact straight_placeAt r i
  | name n =>
      refine .bind (straight_ownPlace? r n) fun place => ?_
      cases place with
      | some p => exact .act (.pure p)
      | none => exact .act (.noSuchAttribute n r)

theorem acts_fill (r : Ref) (name : String) (value : Ref) :
    (fill r name value).Acts State.Edits := by
  refine .of_state fun s => ?_
  have refused : State.Edits s s := .creates (.refl s)
  simp only [fill, bind_apply, asks_apply]
  cases found : s.heap.slot? r name with
  | none => exact ⟨_, fun _ => rfl, .failure refused rfl rfl⟩
  | some slot =>
      rcases slot with (_ | _) | _ | _ | _
      · exact ⟨_, fun _ => rfl, .answer (.write value found) rfl⟩
      · exact ⟨_, fun _ => rfl, .failure refused rfl rfl⟩
      · exact ⟨_, fun _ => rfl, .failure refused rfl rfl⟩
      · exact ⟨_, fun _ => rfl, .failure refused rfl rfl⟩
      · exact ⟨_, fun _ => rfl, .failure refused rfl rfl⟩

theorem acts_append (r : Ref) (name : String) (items : List Ref) :
    (append r name items).Acts State.Edits := by
  refine .of_state fun s => ?_
  simp only [append, changeHeap_apply]
  cases found : s.heap.slot? r name with
  | none => exact ⟨_, fun _ => rfl, .answer (.creates (.refl s)) rfl⟩
  | some slot =>
      cases slot with
      | vararg old => exact ⟨_, fun _ => rfl, .answer (.append items found) rfl⟩
      | _ => exact ⟨_, fun _ => rfl, .answer (.creates (.refl s)) rfl⟩

theorem straight_spread (name : String) (value : Ref) :
    Straight State.Creates fun ask => spread ask name value := by
  refine .bind (.act (.cell value)) fun c => .ite (.bind (.request _) fun v => ?_) (.act (.pure _))
  cases v with
  | array items => exact .act (.pure items)
  | _ => exact .act (.fail rfl)

/-- Writing at a place changes what is done to the object of the place. -/
theorem straight_write_of {R : State → State → Prop}
    (creates : ∀ ⦃s s' : State⦄, s.Creates s' → R s s') {p : Place} {value : Ref}
    (owns : ∀ owner, (ownConcrete p.object owner).Moves R)
    (fills : ∀ name, (fill p.object name value).Moves R)
    (appends : ∀ name items, (append p.object name items).Moves R) :
    Straight R fun ask => write ask p value := by
  cases p with
  | fixed r name content =>
      exact .mono (.bind (.act (.subject r)) fun _ => .act (.fail rfl)) creates
  | owner r => exact .act ((acts_ownConcrete r value).along (owns value))
  | slot r name =>
      have filled : Straight R fun _ => fill r name value :=
        .act ((acts_fill r name value).along (fills name))
      refine .bind (.act (.mono (.asks _) creates)) fun slot => ?_
      rcases slot with _ | (_ | _ | _ | _)
      · exact filled
      · exact filled
      · exact filled
      · exact .bind ((straight_spread name value).mono creates) fun items =>
          .act ((acts_append r name items).along (appends name items))
      · exact filled

theorem straight_write (p : Place) (value : Ref) :
    Straight State.Edits fun ask => write ask p value :=
  straight_write_of State.Creates.edits (fun owner => (acts_ownConcrete _ owner).moves)
    (fun name => (acts_fill _ name value).moves) fun name items => (acts_append _ name items).moves

/-! ## Looking things up -/

theorem straight_findOnValue (r : Ref) (v : Value) (name : String) :
    Straight State.Creates fun _ => findOnValue r v name := by
  refine .ite (.act (.pure _)) ?_
  split
  · -- an element of an array
    split
    · exact .act (.pure _)
    · exact .act (.noSuchAttribute name r)
  · -- a method
    split
    · exact .bind (.act (.table _)) fun _ => .act (.pure _)
    · exact .act (.noSuchAttribute name r)

/-- The home is found, gone, or there is none. -/
theorem findHome_apply (r : Ref) (frame : Frame) (s : State) :
    findHome r frame s =
      match (s.heap.cell r).home? with
      | none => .failure (.noSuchAttribute sigma (s.heap.subject r)) s
      | some _ =>
        match s.home? frame.held r with
        | some home => .answer (.fixed r sigma home) s
        | none => .failure (.homeGone (s.heap.subject r)) s := by
  rw [findHome, bind_of_answer (frame_apply frame s), bind_of_answer (cell_apply r frame s)]
  cases (s.heap.cell r).home? with
  | none => rfl
  | some _ =>
      dsimp only
      rw [bind_of_answer (asks_apply _ frame s)]
      cases s.home? frame.held r <;> rfl

/-- Whether a home is gone depends on which objects are in use. -/
theorem acts_findHome (r : Ref) : (findHome r).Acts State.Creates := by
  refine .of_acted (fun s alike => ?_) fun frame s => ?_
  · rw [findHome_apply, findHome_apply, State.home?_congr alike.held]
  · rw [findHome_apply]
    cases (s.heap.cell r).home? with
    | none => exact .failure (.refl s) rfl rfl
    | some _ =>
        dsimp only
        cases s.home? frame.held r with
        | some home => exact .answer (.refl s) rfl
        | none => exact .failure (.refl s) rfl rfl

theorem straight_findPlace (r : Ref) (name : String) :
    Straight State.Creates fun ask => findPlace ask r name := by
  unfold findPlace
  refine .bind (.act (.cell r)) fun ⟨_, kind⟩ => ?_
  cases kind with
  | view v result => exact .bind (.request _) fun _ => .request _
  | data v => exact straight_findOnValue r v name
  | table t =>
      refine .ite (.act (.pure _)) (.ite (.act (.pure _)) (.ite (.act (acts_findHome r))
        (.ite (.act (.pure _)) (.ite ?_ (.act (.noSuchAttribute name r))))))
      exact .bind (.request _) fun _ => .request _

theorem acts_keep (r : Ref) (name : String) (computed : Ref) :
    (keep r name computed).Acts State.Fills := by
  refine .of_state fun s => ?_
  have same : State.Fills s s := .creates (.refl s)
  simp only [keep, bind_apply, asks_apply]
  cases found : s.heap.slot? r name with
  | none => exact ⟨_, fun _ => rfl, .answer same rfl⟩
  | some slot =>
      rcases slot with _ | ⟨origin, _ | _⟩ | _ | _
      · exact ⟨_, fun _ => rfl, .answer same rfl⟩
      · exact ⟨_, fun _ => rfl, .answer (.cache computed found) rfl⟩
      · exact ⟨_, fun _ => rfl, .answer same rfl⟩
      · exact ⟨_, fun _ => rfl, .answer same rfl⟩
      · exact ⟨_, fun _ => rfl, .answer same rfl⟩

/-- Reading a place changes what keeping does that is computed in a slot there. -/
theorem straight_readPlace_of {R : State → State → Prop}
    (creates : ∀ ⦃s s' : State⦄, s.Creates s' → R s s') {p : Place}
    (keeps : ∀ r name computed, p = .slot r name → (keep r name computed).Moves R) :
    Straight R fun ask => readPlace ask p := by
  have gives (x : Ref) : Straight R fun _ => (pure x : Action Ref) := .act (.mono (.pure x) creates)
  have unbound (name : String) (r : Ref) :
      Straight R fun _ => (do fail (.notYetBound name (← subject r)) : Action Ref) :=
    .mono (.bind (.act (.subject r)) fun _ => .act (.fail rfl)) creates
  cases p with
  | fixed r name content => exact gives content
  | owner r =>
      refine .bind (.act (.mono (.cell r) creates)) fun c => ?_
      cases c.owner? with
      | some owner => exact gives owner
      | none => exact unbound rho r
  | slot r name =>
      refine .bind (.act (.mono (.asks _) creates)) fun slot => ?_
      rcases slot with _ | ((_ | content) | ⟨origin, _ | kept⟩ | items | origin)
      · exact unbound name r
      · exact unbound name r
      · exact gives content
      · exact .bind (.request _) fun computed =>
          .act ((acts_keep r name computed).along (keeps r name computed rfl))
      · exact gives kept
      · exact .act (.mono (.data (.array items)) creates)
      · exact .request _

theorem straight_readPlace (p : Place) : Straight State.Fills fun ask => readPlace ask p :=
  straight_readPlace_of State.Creates.fills fun r name computed _ =>
    (acts_keep r name computed).moves

/-- The nearest object around one that declares the name. -/
def enclosingOf (scope : Ref) (name : String) : Action (Option Ref) := fun frame s =>
  .answer (s.enclosing? frame.held name (scope.index + 1) scope) s

/-- Which object that is depends on which objects are in use. -/
theorem acts_enclosingOf (scope : Ref) (name : String) :
    (enclosingOf scope name).Acts State.Creates := by
  refine .of_acted (fun s alike => ?_) fun frame s => .answer (.refl s) rfl
  rw [enclosingOf, enclosingOf, State.enclosing?_congr alike.held]

/-- What a name stands for that the scope does not declare. -/
def lookAround (scope : Ref) (name : String) : Action Ref := do
  match ← enclosingOf scope name with
  | some outer => view (.method outer name)
  | none =>
    match ← asks fun s => s.global? name with
    | some r => view (.copy r)
    | none => noSuchAttribute name scope

theorem lookUp_eq (ask : Answerer) (scope : Ref) (name : String) :
    lookUp ask scope name = asks (fun s => (s.heap.slot? scope name).isSome) >>= fun declared =>
      if declared then ask (.read (.slot scope name)) else lookAround scope name := by
  funext frame s
  rw [lookUp, bind_of_answer (frame_apply frame s), bind_of_answer (asks_apply _ frame s),
    bind_of_answer (asks_apply _ frame s)]
  cases s.heap.slot? scope name <;> rfl

theorem straight_lookUp (scope : Ref) (name : String) :
    Straight State.Creates fun ask => lookUp ask scope name := by
  simp only [lookUp_eq]
  refine .bind (.act (.asks _)) fun own => .ite (.request _) ?_
  refine .bind (.act (acts_enclosingOf scope name)) fun outer => ?_
  cases outer with
  | some outer => exact .act (.view _)
  | none =>
      refine .bind (.act (.asks _)) fun globals => ?_
      cases globals with
      | some r => exact .act (.view _)
      | none => exact .act (.noSuchAttribute name scope)

/-! ## Views -/

theorem straight_bindTo (base : Ref) (key : Key) (value : Ref) :
    Straight State.Edits fun ask => bindTo ask base key value := by
  unfold bindTo
  refine .bind ((straight_settle base).mono State.Creates.edits) fun o => .hold [o] ?_
  refine .bind ((straight_copyOf o).mono State.Creates.edits) fun c => .hold [c] ?_
  refine .bind ((straight_ownerOf o).mono State.Creates.edits) fun owner => ?_
  have rest : Straight State.Edits fun ask => (do
      let place ← placeOf ask c key
      write ask place value
      pure c : Action Ref) :=
    .bind ((straight_placeOf c key).mono State.Creates.edits) fun p =>
      .bind (straight_write p value) fun _ => .act (.mono (.pure c) State.Creates.edits)
  cases owner with
  | some owner => exact .bind (straight_moveTo c owner) fun _ => rest
  | none => exact rest

/-- What was read is a method if it is a value, and otherwise a copy of it with that owner is. -/
def methodFrom (ask : Answerer) (owner found : Ref) : Action Ref := do
  if (← cell found).isData then pure found
  else hold [found] do
    let method ← copyOf ask found
    moveTo ask method owner
    pure method

theorem straight_methodFrom (owner found : Ref) :
    Straight State.Edits fun ask => methodFrom ask owner found := by
  have gives (x : Ref) : Straight State.Edits fun _ => (pure x : Action Ref) :=
    .act (.mono (.pure x) State.Creates.edits)
  refine .bind (.act (.mono (.cell found) State.Creates.edits)) fun c => ?_
  refine .ite (gives found) (.hold [found] ?_)
  exact .bind ((straight_copyOf found).mono State.Creates.edits) fun method =>
    .bind (straight_moveTo method owner) fun _ => gives method

theorem straight_methodOf (base : Ref) (name : String) :
    Straight State.Edits fun ask => methodOf ask base name := by
  refine .bind ((straight_settle base).mono State.Creates.edits) fun o => .hold [o] ?_
  exact .bind (.request _) fun place => .bind (.request _) fun found => straight_methodFrom o found

theorem straight_derivedBy (v : View) : Straight State.Edits fun ask => derivedBy ask v := by
  cases v with
  | bind base key value => exact straight_bindTo base key value
  | method base name => exact straight_methodOf base name
  | copy base => exact (straight_copyOf base).mono State.Creates.edits
  | unvar base => exact (straight_settle base).mono State.Creates.edits

theorem acts_keepResult (r derived : Ref) : (keepResult r derived).Acts State.Fills := by
  refine .of_state fun s => ?_
  simp only [keepResult, bind_apply, cell_apply]
  cases kind : (s.heap.cell r).kind with
  | view v kept =>
      cases kept with
      | none => exact ⟨_, fun _ => rfl, .answer (.result derived (by simp [kind])) rfl⟩
      | some _ => exact ⟨_, fun _ => rfl, .answer (.creates (.refl s)) rfl⟩
  | _ => exact ⟨_, fun _ => rfl, .answer (.result derived (by simp [kind])) rfl⟩

/-- Finding what a view stands for changes what deriving an object and keeping it do. -/
theorem straight_resolveView_of {R : State → State → Prop}
    (edits : ∀ ⦃s s' : State⦄, s.Edits s' → R s s') {r : Ref}
    (keeps : ∀ derived, (keepResult r derived).Moves R) :
    Straight R fun ask => resolveView ask r := by
  have creates ⦃s s' : State⦄ (h : s.Creates s') : R s s' := edits h.edits
  unfold resolveView
  refine .bind (.act (.mono (.cell r) creates)) fun ⟨_, kind⟩ => ?_
  cases kind with
  | table t => exact .act (.mono (.pure r) creates)
  | data v => exact .act (.mono (.pure r) creates)
  | view v result =>
      cases result with
      | some kept => exact (straight_settle kept).mono creates
      | none =>
          refine .bind ((straight_derivedBy v).mono edits) fun derived => ?_
          exact .bind (.act ((acts_keepResult r derived).along (keeps derived))) fun kept =>
            (straight_settle kept).mono creates

theorem straight_resolveView (r : Ref) : Straight State.Changes fun ask => resolveView ask r :=
  straight_resolveView_of State.Edits.changes fun derived frame s =>
    ((acts_keepResult r derived).moves frame s).changes

/-! ## Methods -/

theorem straight_fetch (r : Ref) (attr : String) :
    Straight State.Creates fun ask => fetch ask r attr :=
  .bind (.request _) fun p => .hold p.refs (.bind (.request _) fun _ => .request _)

theorem straight_fetchTyped (r : Ref) (attr : String) (tag : TypeTag) :
    Straight State.Creates fun ask => fetchTyped ask r attr tag :=
  .bind (straight_fetch r attr) fun v => .ite (.act (.pure v)) (.act (.fail rfl))

theorem straight_fetchAs {α : Type} (r : Ref) (attr : String) (tag : TypeTag)
    (part : Value → Option α) : Straight State.Creates fun ask => fetchAs ask r attr tag part := by
  refine .bind (straight_fetchTyped r attr tag) fun v => ?_
  cases part v with
  | some a => exact .act (.pure a)
  | none => exact .act (.fail rfl)

theorem straight_stringObjects (texts : List String) :
    Straight State.Creates fun _ => stringObjects texts := by
  induction texts with
  | nil => exact .act (.pure [])
  | cons text rest ih =>
      exact .bind (.act (.data _)) fun _ => .bind ih fun _ => .act (.pure _)

/-- A method without arguments. -/
theorem straight_unary {α : Type} (r : Ref) (tag : TypeTag) (part : Value → Option α)
    {result : α → Action Ref} (gives : ∀ a, Straight State.Creates fun _ => result a) :
    Straight State.Creates fun ask => fetchAs ask r sigma tag part >>= result :=
  .bind (straight_fetchAs r sigma tag part) gives

/-- A method with one argument. -/
theorem straight_binary {α β : Type} (r : Ref) (argument : String) (tag tag' : TypeTag)
    (part : Value → Option α) (part' : Value → Option β) {result : α → β → Action Ref}
    (gives : ∀ a b, Straight State.Creates fun _ => result a b) :
    Straight State.Creates fun ask =>
      fetchAs ask r sigma tag part >>= fun a =>
        fetchAs ask r argument tag' part' >>= fun b => result a b :=
  .bind (straight_fetchAs r sigma tag part) fun a =>
    .bind (straight_fetchAs r argument tag' part') (gives a)

theorem plain_of_integerResult {op : Arithmetic} {a b : Int64} {f : Failure}
    (fails : integerResult op a b = .error f) : f.isPlaced = false := by
  cases op with
  | div =>
      simp only [integerResult] at fails
      split at fails
      · cases fails
        rfl
      · cases fails
  | _ => cases fails

theorem plain_of_elementAt {items : List Ref} {index : Int64} {f : Failure}
    (fails : elementAt items index = .error f) : f.isPlaced = false := by
  simp only [elementAt] at fails
  split at fails
  · cases fails
    rfl
  · split at fails
    · cases fails
    · cases fails
      rfl

theorem straight_methodResult (m : Method) (r : Ref) :
    Straight State.Creates fun ask => methodResult ask m r := by
  have gives (v : Value) : Straight State.Creates fun _ => data v := .act (.data v)
  cases m with
  | eq =>
      exact .bind (straight_fetch r sigma) fun a => .bind (.hold a.items (straight_fetch r "x"))
        fun b => .bind (.act (.asks _)) fun same => gives _
  | int op =>
      have argument (op : Arithmetic) (a b : Int64) :
          Straight State.Creates fun _ => conclude (integerResult op a b) >>= data :=
        .bind (.act (.conclude fun f => plain_of_integerResult)) gives
      cases op with
      | neg => exact straight_unary r _ _ fun a => gives _
      | _ => exact straight_binary r _ _ _ _ _ (argument _)
  | float op =>
      cases op with
      | neg => exact straight_unary r _ _ fun a => gives _
      | _ => exact straight_binary r _ _ _ _ _ fun a b => gives _
  | negation => exact straight_unary r _ _ fun a => gives _
  | conjunction => exact straight_binary r _ _ _ _ _ fun a b => gives _
  | disjunction => exact straight_binary r _ _ _ _ _ fun a b => gives _
  | choose =>
      exact .bind (straight_fetchAs r sigma _ _) fun _ => .bind (.request _) fun _ => .request _
  | stringLength => exact straight_unary r _ _ fun s => gives _
  | concat => exact straight_binary r _ _ _ _ _ fun a b => gives _
  | bytesSize => exact straight_unary r _ _ fun bs => gives _
  | arrayLength => exact straight_unary r _ _ fun items => gives _
  | element =>
      exact .bind (straight_fetchAs r sigma _ _) fun items =>
        .bind (.hold items (straight_fetchAs r "i" _ _)) fun index =>
          .act (.conclude fun f => plain_of_elementAt)
  | find =>
      exact straight_binary r _ _ _ _ _ fun p text =>
        .bind (straight_stringObjects _) fun _ => gives _

/-! ## Parts of attempts -/

theorem straight_signal (r : Ref) : Straight State.Creates fun ask => signal ask r :=
  .bind (.request _) fun _ => .bind (.request _) fun target =>
    .hold [target] (.bind (.request _) fun _ => .bind (.request _) fun _ =>
      .bind (.act (.vertex target)) fun _ => .act (.fail rfl))

theorem straight_partOf (r : Ref) (name : String) :
    Straight State.Edits fun ask => partOf ask r name :=
  .bind (.request _) fun p => .bind (.request _) fun prototype =>
    .bind (.hold p.refs ((straight_copyOf prototype).mono State.Creates.edits)) fun part =>
      .bind (.hold [part] (straight_moveTo part r)) fun _ =>
        .act (.mono (.pure part) State.Creates.edits)

theorem straight_runMain (r : Ref) : Straight State.Edits fun ask => runMain ask r :=
  .bind (straight_partOf r "main") fun main => .hold [main] <|
    .bind ((straight_placeAt main 0).mono State.Creates.edits) fun first =>
      .bind (.act (.mono (.table _) State.Creates.edits)) fun raiser =>
        .bind (straight_write first raiser) fun _ => .request _

theorem straight_runCatch (r payload : Ref) :
    Straight State.Edits fun ask => runCatch ask r payload :=
  .bind (.hold [payload] (straight_partOf r "catch")) fun _ =>
    .bind (.act (.mono (.view _) State.Creates.edits)) fun _ => .request _

theorem straight_runFinally (r : Ref) : Straight State.Edits fun ask => runFinally ask r :=
  .bind (straight_partOf r "finally") fun _ => .bind (.request _) fun _ =>
    .act (.mono (.pure ()) State.Creates.edits)

/-! ## Expressions -/

theorem straight_evalAll (self : Ref) (es : List Expr) :
    Straight State.Creates fun ask => evalAll ask self es := by
  induction es with
  | nil => exact .act (.pure [])
  | cons e rest ih =>
      exact .bind (.request _) fun r => .bind (.hold [r] ih) fun _ => .act (.pure _)

theorem acts_literal (type text : String) : (literal type text).Acts State.Creates := by
  rcases literal_cases type text with ⟨tag, v, -, -, made⟩ | refused | ⟨fault, refused⟩
  · rw [made]
    exact .data v
  · rw [refused]
    exact .fail rfl
  · rw [refused]
    exact .fail rfl

/-- The number of dataizations in progress is the same in alike surroundings. -/
theorem acts_depth : (do data (countValue (← frame).depth) : Action Ref).Acts State.Creates := by
  refine .of_acted (fun {frame frame'} s alike => ?_) fun frame s =>
    .answer (.data s (countValue frame.depth)) rfl
  show data (countValue frame.depth) frame s = data (countValue frame'.depth) frame' s
  rw [alike.depth]
  rfl

theorem straight_evalSlots (self : Ref) (attrs : List (String × SlotExpr)) (slots : Slots) :
    Straight State.Creates fun ask => evalSlots ask self slots attrs := by
  induction attrs generalizing slots with
  | nil => exact .act (.pure slots)
  | cons attr rest ih =>
      obtain ⟨name, e⟩ := attr
      cases e with
      | bound e => exact .bind (.request _) fun r => .hold [r] (ih _)
      | _ => exact ih _

theorem straight_buildObject (self : Ref) (form : String) (home : Option Expr)
    (attrs : List (String × SlotExpr)) :
    Straight State.Creates fun ask => buildObject ask self form home attrs := by
  cases home with
  | none => exact .bind (straight_evalSlots self attrs []) fun _ => .act (.table _)
  | some e =>
      exact .bind (.request _) fun home =>
        .bind (.hold [home] (straight_evalSlots self attrs [])) fun _ => .act (.table _)

/-- **Every expression but an attempt adds objects only, and goes straight on.** -/
theorem straight_evalExpr (self : Ref) {e : Expr} (other : e ≠ .native .attempt) :
    Straight State.Creates fun ask => evalExpr ask self e := by
  cases e with
  | self => exact .act (.pure self)
  | depth => exact .act acts_depth
  | object r => exact .act (.pure r)
  | data v => exact .act (.data v)
  | literal type text => exact .act (acts_literal type text)
  | array items => exact .bind (straight_evalAll self items) fun _ => .act (.data _)
  | global name =>
      refine .bind (.act (.asks _)) fun r => ?_
      cases r with
      | some r => exact .act (.pure r)
      | none => exact .act (.fail rfl)
  | name n => exact straight_lookUp self n
  | get e name =>
      exact .bind (.request _) fun r => .bind (.request _) fun _ => .hold [r] (.request _)
  | method e name => exact .bind (.request _) fun _ => .act (.view _)
  | bind e key value =>
      exact .bind (.request _) fun base => .bind (.hold [base] (.request _)) fun _ =>
        .act (.view _)
  | copied e => exact .bind (.request _) fun _ => .act (.view _)
  | unvar e => exact .bind (.request _) fun _ => .act (.view _)
  | copy e => exact .bind (.request _) fun r => .hold [r] (straight_copyOf r)
  | resolved e => exact .bind (.request _) fun r => straight_settle r
  | force e => exact .bind (.request _) fun _ => .bind (.request _) fun _ => .act (.data _)
  | fail message => exact .act (.fail rfl)
  | raise target payload =>
      exact .bind (.request _) fun t => .bind (.hold [t] (.request _)) fun _ =>
        .bind (.act (.vertex t)) fun _ => .act (.fail rfl)
  | count counter e =>
      refine .bind (.act (.of_state fun s => ⟨_, fun _ => rfl, .answer ?_ rfl⟩)) fun _ => .request _
      exact .observed rfl rfl rfl
  | counter name => exact .bind (.act (.asks _)) fun _ => .act (.data _)
  | build form home attrs => exact straight_buildObject self form home attrs
  | native n =>
      cases n with
      | method m => exact straight_methodResult m self
      | attempt => exact absurd rfl other
      | signal => exact straight_signal self

/-! ## Dataization -/

variable {catching : Prop}

theorem stepwise_findData (r : Ref) :
    Stepwise State.Creates catching fun ask => findData ask r := by
  refine .recover (Stepwise.request _) (fun e => ?_) (.inr fun f raises ask => ?_)
  · rcases e with f | place
    · cases f with
      | noSuchAttribute attr object => exact .ite (Stepwise.fail _) (Stepwise.fail _)
      | _ => exact Stepwise.fail _
    · exact Stepwise.act (.pure place)
  · cases f with
    | raise target payload => rfl
    | _ => cases raises

theorem stepwise_forceValue (r : Ref) :
    Stepwise State.Creates catching fun ask => forceValue ask r := by
  unfold forceValue
  refine .bind (Stepwise.act (.cell r)) fun c => ?_
  cases c.value? with
  | some v => exact Stepwise.act (.pure v)
  | none =>
      refine .bind (stepwise_findData r) fun place => .bind (Stepwise.request _) fun found =>
        .bind (Stepwise.act (.cell found)) fun c' => ?_
      cases c'.value? with
      | some v => exact Stepwise.act (.pure v)
      | none =>
          exact .bind (Stepwise.act (.subject r)) fun _ =>
            .bind (Stepwise.act (.subject found)) fun _ => Stepwise.fail _

theorem stepwise_leaveLine (depth : Nat) (r : Ref) (v : Value) :
    Stepwise State.Creates catching fun _ => leaveLine depth r v :=
  .bind (Stepwise.finite _) fun _ => .bind (Stepwise.finite _) fun _ =>
    Stepwise.observes (fun _ => rfl) (fun _ => rfl) fun _ => rfl

theorem stepwise_place (r : Ref) (f : Failure) :
    Stepwise State.Creates catching fun _ => place r f :=
  .ite (Stepwise.fail f) (.bind (Stepwise.finite _) fun _ => Stepwise.fail _)

theorem stepwise_dataizeObject (r : Ref) :
    Stepwise State.Creates catching fun ask => dataizeObject ask r := by
  refine .bind Stepwise.frame fun around =>
    .recover (.deeper (stepwise_forceValue r)) (fun e => ?_) (.inr fun f raises ask => ?_)
  · rcases e with f | v
    · exact stepwise_place r f
    · exact .ite (.bind (stepwise_leaveLine around.depth r v) fun _ => Stepwise.act (.pure v))
        (Stepwise.act (.pure v))
  · simp only [place, raises, Bool.true_or, if_true]

/-! ## Runs -/

theorem straight_globalValue (name : String) :
    Straight State.Creates fun ask => globalValue ask name := by
  refine .bind (.act (.asks _)) fun root => ?_
  cases root with
  | none => exact .act (.fail rfl)
  | some root =>
      exact .bind (.hold [root] (straight_copyOf root)) fun _ => .hold [root] (.request _)

end PhiCalculus
