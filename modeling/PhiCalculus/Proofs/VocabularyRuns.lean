import PhiCalculus.Proofs.Attempts
import PhiCalculus.Proofs.Soundness
import PhiCalculus.Proofs.Vocabulary

/-!
# The texts of a run

Evaluation puts no texts together that objects or the trace would show.  Every object that it makes
has the texts of an expression, of another object or of the evaluator itself, so a state with the
texts of a vocabulary leads to such states only.  This is said for each function of the evaluator
(`Action.Gives`): if the requests that it makes keep to the vocabulary, so does the function, and so
does the value that it gives.

Hence all texts of the objects of a run, and all lines of its trace, belong to every vocabulary that
has the texts of the program (`Program.run_within`).
-/

set_option autoImplicit false

namespace PhiCalculus

open PhiCalculus.Action Vocabulary

variable {α β : Type} {V : Vocabulary}

/-! ## Actions within a vocabulary -/

/-- From states within the vocabulary the action leads to such states, and it answers what has the
property. -/
def Action.Gives (V : Vocabulary) (post : α → Prop) (x : Action α) : Prop :=
  ∀ frame s, s.Within V → (x frame s).state.Within V ∧ ∀ a t, x frame s = .answer a t → post a

/-- The action leads from states within the vocabulary to such states. -/
abbrev Action.Keeps (V : Vocabulary) (x : Action α) : Prop := x.Gives V fun _ => True

/-- The expression that is to be evaluated has texts of the vocabulary. -/
def Request.Within (V : Vocabulary) : Request α → Prop
  | .eval e _ => V.Covers e.words
  | _ => True

/-- A value that is answered has texts of the vocabulary. -/
def Request.Answers (V : Vocabulary) : Request α → α → Prop
  | .dataize _, v => V.Covers v.texts
  | .find _ _, _ => True
  | .read _, _ => True
  | .resolve _, _ => True
  | .eval _ _, _ => True

/-- All requests are answered within the vocabulary. -/
def Answerer.KeepsTo (V : Vocabulary) (ask : Answerer) : Prop :=
  ∀ {α : Type} (q : Request α), q.Within V → (ask q).Gives V (q.Answers V)

namespace Action.Gives

variable {post : α → Prop}

/-- What always answers and leaves the state within the vocabulary. -/
theorem of_answers {x : Action α}
    (answers : ∀ frame s, s.Within V → ∃ a t, x frame s = .answer a t ∧ t.Within V ∧ post a) :
    x.Gives V post := by
  intro frame s within
  obtain ⟨a, t, answer, within, holds⟩ := answers frame s within
  rw [answer]
  refine ⟨within, ?_⟩
  rintro _ _ ⟨⟩
  exact holds

theorem pure {a : α} (holds : post a) : (Pure.pure a : Action α).Gives V post :=
  of_answers fun _ s within => ⟨a, s, rfl, within, holds⟩

theorem asks {f : State → α} (holds : ∀ s, s.Within V → post (f s)) :
    (Action.asks f).Gives V post :=
  of_answers fun _ s within => ⟨f s, s, rfl, within, holds s within⟩

theorem cell (r : Ref) : (Action.cell r).Gives V fun c => V.Covers c.kind.words :=
  asks fun _ within => within.heap r

/-- A slot that is read has a name and texts of the vocabulary. -/
theorem slot (r : Ref) (name : String) : (Action.asks fun s => s.heap.slot? r name).Gives V
    fun slot => ∀ s, slot = some s → V.Has name ∧ V.Covers s.words :=
  asks fun _ within _ found => within.heap.slot found

theorem looks (f : State → α) : (Action.asks f).Keeps V := asks fun _ _ => trivial

theorem subject (r : Ref) : (Action.subject r).Keeps V := looks _

theorem vertex (r : Ref) : (Action.vertex r).Keeps V := looks _

theorem frame : Action.frame.Keeps V :=
  of_answers fun frame s within => ⟨frame, s, rfl, within, trivial⟩

theorem change {f : State → State} (within : ∀ s, s.Within V → (f s).Within V) :
    (Action.change f).Keeps V :=
  of_answers fun _ s here => ⟨(), f s, rfl, within s here, trivial⟩

theorem changeHeap {f : Heap → Heap} (within : ∀ h : Heap, h.Within V → (f h).Within V) :
    (Action.changeHeap f).Keeps V :=
  change fun s here => ⟨within s.heap here.heap, here.trace⟩

theorem alloc {k : Kind} (covers : V.Covers k.words) : (Action.alloc k).Keeps V :=
  of_answers fun _ s within => ⟨(s.alloc k).1, (s.alloc k).2, rfl, within.alloc covers, trivial⟩

theorem view {v : View} (covers : V.Covers v.texts) : (Action.view v).Keeps V := alloc covers

theorem data {v : Value} (covers : V.Covers v.texts) : (Action.data v).Keeps V :=
  of_answers fun _ s within =>
    ⟨(s.allocData v).1, (s.allocData v).2, rfl, within.allocData covers, trivial⟩

theorem finite {f : State → Option α} (holds : ∀ s a, s.Within V → f s = some a → post a) :
    (Action.finite f).Gives V post := by
  intro frame s within
  rw [Action.finite]
  cases known : f s with
  | none =>
      refine ⟨within, ?_⟩
      rintro _ _ ⟨⟩
  | some a =>
      refine ⟨within, ?_⟩
      rintro _ _ ⟨⟩
      exact holds s a within known

theorem fail (f : Failure) : (Action.fail f : Action α).Gives V post := fun _ _ within =>
  ⟨within, nofun⟩

theorem noSuchAttribute (name : String) (r : Ref) :
    (Action.noSuchAttribute name r : Action α).Gives V post := fun _ _ within => ⟨within, nofun⟩

theorem conclude {result : Except Failure α} (holds : ∀ a, result = .ok a → post a) :
    (Action.conclude result).Gives V post := by
  cases result with
  | ok a => exact pure (holds a rfl)
  | error f => exact fail f

theorem weaken {post' : α → Prop} {x : Action α} (gives : x.Gives V post)
    (sub : ∀ a, post a → post' a) : x.Gives V post' := fun frame s within =>
  ⟨(gives frame s within).1, fun a t answer => sub a ((gives frame s within).2 a t answer)⟩

theorem keeps {x : Action α} (gives : x.Gives V post) : x.Keeps V :=
  gives.weaken fun _ _ => trivial

theorem bind {post : β → Prop} {middle : α → Prop} {x : Action α} {k : α → Action β}
    (first : x.Gives V middle) (rest : ∀ a, middle a → (k a).Gives V post) :
    Action.Gives V post (x >>= k) := by
  intro frame s within
  obtain ⟨later, holds⟩ := first frame s within
  cases ending : x frame s with
  | answer a t =>
      rw [ending] at later holds
      rw [bind_of_answer ending k]
      exact rest a (holds a t rfl) frame t later
  | failure f t =>
      rw [ending] at later
      rw [bind_of_failure ending k]
      exact ⟨later, nofun⟩
  | unfinished =>
      rw [ending] at later
      rw [bind_of_unfinished ending k]
      exact ⟨later, nofun⟩

theorem ite {p : Prop} [Decidable p] {x y : Action α} (yes : x.Gives V post)
    (no : y.Gives V post) : Action.Gives V post (if p then x else y) := by
  split
  · exact yes
  · exact no

theorem hold (refs : List Ref) {x : Action α} (inner : x.Gives V post) :
    (Action.hold refs x).Gives V post := fun _ s within => inner _ s within

theorem deeper {x : Action α} (inner : x.Gives V post) : (Action.deeper x).Gives V post :=
  fun _ s within => inner _ s within

theorem observe {x : Action α} (inner : x.Gives V post) :
    (Action.observe x).Gives V fun result => ∀ a, result = .ok a → post a := by
  intro frame s within
  obtain ⟨later, holds⟩ := inner frame s within
  cases ending : x frame s with
  | answer a t =>
      rw [ending] at later holds
      rw [observe_of_answer ending]
      refine ⟨later, ?_⟩
      rintro _ _ ⟨⟩ _ ⟨⟩
      exact holds a t rfl
  | failure f t =>
      rw [ending] at later
      rw [observe_of_failure ending]
      refine ⟨later, ?_⟩
      rintro _ _ ⟨⟩ _ ⟨⟩
  | unfinished =>
      rw [ending] at later
      rw [observe_of_unfinished ending]
      exact ⟨later, nofun⟩

end Action.Gives

section

variable {ask : Answerer} (h : ask.KeepsTo V)

include h

/-! ## Requests -/

theorem keeps_find (r : Ref) (name : String) : (ask (.find r name)).Keeps V :=
  (h (.find r name) trivial).keeps

theorem keeps_read (p : Place) : (ask (.read p)).Keeps V := (h (.read p) trivial).keeps

theorem keeps_resolve (r : Ref) : (ask (.resolve r)).Keeps V := (h (.resolve r) trivial).keeps

theorem gives_dataize (r : Ref) : (ask (.dataize r)).Gives V fun v => V.Covers v.texts :=
  h (.dataize r) trivial

theorem keeps_eval {e : Expr} (covers : V.Covers e.words) (self : Ref) :
    (ask (.eval e self)).Keeps V :=
  (h (.eval e self) covers).keeps

/-! ## Operations on objects -/

theorem keeps_settle (r : Ref) : (settle ask r).Keeps V :=
  .bind (.cell r) fun _ _ => .ite (keeps_resolve h _) (.pure trivial)

omit h in
theorem keeps_copyConcrete (r : Ref) : (copyConcrete r).Keeps V := by
  unfold copyConcrete
  refine .bind (.cell r) fun ⟨_, kind⟩ covers => ?_
  cases kind with
  | table t =>
      obtain ⟨form, slots⟩ := covers_cons.mp covers
      exact .alloc (covers_cons.mpr ⟨form, covers_copy slots⟩)
  | data v => exact .pure trivial
  | view v result => exact .pure trivial

theorem keeps_copyOf (r : Ref) : (copyOf ask r).Keeps V :=
  .bind (keeps_settle h r) fun o _ => .hold [o] (keeps_copyConcrete o)

omit h in
theorem keeps_ownConcrete (r owner : Ref) : (ownConcrete r owner).Keeps V := by
  unfold ownConcrete
  refine .bind (.cell r) fun ⟨_, kind⟩ _ => ?_
  cases kind with
  | table t =>
      dsimp only
      cases t.owner with
      | none => exact .changeHeap fun _ within => within.setOwner owner
      | some _ => exact .fail _
  | data v => exact .pure trivial
  | view v result => exact .pure trivial

theorem keeps_moveTo (r owner : Ref) : (moveTo ask r owner).Keeps V :=
  .bind (keeps_settle h r) fun o _ => keeps_ownConcrete o owner

theorem keeps_ownerOf (r : Ref) : (ownerOf ask r).Keeps V :=
  .bind (keeps_settle h r) fun _ _ => .looks _

theorem keeps_placeAt (r : Ref) (position : Nat) : (placeAt ask r position).Keeps V := by
  unfold placeAt
  refine .bind (keeps_settle h r) fun o _ => .bind (.cell o) fun c _ => ?_
  cases c.slots.openNames[position]? with
  | some name => exact .pure trivial
  | none => exact .fail _

theorem keeps_placeOf (r : Ref) (key : Key) : (placeOf ask r key).Keeps V := by
  cases key with
  | position i => exact keeps_placeAt h r i
  | name n =>
      have own : (ownPlace? ask r n).Keeps V := .bind (keeps_settle h r) fun _ _ => .looks _
      refine .bind own fun place _ => ?_
      cases place with
      | some p => exact .pure trivial
      | none => exact .noSuchAttribute n r

omit h in
theorem keeps_fill (r : Ref) (name : String) (value : Ref) : (fill r name value).Keeps V := by
  have refused : (refuse (.slot r name)).Keeps V := .bind (.subject r) fun _ _ => .fail _
  refine .bind (.slot r name) fun slot read => ?_
  rcases slot with _ | (content | _ | _ | _)
  · exact refused
  · cases content with
    | none => exact .changeHeap fun _ within => within.setSlot (read _ rfl).1 covers_nil
    | some _ => exact refused
  · exact refused
  · exact refused
  · exact refused

omit h in
theorem keeps_append (r : Ref) (name : String) (items : List Ref) :
    (append r name items).Keeps V := by
  refine .changeHeap fun h within => ?_
  split
  · next found => exact within.setSlot (within.slot found).1 covers_nil
  · exact within

theorem keeps_spread (name : String) (value : Ref) : (spread ask name value).Keeps V := by
  refine .bind (.cell value) fun c _ => .ite ?_ (.pure trivial)
  refine .bind (gives_dataize h value) fun v _ => ?_
  cases v with
  | array items => exact .pure trivial
  | _ => exact .fail _

theorem keeps_write (p : Place) (value : Ref) : (write ask p value).Keeps V := by
  cases p with
  | fixed r name content => exact .bind (.subject r) fun _ _ => .fail _
  | owner r => exact keeps_ownConcrete r value
  | slot r name =>
      refine .bind (.slot r name) fun slot _ => ?_
      rcases slot with _ | (_ | _ | _ | _)
      · exact keeps_fill r name value
      · exact keeps_fill r name value
      · exact keeps_fill r name value
      · exact .bind (keeps_spread h name value) fun items _ => keeps_append r name items
      · exact keeps_fill r name value

/-! ## Looking things up -/

omit h in
theorem keeps_findOnValue (r : Ref) (v : Value) (name : String) :
    (findOnValue r v name).Keeps V := by
  refine .ite (.pure trivial) ?_
  split
  · -- an element of an array
    split
    · exact .pure trivial
    · exact .noSuchAttribute name r
  · -- a method
    split
    · next m known =>
      exact .bind (.alloc (V.method r _ name m known)) fun _ _ => .pure trivial
    · exact .noSuchAttribute name r

omit h in
theorem keeps_findHome (r : Ref) : (findHome r).Keeps V := by
  unfold findHome
  refine .bind .frame fun around _ => .bind (.cell r) fun c _ => ?_
  cases c.home? with
  | none => exact .noSuchAttribute sigma r
  | some _ =>
      refine .bind (.looks _) fun home _ => ?_
      cases home with
      | some home => exact .pure trivial
      | none => exact .bind (.subject r) fun _ _ => .fail _

theorem keeps_findPlace (r : Ref) (name : String) : (findPlace ask r name).Keeps V := by
  unfold findPlace
  refine .bind (.cell r) fun ⟨_, kind⟩ _ => ?_
  cases kind with
  | view v result => exact .bind (keeps_resolve h r) fun _ _ => keeps_find h _ _
  | data v => exact keeps_findOnValue r v name
  | table t =>
      exact .ite (.pure trivial) (.ite (.pure trivial) (.ite (keeps_findHome r)
        (.ite (.pure trivial) (.ite (.bind (keeps_read h _) fun _ _ => keeps_find h _ _)
          (.noSuchAttribute name r)))))

omit h in
theorem keeps_keep (r : Ref) (name : String) (computed : Ref) : (keep r name computed).Keeps V := by
  refine .bind (.slot r name) fun slot read => ?_
  rcases slot with _ | (_ | ⟨origin, cache⟩ | _ | _)
  · exact .pure trivial
  · exact .pure trivial
  · cases cache with
    | none =>
        obtain ⟨has, covers⟩ := read _ rfl
        exact .bind (.changeHeap fun _ within => within.setSlot has covers) fun _ _ => .pure trivial
    | some kept => exact .pure trivial
  · exact .pure trivial
  · exact .pure trivial

theorem keeps_readPlace (p : Place) : (readPlace ask p).Keeps V := by
  cases p with
  | fixed r name content => exact .pure trivial
  | owner r =>
      refine .bind (.cell r) fun c _ => ?_
      cases c.owner? with
      | some owner => exact .pure trivial
      | none => exact .bind (.subject r) fun _ _ => .fail _
  | slot r name =>
      have unbound : Action.Keeps V (do fail (.notYetBound name (← subject r)) : Action Ref) :=
        .bind (.subject r) fun _ _ => .fail _
      refine .bind (.slot r name) fun slot read => ?_
      rcases slot with _ | (content | ⟨origin, cache⟩ | items | origin)
      · exact unbound
      · cases content with
        | none => exact unbound
        | some content => exact .pure trivial
      · cases cache with
        | none =>
            exact .bind (keeps_eval h (read _ rfl).2 r) fun computed _ => keeps_keep r name computed
        | some kept => exact .pure trivial
      · exact .data covers_nil
      · exact keeps_eval h (read _ rfl).2 r

theorem keeps_lookUp (scope : Ref) {name : String} (has : V.Has name) :
    (lookUp ask scope name).Keeps V := by
  unfold lookUp
  refine .bind .frame fun around _ => .bind (.looks _) fun own _ =>
    .ite (keeps_read h _) (.bind (.looks _) fun enclosing _ => ?_)
  cases enclosing with
  | some outer => exact .view (covers_cons.mpr ⟨has, covers_nil⟩)
  | none =>
      refine .bind (.looks _) fun globals _ => ?_
      cases globals with
      | some r => exact .view covers_nil
      | none => exact .noSuchAttribute name scope

/-! ## Views -/

theorem keeps_bindTo (base : Ref) (key : Key) (value : Ref) :
    (bindTo ask base key value).Keeps V := by
  unfold bindTo
  refine .bind (keeps_settle h base) fun o _ => .hold [o] ?_
  refine .bind (keeps_copyOf h o) fun c _ => .hold [c] ?_
  refine .bind (keeps_ownerOf h o) fun owner _ => ?_
  have rest : Action.Keeps V (do
      let place ← placeOf ask c key
      write ask place value
      pure c : Action Ref) :=
    .bind (keeps_placeOf h c key) fun p _ =>
      .bind (keeps_write h p value) fun _ _ => .pure trivial
  cases owner with
  | some owner => exact .bind (keeps_moveTo h c owner) fun _ _ => rest
  | none => exact rest

theorem keeps_methodOf (base : Ref) (name : String) : (methodOf ask base name).Keeps V := by
  unfold methodOf
  refine .bind (keeps_settle h base) fun o _ => .hold [o] ?_
  refine .bind (keeps_find h o name) fun place _ => .bind (keeps_read h place) fun found _ => ?_
  refine .bind (.cell found) fun c _ => .ite (.pure trivial) (.hold [found] ?_)
  exact .bind (keeps_copyOf h found) fun method _ =>
    .bind (keeps_moveTo h method o) fun _ _ => .pure trivial

theorem keeps_derivedBy (v : View) : (derivedBy ask v).Keeps V := by
  cases v with
  | bind base key value => exact keeps_bindTo h base key value
  | method base name => exact keeps_methodOf h base name
  | copy base => exact keeps_copyOf h base
  | unvar base => exact keeps_settle h base

omit h in
theorem keeps_keepResult (r derived : Ref) : (keepResult r derived).Keeps V := by
  have kept : Action.Keeps V
      (do changeHeap (·.setResult r derived); pure derived : Action Ref) :=
    .bind (.changeHeap fun _ within => within.setResult derived) fun _ _ => .pure trivial
  refine .bind (.cell r) fun ⟨_, kind⟩ _ => ?_
  cases kind with
  | table t => exact kept
  | data v => exact kept
  | view v result =>
      cases result with
      | some r => exact .pure trivial
      | none => exact kept

theorem keeps_resolveView (r : Ref) : (resolveView ask r).Keeps V := by
  unfold resolveView
  refine .bind (.cell r) fun ⟨_, kind⟩ _ => ?_
  cases kind with
  | table t => exact .pure trivial
  | data v => exact .pure trivial
  | view v result =>
      cases result with
      | some kept => exact keeps_settle h kept
      | none =>
          exact .bind (keeps_derivedBy h v) fun derived _ =>
            .bind (keeps_keepResult r derived) fun kept _ => keeps_settle h kept

/-! ## Dataization -/

theorem keeps_findData (r : Ref) : (findData ask r).Keeps V := by
  refine .bind (keeps_find h r delta).observe fun result _ => ?_
  split
  · exact .pure trivial
  · exact .ite (.fail _) (.fail _)
  · exact .fail _

theorem gives_forceValue (r : Ref) : (forceValue ask r).Gives V fun v => V.Covers v.texts := by
  have value {c : Cell} (covers : V.Covers c.kind.words) {v : Value} (data : c.value? = some v) :
      V.Covers v.texts := by
    obtain ⟨_, kind⟩ := c
    cases kind with
    | data w =>
        cases data
        exact covers
    | _ => cases data
  unfold forceValue
  refine .bind (.cell r) fun c covers => ?_
  cases data : c.value? with
  | some v => exact .pure (value covers data)
  | none =>
      refine .bind (keeps_findData h r) fun place _ => .bind (keeps_read h place) fun found _ => ?_
      refine .bind (.cell found) fun c' covers => ?_
      cases data : c'.value? with
      | some v => exact .pure (value covers data)
      | none => exact .bind (.subject r) fun _ _ => .bind (.subject found) fun _ _ => .fail _

omit h in
/-- The line of a dataization belongs to the vocabulary, as the texts of the objects do. -/
theorem keeps_leaveLine (depth : Nat) (r : Ref) {v : Value} (covers : V.Covers v.texts) :
    (leaveLine depth r v).Keeps V := by
  intro frame s within
  simp only [leaveLine, bind_apply, Action.finite]
  cases term : s.heap.term? r with
  | none => exact ⟨within, fun _ _ _ => trivial⟩
  | some text =>
      dsimp only
      cases value : s.heap.valueTerm? v with
      | none => exact ⟨within, fun _ _ _ => trivial⟩
      | some shown =>
          have line := V.line s.heap r v depth text shown within.heap covers term value
          exact ⟨⟨within.heap, covers_cons.mpr ⟨line, within.trace⟩⟩, fun _ _ _ => trivial⟩

theorem gives_dataizeObject (r : Ref) :
    (dataizeObject ask r).Gives V fun v => V.Covers v.texts := by
  unfold dataizeObject
  refine .bind .frame fun around _ => ?_
  refine .bind (gives_forceValue h r).deeper.observe fun result found => ?_
  cases result with
  | ok v =>
      have covers := found v rfl
      exact .ite (.bind (keeps_leaveLine _ r covers) fun _ _ => .pure covers) (.pure covers)
  | error f =>
      have term : (finite fun s => s.heap.term? r).Keeps V := .finite fun _ _ _ _ => trivial
      exact .ite (.fail f) (.bind term fun _ _ => .fail _)

/-! ## Methods -/

theorem gives_fetch (r : Ref) (attr : String) :
    (fetch ask r attr).Gives V fun v => V.Covers v.texts :=
  .bind (keeps_find h r attr) fun p _ =>
    .hold p.refs (.bind (keeps_read h p) fun _ _ => gives_dataize h _)

theorem keeps_fetchAs (r : Ref) (attr : String) (tag : TypeTag) (part : Value → Option α) :
    (fetchAs ask r attr tag part).Keeps V := by
  have typed : (fetchTyped ask r attr tag).Keeps V :=
    .bind (gives_fetch h r attr) fun v _ => .ite (.pure trivial) (.fail _)
  refine .bind typed fun v _ => ?_
  cases part v with
  | some a => exact .pure trivial
  | none => exact .fail _

omit h in
theorem keeps_stringObjects (texts : List String) : (stringObjects texts).Keeps V := by
  induction texts with
  | nil => exact .pure trivial
  | cons text rest ih => exact .bind (.data covers_nil) fun _ _ => .bind ih fun _ _ => .pure trivial

/-- A method without arguments. -/
theorem keeps_unary (r : Ref) (tag : TypeTag) (part : Value → Option α)
    {result : α → Action Ref} (gives : ∀ a, (result a).Keeps V) :
    Action.Keeps V (fetchAs ask r sigma tag part >>= result) :=
  .bind (keeps_fetchAs h r sigma tag part) fun a _ => gives a

/-- A method with one argument. -/
theorem keeps_binary (r : Ref) (argument : String) (tag tag' : TypeTag)
    (part : Value → Option α) (part' : Value → Option β) {result : α → β → Action Ref}
    (gives : ∀ a b, (result a b).Keeps V) :
    Action.Keeps V (fetchAs ask r sigma tag part >>= fun a =>
      fetchAs ask r argument tag' part' >>= fun b => result a b) :=
  .bind (keeps_fetchAs h r sigma tag part) fun a _ =>
    .bind (keeps_fetchAs h r argument tag' part') fun b _ => gives a b

omit h in
/-- What an operation on integers gives is a number or a truth value. -/
theorem texts_of_integerResult {op : Arithmetic} {a b : Int64} {v : Value}
    (gives : integerResult op a b = .ok v) : v.texts = [] := by
  cases op with
  | div =>
      simp only [integerResult] at gives
      split at gives
      · cases gives
      · cases gives
        rfl
  | _ =>
      cases gives
      rfl

omit h in
theorem texts_realResult (op : Arithmetic) (a b : Float) : (realResult op a b).texts = [] := by
  cases op <;> rfl

theorem keeps_methodResult (m : Method) (r : Ref) : (methodResult ask m r).Keeps V := by
  cases m with
  | eq =>
      exact .bind (gives_fetch h r sigma) fun a _ => .bind (.hold a.items (gives_fetch h r "x"))
        fun b _ => .bind (.looks _) fun same _ => .data covers_nil
  | int op =>
      have argument (op : Arithmetic) (a b : Int64) :
          Action.Keeps V (conclude (integerResult op a b) >>= data) :=
        .bind (.conclude fun v gives => texts_of_integerResult gives) fun v none =>
          .data (none ▸ covers_nil)
      cases op with
      | neg => exact keeps_unary h r _ _ fun a => .data covers_nil
      | _ => exact keeps_binary h r _ _ _ _ _ (argument _)
  | float op =>
      cases op with
      | neg => exact keeps_unary h r _ _ fun a => .data covers_nil
      | _ =>
          exact keeps_binary h r _ _ _ _ _ fun a b => .data (texts_realResult _ a b ▸ covers_nil)
  | negation => exact keeps_unary h r _ _ fun a => .data covers_nil
  | conjunction => exact keeps_binary h r _ _ _ _ _ fun a b => .data covers_nil
  | disjunction => exact keeps_binary h r _ _ _ _ _ fun a b => .data covers_nil
  | choose =>
      exact .bind (keeps_fetchAs h r sigma _ _) fun _ _ =>
        .bind (keeps_find h r _) fun _ _ => keeps_read h _
  | stringLength => exact keeps_unary h r _ _ fun s => .data covers_nil
  | concat => exact keeps_binary h r _ _ _ _ _ fun a b => .data covers_nil
  | bytesSize => exact keeps_unary h r _ _ fun bs => .data covers_nil
  | arrayLength => exact keeps_unary h r _ _ fun items => .data covers_nil
  | element =>
      exact .bind (keeps_fetchAs h r sigma _ _) fun items _ =>
        .bind (.hold items (keeps_fetchAs h r "i" _ _)) fun index _ =>
          .conclude fun _ _ => trivial
  | find =>
      exact keeps_binary h r _ _ _ _ _ fun p text =>
        .bind (keeps_stringObjects _) fun _ _ => .data covers_nil

/-! ## Attempts -/

theorem keeps_signal (r : Ref) : (signal ask r).Keeps V :=
  .bind (keeps_find h r sigma) fun home _ => .bind (keeps_read h home) fun target _ =>
    .hold [target] (.bind (keeps_find h r "ex") fun argument _ =>
      .bind (keeps_read h argument) fun _ _ => .bind (.vertex target) fun _ _ => .fail _)

theorem keeps_partOf (r : Ref) (name : String) : (partOf ask r name).Keeps V :=
  .bind (keeps_find h r name) fun p _ => .bind (keeps_read h p) fun prototype _ =>
    .bind (.hold p.refs (keeps_copyOf h prototype)) fun part _ =>
      .bind (.hold [part] (keeps_moveTo h part r)) fun _ _ => .pure trivial

theorem gives_runMain (r : Ref) : (runMain ask r).Gives V fun v => V.Covers v.texts :=
  .bind (keeps_partOf h r "main") fun main _ => .hold [main]
    (.bind (keeps_placeAt h main 0) fun first _ => .bind (.alloc (V.signal r)) fun raiser _ =>
      .bind (keeps_write h first raiser) fun _ _ => gives_dataize h main)

theorem gives_runCatch (r payload : Ref) :
    (runCatch ask r payload).Gives V fun v => V.Covers v.texts :=
  .bind (.hold [payload] (keeps_partOf h r "catch")) fun _ _ =>
    .bind (.view (covers_cons.mpr ⟨V.position, covers_nil⟩)) fun _ _ => gives_dataize h _

theorem keeps_runFinally (r : Ref) : (runFinally ask r).Keeps V :=
  .bind (keeps_partOf h r "finally") fun final _ =>
    .bind (gives_dataize h final) fun _ _ => .pure trivial

/-- What an attempt is left with after its handler is a value of the main part or the handler. -/
theorem gives_handle (r : Ref) {outcome : Except Failure Value}
    (received : ∀ v, outcome = .ok v → V.Covers v.texts) :
    (handle ask r outcome).Gives V fun result => ∀ v, result = .ok v → V.Covers v.texts := by
  unfold handle
  split
  · refine .bind (.vertex r) fun own _ => .ite (gives_runCatch h r _).observe (.pure received)
  · exact .pure received

theorem keeps_attempt (r : Ref) : (attempt ask r).Keeps V :=
  .bind (gives_runMain h r).observe fun _ received =>
    .bind (gives_handle h r received) fun outcome received' =>
      .bind (.hold (outcomeRefs outcome) (keeps_runFinally h r)) fun _ _ =>
        .bind (.conclude received') fun _ covers => .data covers

/-! ## Expressions -/

theorem keeps_evalAll (self : Ref) {es : List Expr} (covers : V.Covers (Expr.wordsOf es)) :
    (evalAll ask self es).Keeps V := by
  induction es with
  | nil => exact .pure trivial
  | cons e rest ih =>
      obtain ⟨first, more⟩ := covers_append.mp covers
      exact .bind (keeps_eval h first self) fun r _ =>
        .bind (.hold [r] (ih more)) fun _ _ => .pure trivial

omit h in
theorem keeps_literal {type text : String} (covers : V.Covers (Expr.literal type text).words) :
    (literal type text).Keeps V := by
  rcases literal_cases type text with ⟨tag, v, known, read, made⟩ | refused | ⟨fault, refused⟩
  · rw [made]
    exact .data (covers_of_parse covers known read)
  · rw [refused]
    exact .fail _
  · rw [refused]
    exact .fail _

theorem gives_evalSlots (self : Ref) {attrs : List (String × SlotExpr)} {slots : Slots}
    (before : V.Covers slots.words) (covers : V.Covers (SlotExpr.wordsOf attrs)) :
    (evalSlots ask self slots attrs).Gives V fun slots => V.Covers slots.words := by
  induction attrs generalizing slots with
  | nil => exact .pure before
  | cons attr rest ih =>
      obtain ⟨name, e⟩ := attr
      rw [SlotExpr.wordsOf, covers_cons, covers_append] at covers
      obtain ⟨has, slot, more⟩ := covers
      cases e with
      | bound e =>
          exact .bind (keeps_eval h slot self) fun r _ =>
            .hold [r] (ih (covers_declare before has covers_nil) more)
      | _ => exact ih (covers_declare before has slot) more

theorem keeps_buildObject (self : Ref) {form : String} {home : Option Expr}
    {attrs : List (String × SlotExpr)} (covers : V.Covers (Expr.build form home attrs).words) :
    (buildObject ask self form home attrs).Keeps V := by
  have slots (inside : V.Covers (SlotExpr.wordsOf attrs)) :
      (evalSlots ask self [] attrs).Gives V fun slots => V.Covers slots.words :=
    gives_evalSlots h self covers_nil inside
  cases home with
  | none =>
      obtain ⟨has, inside⟩ := covers_cons.mp covers
      exact .bind (slots inside) fun _ covers => .alloc (covers_cons.mpr ⟨has, covers⟩)
  | some e =>
      obtain ⟨has, covers⟩ := covers_cons.mp covers
      obtain ⟨around, inside⟩ := covers_append.mp covers
      exact .bind (keeps_eval h around self) fun home _ =>
        .bind (.hold [home] (slots inside)) fun _ covers => .alloc (covers_cons.mpr ⟨has, covers⟩)

/-- What goes on with the object that a part of an expression gives. -/
theorem keeps_part (e : Expr) (self : Ref) (covers : V.Covers e.words) {k : Ref → Action Ref}
    (rest : ∀ r, (k r).Keeps V) : Action.Keeps V (ask (.eval e self) >>= k) :=
  .bind (keeps_eval h covers self) fun r _ => rest r

theorem keeps_evalExpr (self : Ref) {e : Expr} (covers : V.Covers e.words) :
    (evalExpr ask self e).Keeps V := by
  cases e with
  | self => exact .pure trivial
  | depth => exact .bind .frame fun _ _ => .data covers_nil
  | object r => exact .pure trivial
  | data v => exact .data covers
  | literal type text => exact keeps_literal covers
  | array items => exact .bind (keeps_evalAll h self covers) fun _ _ => .data covers_nil
  | global name =>
      refine .bind (.looks _) fun found _ => ?_
      cases found with
      | some r => exact .pure trivial
      | none => exact .fail _
  | name n => exact keeps_lookUp h self (covers n List.mem_cons_self)
  | get e name =>
      exact keeps_part h e self covers fun r =>
        .bind (keeps_find h r name) fun p _ => .hold [r] (keeps_read h p)
  | method e name =>
      obtain ⟨has, covers⟩ := covers_cons.mp covers
      exact keeps_part h e self covers fun r => .view (covers_cons.mpr ⟨has, covers_nil⟩)
  | bind e key value =>
      obtain ⟨has, covers⟩ := covers_cons.mp covers
      obtain ⟨base, argument⟩ := covers_append.mp covers
      exact keeps_part h e self base fun base =>
        .bind (.hold [base] (keeps_eval h argument self)) fun _ _ =>
          .view (covers_cons.mpr ⟨has, covers_nil⟩)
  | copied e => exact keeps_part h e self covers fun r => .view covers_nil
  | unvar e => exact keeps_part h e self covers fun r => .view covers_nil
  | copy e => exact keeps_part h e self covers fun r => .hold [r] (keeps_copyOf h r)
  | resolved e => exact keeps_part h e self covers fun r => keeps_settle h r
  | force e =>
      exact keeps_part h e self covers fun r =>
        .bind (gives_dataize h r) fun v covers => .data covers
  | fail message => exact .fail _
  | raise target payload =>
      obtain ⟨aim, carried⟩ := covers_append.mp covers
      exact keeps_part h target self aim fun t =>
        .bind (.hold [t] (keeps_eval h carried self)) fun p _ =>
          .bind (.vertex t) fun _ _ => .fail _
  | count counter e =>
      have counts : (change (·.count counter)).Keeps V :=
        .change fun s within => ⟨within.heap, within.trace⟩
      exact .bind counts fun _ _ => keeps_eval h (e := e) covers self
  | counter name => exact .bind (.looks _) fun n _ => .data covers_nil
  | build form home attrs => exact keeps_buildObject h self covers
  | native n =>
      cases n with
      | method m => exact keeps_methodResult h m self
      | attempt => exact keeps_attempt h self
      | signal => exact keeps_signal h self

/-! ## Runs -/

/-- **If requests are answered within the vocabulary, so is what is answered by means of them.** -/
theorem Answerer.KeepsTo.answer : Answerer.KeepsTo V (PhiCalculus.answer ask) := by
  intro α q within
  cases q with
  | find r name => exact .hold _ (keeps_findPlace h r name)
  | read p => exact .hold _ (keeps_readPlace h p)
  | resolve r => exact .hold _ (keeps_resolveView h r)
  | dataize r => exact .hold _ (gives_dataizeObject h r)
  | eval e self => exact .hold _ (keeps_evalExpr h self within)

theorem gives_globalValue (name : String) :
    (globalValue ask name).Gives V fun v => V.Covers v.texts := by
  refine .bind (.looks _) fun found _ => ?_
  cases found with
  | none => exact .fail _
  | some root =>
      exact .bind (.hold [root] (keeps_copyOf h root)) fun copy _ =>
        .hold [root] (gives_dataize h copy)

end

/-- **The evaluator answers within every vocabulary.** -/
theorem keepsTo_answerWithin (steps : Nat) : Answerer.KeepsTo V (answerWithin steps) := by
  induction steps with
  | zero => exact fun _ _ _ _ within => ⟨within, nofun⟩
  | succ steps ih => exact Answerer.KeepsTo.answer ih

/-- **All objects and all lines of a run have texts of the vocabulary, if the program does.** -/
theorem Program.run_within {p : Program} (covers : V.Covers p.words) {root : Option String}
    {tracing : Bool} {outcome : Outcome Value} (run : p.run root tracing = .ok outcome) :
    outcome.state.Within V := by
  have checked : p.check = .ok () := by
    rw [Program.run, Program.load] at run
    cases checked : p.check with
    | error fault =>
        rw [checked] at run
        cases run
    | ok _ => rfl
  rw [Program.run_of_checked checked] at run
  cases chosen : p.root root with
  | error fault =>
      rw [chosen] at run
      cases run
  | ok name =>
      rw [chosen] at run
      cases run
      exact (gives_globalValue (keepsTo_answerWithin stepLimit) name _ _ (within_base covers)).1

end PhiCalculus
