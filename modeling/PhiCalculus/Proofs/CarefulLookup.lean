import PhiCalculus.Proofs.CarefulObjects

/-!
# Lookup and views, with care

Looking up a name leads to what an object holds, to its home, or to an object around it.  A view
derives its object from what it holds, and is in use until the object is there.
-/

set_option autoImplicit false

namespace PhiCalculus

open PhiCalculus.Action

namespace Custody

variable {ι α β : Type} {W : Custody ι} {known keeps : List Ref} {setting : W.Setting} {s : State}

/-! ## Looking things up -/

/-- What is in a slot is held. -/
theorem holds_of_slot? {r x : Ref} {name : String} {slot : Slot}
    (found : s.heap.slot? r name = some slot) (there : x ∈ slot.refs) : x ∈ s.heap.holds r := by
  obtain ⟨t, kind, declared⟩ := table_of_slot? found
  refine Heap.holds_of_refs ?_
  rw [Cell.refs, kind]
  exact List.mem_append_right _ (Slots.mem_refs.mpr ⟨name, slot, Slots.mem_of_find? declared, there⟩)

/-- What a slot computes is properly evaluated for the object that declares it. -/
theorem proper_of_slot? {r : Ref} {name : String} {slot : Slot} {e : Expr}
    (found : s.heap.slot? r name = some slot) (refs : ∀ x ∈ e.refs, x ∈ slot.refs) :
    (Request.eval e r).Proper setting.held s := by
  obtain ⟨t, kind, -⟩ := table_of_slot? found
  exact ⟨Heap.lt_size_of_slot? found, isView_of_table kind,
    fun x there => .inl (holds_of_slot? found (refs x there))⟩

/-- The nearest object around that declares a name may be known. -/
theorem holds_enclosing? {i : ι} {r outer : Ref} {name : String} {fuel : Nat}
    (here : W.Holds i (r :: setting.held) s)
    (found : s.enclosing? setting.frame.held name fuel r = some outer) : W.Holds i [outer] s := by
  induction fuel generalizing r with
  | zero => cases found
  | succ fuel ih =>
      rw [State.enclosing?] at found
      cases homed : s.home? (r :: setting.frame.held) r with
      | none =>
          rw [homed] at found
          cases found
      | some home =>
          have covers (all : W.Whole) : ∀ x ∈ r :: setting.frame.held, x ∈ r :: setting.held :=
            fun x there => List.mem_cons.mpr ((List.mem_cons.mp there).imp id (setting.covers all))
          have around := W.home here List.mem_cons_self covers homed
          rw [homed] at found
          dsimp only at found
          split at found
          · cases found
            exact around
          · exact ih (W.both around (W.fewer here fun _ => List.mem_cons_of_mem r)) found

section

variable {r : Ref} {name : String}

theorem careful_findOnValue {v : Value} (kind : (s.heap.cell r).kind = .data v)
    (knows : W.Yields s known (r :: keeps)) :
    W.Cares setting keeps (fun _ _ => True) s known fun _ => findOnValue r v name := by
  have itself : W.Yields s known [r] := knows.trans (.one List.mem_cons_self)
  have stays : W.Yields s known keeps := knows.trans .tail
  have method (tag : TypeTag) (m : Method) : W.Cares setting keeps (fun _ _ => True) s known
      fun _ => (do
        let o ← alloc (.table (methodTable r tag name m))
        pure (.fixed r name o) : Action Place) := by
    refine .bind (careful_table rfl (.of_subset fun x there => ?_) ?_ knows)
      (fun o t _ _ => .pure ?_ trivial) .tail
    · obtain ⟨n, slot, declared, there⟩ := Slots.mem_refs.mp there
      rcases List.mem_append.mp declared with param | result
      · obtain ⟨_, _, same⟩ := List.mem_map.mp param
        cases same
        cases there
      · cases List.mem_singleton.mp result
        cases there
    · rintro _ ⟨⟩
      exact ⟨r, itself, .inl rfl⟩
    · exact (Yields.tail.trans (.one List.mem_cons_self)).cons
        ((Yields.one List.mem_cons_self).cons (Yields.tail.trans .tail))
  refine .ite (fun _ => .pure (itself.cons (itself.both stays)) trivial) fun _ => ?_
  split
  · -- an element of an array
    split
    · next items i _ _ _ item found =>
      have there : item ∈ items := by
        rw [getElem?_unpack, Option.map_eq_some_iff] at found
        obtain ⟨_, found, ⟨⟩⟩ := found
        exact List.mem_of_getElem? found
      have element : W.Yields s known [item] := itself.held (List.forall_mem_singleton.mpr
        (Heap.holds_of_refs (by rw [Cell.refs, kind]; exact there)))
      exact .pure (itself.cons (element.both stays)) trivial
    · exact .noSuchAttribute name r stays
  · -- a method
    split
    · exact method _ _
    · exact .noSuchAttribute name r stays

theorem careful_findHome (inUse : r ∈ setting.held) (knows : W.Yields s known setting.held)
    (stays : W.Yields s setting.held keeps) :
    W.Cares setting keeps (fun _ _ => True) s known fun _ => findHome r := by
  refine .around (.cell ?_)
  cases (s.heap.cell r).home? with
  | none => exact .noSuchAttribute sigma r (knows.trans stays)
  | some _ =>
      refine .look ?_
      cases homed : s.home? setting.frame.held r with
      | none =>
          exact .ends (Careful.fail (f := .homeGone (s.heap.subject r)) (knows.trans stays))
            fun _ => rfl
      | some home =>
          refine .ends (Careful.answer (Heap.Grows.refl _) (fun i here => ?_) trivial) fun _ => rfl
          have held := knows i s (Heap.Grows.refl _) here
          have itself := W.fewer held (List.forall_mem_singleton.mpr inUse)
          show W.Holds i ([r] ++ ([home] ++ keeps)) s
          exact W.both itself (W.both (W.home held inUse (fun all _ => setting.covers all) homed)
            (stays i s (Heap.Grows.refl _) held))

theorem careful_findPlace (inUse : r ∈ setting.held) (knows : W.Yields s known setting.held)
    (stays : W.Yields s setting.held keeps) :
    W.Cares setting keeps (fun _ _ => True) s known fun ask => findPlace ask r name := by
  have itself : W.Yields s setting.held [r] := .one inUse
  have known' : W.Yields s known (r :: setting.held) := knows.trans (itself.both .refl)
  refine .cell ?_
  cases kind : (s.heap.cell r).kind with
  | view v result =>
      exact .bind (Cares.resolve known' .tail)
        (fun o t grown _ => .find name .refl (Yields.tail.trans (stays.grows grown))) stays
  | data v => exact careful_findOnValue kind (knows.trans (itself.both stays))
  | table t =>
      have here : W.Yields s known (r :: keeps) := knows.trans (itself.both stays)
      refine .ite (fun _ => .pure here trivial) fun _ => .ite (fun _ => .pure ?_ trivial) fun _ =>
        .ite (fun _ => careful_findHome inUse knows stays) fun _ =>
          .ite (fun _ => .pure here trivial) fun _ => .ite (fun _ => ?_) fun _ =>
            .noSuchAttribute name r (knows.trans stays)
      · exact knows.trans (itself.cons (itself.both stays))
      · exact .bind (Cares.read (p := .slot r phi) known' .tail)
          (fun o t grown _ => .find name .refl (Yields.tail.trans (stays.grows grown))) stays

theorem careful_keep {computed : Ref} (knows : W.Yields s known (r :: computed :: keeps)) :
    W.Cares setting keeps (fun _ _ => True) s known fun _ => keep r name computed := by
  have stays : W.Yields s known (computed :: keeps) := knows.trans .tail
  refine .look ?_
  rcases found : s.heap.slot? r name with _ | (_ | ⟨origin, _ | kept⟩ | _ | _)
  case some.once.none =>
    have gains : W.Yields s known (r :: ([computed] ++ (computed :: keeps))) :=
      (knows.trans (.one List.mem_cons_self)).cons
        ((stays.trans (.one List.mem_cons_self)).both stays)
    have set : W.Cares setting (computed :: keeps) (fun _ _ => True) s known fun _ =>
        changeHeap (·.setSlot r name (.once origin (some computed))) :=
      .ends (careful_setSlot [computed] found (.once (.of_none (some computed))) (fun x there =>
        (List.mem_append.mp there).symm.imp (List.mem_append_right _) id) gains) fun _ => rfl
    exact .bind set (fun _ _ _ _ => .pure .refl trivial) .tail
  case some.once.some =>
    refine .pure (Yields.cons (Yields.held (knows.trans (.one List.mem_cons_self)) ?_)
      (stays.trans .tail)) trivial
    exact List.forall_mem_singleton.mpr (holds_of_slot? found (List.mem_append_left _
      List.mem_cons_self))
  all_goals exact .pure stays trivial

theorem careful_readPlace {p : Place} (inUse : ∀ x ∈ p.refs, x ∈ setting.held)
    (knows : W.Yields s known setting.held) (stays : W.Yields s setting.held keeps) :
    W.Cares setting keeps (fun _ _ => True) s known fun ask => readPlace ask p := by
  have rest : W.Yields s known keeps := knows.trans stays
  cases p with
  | fixed r name content =>
      exact .pure (knows.trans ((Yields.one (inUse content (by simp [Place.refs]))).both stays))
        trivial
  | owner r =>
      have itself : W.Yields s known [r] := knows.trans (.one (inUse r List.mem_cons_self))
      refine .cell ?_
      cases owned : (s.heap.cell r).owner? with
      | some owner =>
          exact .pure (Yields.cons (itself.held (List.forall_mem_singleton.mpr
            (holds_of_owner? owned))) rest) trivial
      | none =>
          exact .ends (Careful.fail (f := .notYetBound rho (s.heap.subject r)) rest) fun _ => rfl
  | slot r name =>
      have itself : W.Yields s setting.held [r] := .one (inUse r List.mem_cons_self)
      have known' : W.Yields s known (r :: setting.held) := knows.trans (itself.both .refl)
      have content {slot : Slot} {x : Ref} (found : s.heap.slot? r name = some slot)
          (there : x ∈ slot.refs) : W.Cares setting keeps (fun _ _ => True) s known fun _ =>
            (pure x : Action Ref) :=
        .pure (Yields.cons ((knows.trans itself).held (List.forall_mem_singleton.mpr
          (holds_of_slot? found there))) rest) trivial
      have unbound : W.Cares setting keeps (fun _ _ => True) s known fun _ =>
          (do fail (.notYetBound name (← subject r)) : Action Ref) :=
        .ends (Careful.fail (f := .notYetBound name (s.heap.subject r)) rest) fun _ => rfl
      refine .look ?_
      rcases found : s.heap.slot? r name with _ | (stored | ⟨origin, cache⟩ | items | origin)
      · exact unbound
      · cases stored with
        | none => exact unbound
        | some x => exact content found List.mem_cons_self
      · cases cache with
        | none =>
            have proper : (Request.eval origin r).Proper setting.held s :=
              proper_of_slot? found fun x there => there
            refine .bind (Cares.eval proper known' .tail) (fun computed t grown _ => ?_) stays
            exact careful_keep ((Yields.tail.trans (itself.grows grown)).cons
              (.cons (.one List.mem_cons_self) (Yields.tail.trans (stays.grows grown))))
        | some kept => exact content found List.mem_cons_self
      · exact careful_data (Yields.held (knows.trans itself) fun x there =>
          holds_of_slot? found there) rest
      · exact .eval (proper_of_slot? found fun x there => there) known' (Yields.tail.trans stays)

/-! ## Names in scope -/

theorem careful_lookUp (knows : W.Yields s known (r :: setting.held))
    (stays : W.Yields s setting.held keeps) :
    W.Cares setting keeps (fun _ _ => True) s known fun ask => lookUp ask r name := by
  have rest : W.Yields s known keeps := knows.trans (Yields.tail.trans stays)
  refine .around (.look (.ite (fun _ => ?_) fun _ => .look ?_))
  · exact .read (p := .slot r name) knows (Yields.tail.trans stays)
  · cases found : s.enclosing? setting.frame.held name (r.index + 1) r with
    | some outer =>
        -- the object around may be known now, if not later
        refine Cares.enter (careful_view (.one List.mem_cons_self) .tail) fun i here => ?_
        have here := knows i s (Heap.Grows.refl _) here
        exact W.both (holds_enclosing? here found) (stays i s (Heap.Grows.refl _)
          (W.fewer here fun _ => List.mem_cons_of_mem r))
    | none =>
        refine .look ?_
        cases global : s.global? name with
        | some g =>
            refine Cares.enter (careful_view (.one List.mem_cons_self) .tail) fun i here => ?_
            exact W.both (W.global here global) (rest i s (Heap.Grows.refl _) here)
        | none => exact .noSuchAttribute name r rest

end

/-! ## Views -/

section

variable {r : Ref}

theorem careful_bindTo {base value : Ref} {key : Key} (args : W.Yields s setting.held [base, value])
    (knows : W.Yields s known setting.held) (stays : W.Yields s setting.held keeps) :
    W.Cares setting keeps (fun _ _ => True) s known fun ask => bindTo ask base key value := by
  have ofBase : W.Yields s setting.held (base :: setting.held) :=
    (args.trans (.one List.mem_cons_self)).both .refl
  refine .bind (careful_settle (knows.trans ofBase) .tail) (fun o t grown _ => .hold [o] ?_) stays
  refine .bind (careful_copyOf (.of_subset fun x there => ?_) .refl)
    (fun c u grown' ⟨exist, concrete⟩ => .hold [c] ?_) (Yields.tail.trans (stays.grows grown))
  · exact (List.mem_cons.mp there).elim (fun is => is ▸ List.mem_cons_self) id
  -- the copy, the base and what was in use before are in use from here on
  have around : ((setting.holding [o]).holding [c]).held = c :: o :: setting.held := rfl
  generalize (setting.holding [o]).holding [c] = inner at around ⊢
  have target {w : State} : W.Yields w inner.held [c] := by
    rw [around]
    exact .one List.mem_cons_self
  have outer {w : State} : W.Yields w inner.held setting.held := by
    rw [around]
    exact Yields.tail.trans .tail
  have rest (known : List Ref) (w : State) (later : u.heap.Grows w.heap)
      (knows : W.Yields w known inner.held) :
      W.Cares inner keeps (fun _ _ => True) w known fun ask => (do
        let place ← placeOf ask c key
        write ask place value
        pure c : Action Ref) := by
    have concrete : (w.heap.cell c).isView = false :=
      (later.cell c exist).isView.trans concrete
    have grown := (grown.trans grown').trans later
    cases lands : (w.heap.cell c).slots.landing? key with
    | none =>
        refine .ends (Careful.fail (f := .noSuchAttribute key.sought (w.heap.subject c))
          (knows.trans (outer.trans (stays.grows grown)))) fun ask => ?_
        exact bind_of_failure (placeOf_nowhere concrete lands) _
    | some name =>
        have writes : W.Cares inner keeps (fun _ _ => True) w known fun ask => (do
            write ask (.slot c name) value
            pure c : Action Ref) := by
          refine .bind (careful_write ?_ target .refl) (fun _ v grown'' _ => ?_)
            (outer.trans (stays.grows grown))
          · exact knows.trans (Yields.cons (outer.trans ((args.grows grown).trans
              (.one (List.mem_cons_of_mem _ List.mem_cons_self)))) .refl)
          · exact .pure (target.both (outer.trans (stays.grows (grown.trans grown'')))) trivial
        exact .of_eq writes fun ask => bind_of_answer (placeOf_landing concrete lands) _
  refine .bind (careful_ownerOf (.of_subset fun x there => ?_) .refl) (fun owner w later bound => ?_)
    (outer.trans (stays.grows (grown.trans grown')))
  · rw [around] at there
    simp only [Mentions.refs, Setting.held_holding, List.mem_cons, List.mem_append] at there ⊢
    tauto
  cases owner with
  | none => exact rest _ w later .refl
  | some owner =>
      obtain ⟨x, owned⟩ := bound owner rfl
      have concrete : (w.heap.cell c).isView = false := (later.cell c exist).isView.trans concrete
      refine .bind (careful_moveTo concrete ?_ fun i here => W.owner_bound here owned)
        (fun _ v later' _ => rest _ v (later.trans later') .refl) (outer.trans (stays.grows
          ((grown.trans grown').trans later)))
      exact (Yields.tail.trans target).cons .refl

theorem careful_methodOf {base : Ref} {name : String} (arg : W.Yields s setting.held [base])
    (knows : W.Yields s known setting.held) (stays : W.Yields s setting.held keeps) :
    W.Cares setting keeps (fun _ _ => True) s known fun ask => methodOf ask base name := by
  refine .bind (careful_settle (knows.trans (arg.both .refl)) .tail)
    (fun o t grown concrete => .existing List.mem_cons_self fun exist => .hold [o] ?_) stays
  have around : (setting.holding [o]).held = o :: setting.held := rfl
  generalize setting.holding [o] = inner at around ⊢
  have base {w : State} : W.Yields w inner.held [o] := by
    rw [around]
    exact .one List.mem_cons_self
  have stays {w : State} (later : t.heap.Grows w.heap) : W.Yields w inner.held keeps := by
    rw [around]
    exact Yields.tail.trans (stays.grows (grown.trans later))
  have start : W.Yields t (o :: setting.held) inner.held := by
    rw [around]
    exact .refl
  refine .bind (Cares.find name (start.trans (base.both .refl)) .tail) (fun p u later _ => ?_)
    (stays (Heap.Grows.refl _))
  refine .bind (Cares.read .refl (.of_subset fun _ => List.mem_append_right _))
    (fun found v later' _ => .cell (.ite (fun _ => .pure ?_ trivial) fun _ => .hold [found] ?_))
    (stays later)
  · exact (Yields.one List.mem_cons_self).both (Yields.tail.trans (stays (later.trans later')))
  -- the attribute is no value: it is copied, and the base becomes the owner of the copy
  have within : ((inner.holding [found]).held) = found :: inner.held := rfl
  refine .bind (careful_copyOf (.of_subset fun x there => ?_) .refl)
    (fun method w later'' ⟨exist', concrete'⟩ => ?_)
    (Yields.tail.trans (stays (later.trans later')))
  · rw [within] at there
    simp only [Mentions.refs, List.mem_cons, List.mem_append, List.not_mem_nil] at there ⊢
    tauto
  have grown' := (later.trans later').trans later''
  have owns : W.Owner w o := W.owner_concrete ((grown'.cell o exist).isView.trans concrete)
  have itself : W.Yields w (method :: (found :: inner.held)) [method] := .one List.mem_cons_self
  have outer : W.Yields w (method :: (found :: inner.held)) inner.held := Yields.tail.trans .tail
  have known : W.Yields w (method :: (found :: inner.held)) (method :: o :: (method :: keeps)) :=
    itself.cons ((outer.trans base).cons (itself.cons (outer.trans (stays grown'))))
  exact .bind (careful_moveTo concrete' known fun _ _ => owns)
    (fun _ _ _ _ => .pure .refl trivial) .tail

/-- What a view derives its object from is held by the view. -/
theorem careful_derivedBy {v : View} (args : W.Yields s setting.held v.refs)
    (knows : W.Yields s known setting.held) (stays : W.Yields s setting.held keeps) :
    W.Cares setting keeps (fun _ _ => True) s known fun ask => derivedBy ask v := by
  have both (base : Ref) (arg : W.Yields s setting.held [base]) :
      W.Yields s known (base :: setting.held) := knows.trans (arg.both .refl)
  cases v with
  | bind base key value => exact careful_bindTo args knows stays
  | method base name => exact careful_methodOf args knows stays
  | copy base => exact (careful_copyOf (both base args) stays).weaken fun _ _ _ => trivial
  | unvar base =>
      exact (careful_settle (both base args) (Yields.tail.trans stays)).weaken fun _ _ _ => trivial

theorem careful_keepResult {derived : Ref} (knows : W.Yields s known (r :: derived :: keeps)) :
    W.Cares setting keeps (fun _ _ => True) s known fun _ => keepResult r derived := by
  have itself : W.Yields s known [r] := knows.trans (.one List.mem_cons_self)
  have there : W.Yields s known (derived :: keeps) := knows.trans .tail
  by_cases filled : ∃ v kept, (s.heap.cell r).kind = .view v (some kept)
  · obtain ⟨v, kept, kind⟩ := filled
    refine .ends (Careful.pure (a := kept) (Yields.cons (itself.held ?_) (there.trans .tail))
      trivial) fun _ => ?_
    · refine List.forall_mem_singleton.mpr (Heap.holds_of_refs ?_)
      rw [Cell.refs, kind]
      exact List.mem_append_right _ List.mem_cons_self
    · rw [keepResult, bind_of_answer (cell_apply r setting.frame s), kind]
      rfl
  · have empty : ∀ v kept, (s.heap.cell r).kind ≠ .view v (some kept) :=
      fun v kept is => filled ⟨v, kept, is⟩
    refine .ends (Careful.answer (a := derived) (t := { s with heap := s.heap.setResult r derived })
      (s.heap.grows_setResult empty) (fun i here => ?_) trivial) fun _ => ?_
    · have here := W.result (knows i s (Heap.Grows.refl _) here) List.mem_cons_self
        (List.mem_cons_of_mem _ List.mem_cons_self) empty
      exact W.fewer here fun _ => List.mem_cons_of_mem r
    · rw [keepResult, bind_of_answer (cell_apply r setting.frame s)]
      cases kind : (s.heap.cell r).kind with
      | view v result =>
          cases result with
          | some kept => exact absurd kind (empty v kept)
          | none => rfl
      | _ => rfl

theorem careful_resolveView (inUse : r ∈ setting.held) (knows : W.Yields s known setting.held)
    (stays : W.Yields s setting.held keeps) :
    W.Cares setting keeps (fun o t => (t.heap.cell o).isView = false) s known
      fun ask => resolveView ask r := by
  have itself : W.Yields s setting.held [r] := .one inUse
  have refers {x : Ref} (there : x ∈ (s.heap.cell r).refs) : x ∈ s.heap.holds r :=
    Heap.holds_of_refs there
  refine .cell ?_
  cases kind : (s.heap.cell r).kind with
  | table t => exact .pure (knows.trans (itself.both stays)) (isView_of_table kind)
  | data v => exact .pure (knows.trans (itself.both stays)) (isView_of_data kind)
  | view v result =>
      rw [Cell.refs, kind] at refers
      cases result with
      | some kept =>
          have held : W.Yields s setting.held [kept] := itself.held (List.forall_mem_singleton.mpr
            (refers (List.mem_append_right _ List.mem_cons_self)))
          exact careful_settle (knows.trans (held.both .refl)) (Yields.tail.trans stays)
      | none =>
          have args : W.Yields s setting.held v.refs := itself.held fun x there =>
            refers (List.mem_append_left _ there)
          refine .bind (careful_derivedBy args knows .refl) (fun derived t grown _ => ?_) stays
          have known : W.Yields t (derived :: setting.held) (r :: derived :: setting.held) :=
            (Yields.tail.trans (itself.grows grown)).cons .refl
          exact .bind (careful_keepResult known) (fun kept u later _ => careful_settle .refl
            (Yields.tail.trans (stays.grows (grown.trans later)))) (stays.grows grown)

end

end Custody

end PhiCalculus
