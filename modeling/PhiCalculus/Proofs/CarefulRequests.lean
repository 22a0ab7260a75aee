import PhiCalculus.Proofs.CarefulLookup

/-!
# Dataization, methods and attempts, with care

A value that is needed later is in use, or it is put together before anything else is asked for.
The parts of an attempt are copies that the attempt owns, and the outcome of a part is in use while
the next one runs.
-/

set_option autoImplicit false

namespace PhiCalculus

open PhiCalculus.Action

namespace Custody

variable {ι α β : Type} {W : Custody ι} {known keeps : List Ref} {setting : W.Setting} {s : State}

/-! ## Dataization -/

section

variable {r : Ref}

/-- The elements of an array are held. -/
theorem holds_of_value? {v : Value} (isValue : (s.heap.cell r).value? = some v) {x : Ref}
    (there : x ∈ v.items) : x ∈ s.heap.holds r := by
  refine Heap.holds_of_refs ?_
  rw [Cell.value?] at isValue
  rw [Cell.refs]
  cases kind : (s.heap.cell r).kind with
  | data u =>
      rw [kind] at isValue
      cases isValue
      exact there
  | table t => simp [kind] at isValue
  | view u result => simp [kind] at isValue

theorem careful_findData (knows : W.Yields s known (r :: setting.held))
    (stays : W.Yields s setting.held keeps) :
    W.Cares setting keeps (fun _ _ => True) s known fun ask => findData ask r := by
  refine .bind (.observe (.find delta knows .tail)) (fun e t grown _ => ?_) stays
  have received : W.Yields t (Mentions.refs e ++ setting.held) (Mentions.refs e ++ keeps) :=
    Yields.both (.of_subset fun _ => List.mem_append_left _)
      ((Yields.of_subset fun _ => List.mem_append_right _).trans (stays.grows grown))
  rcases e with f | place
  · cases f with
    | noSuchAttribute attr object =>
        exact .ite (fun _ => .plain rfl received) fun _ => .plain rfl received
    | _ => exact .fail received
  · exact .pure received trivial

theorem careful_forceValue (knows : W.Yields s known (r :: setting.held))
    (stays : W.Yields s setting.held keeps) :
    W.Cares setting keeps (fun _ _ => True) s known fun ask => forceValue ask r := by
  have value {t : State} {x : Ref} {v : Value} (isValue : (t.heap.cell x).value? = some v)
      (grown : s.heap.Grows t.heap) :
      W.Yields t (x :: setting.held) (v.items ++ keeps) :=
    (Yields.held (.one List.mem_cons_self) fun _ there => holds_of_value? isValue there).both
      (Yields.tail.trans (stays.grows grown))
  refine .cell ?_
  cases isValue : (s.heap.cell r).value? with
  | some v => exact .pure (knows.trans (value isValue (Heap.Grows.refl _))) trivial
  | none =>
      refine .bind (careful_findData knows .refl) (fun place t grown _ => ?_) stays
      refine .bind (Cares.read .refl (.of_subset fun _ => List.mem_append_right _))
        (fun found u later _ => .cell ?_) (stays.grows grown)
      cases isValue : (u.heap.cell found).value? with
      | some v => exact .pure (value isValue (grown.trans later)) trivial
      | none =>
          have rest := (Yields.tail (r := found)).trans (stays.grows (grown.trans later))
          exact .ends (Careful.fail (f := .notData (u.heap.subject r)
            (.holds (u.heap.subject found))) rest) fun _ => rfl

theorem careful_leaveLine {depth : Nat} {v : Value} (stays : W.Yields s known keeps) :
    W.Cares setting keeps (fun _ _ => True) s known fun _ => leaveLine depth r v := by
  refine .finite stays fun term => .finite stays fun value => ?_
  have changed : W.Cares setting keeps (fun _ _ => True) s known fun _ => (do
      change fun s => { s with trace := traceLine depth term value :: s.trace }
      pure () : Action Unit) := .change rfl rfl (.pure stays trivial)
  exact .of_eq changed fun _ => rfl

theorem careful_place {f : Failure} (knows : W.Yields s known (f.refs ++ keeps)) :
    W.Cares setting keeps (fun _ _ => True) s known fun _ => place r f := by
  have stays : W.Yields s known keeps :=
    knows.trans (.of_subset fun _ => List.mem_append_right _)
  exact .ite (fun _ => .fail knows) fun _ => .finite stays fun term => .plain rfl stays

theorem careful_dataizeObject (knows : W.Yields s known (r :: setting.held))
    (stays : W.Yields s setting.held keeps) :
    W.Cares setting keeps (fun _ _ => True) s known fun ask => dataizeObject ask r := by
  have deeper : W.Cares setting setting.held (fun _ _ => True) s known fun ask =>
      deeper (forceValue ask r) :=
    .deeper (careful_forceValue knows .refl)
  refine .around (.bind (.observe deeper) (fun e t grown _ => ?_) stays)
  have received : W.Yields t (Mentions.refs e ++ setting.held) (Mentions.refs e ++ keeps) :=
    Yields.both (.of_subset fun _ => List.mem_append_left _)
      ((Yields.of_subset fun _ => List.mem_append_right _).trans (stays.grows grown))
  cases e with
  | ok v =>
      exact .ite (fun _ => .bind (careful_leaveLine received) (fun _ _ _ _ => .pure .refl trivial)
        (.of_subset fun _ => List.mem_append_right _)) fun _ => .pure received trivial
  | error f => exact careful_place received

/-! ## Parameters -/

theorem careful_fetch {attr : String} (knows : W.Yields s known (r :: setting.held))
    (stays : W.Yields s setting.held keeps) :
    W.Cares setting keeps (fun _ _ => True) s known fun ask => fetch ask r attr := by
  refine .bind (Cares.find attr knows .tail) (fun p t grown _ => .hold p.refs ?_) stays
  have outer {u : State} : W.Yields u (setting.holding p.refs).held setting.held :=
    .of_subset fun _ => List.mem_append_right _
  refine .bind (Cares.read (.of_subset fun x there => ?_) (.of_subset fun _ =>
    List.mem_append_right _)) (fun o u later _ => ?_) (outer.trans (stays.grows grown))
  · exact (List.mem_append.mp there).elim (List.mem_append_left _) id
  · exact .dataize .refl (Yields.tail.trans (outer.trans (stays.grows (grown.trans later))))

theorem careful_fetchAs [Mentions α] {attr : String} {tag : TypeTag}
    {part : Value → Option α}
    (parts : ∀ v a, part v = some a → ∀ x ∈ Mentions.refs a, x ∈ v.items)
    (knows : W.Yields s known (r :: setting.held)) (stays : W.Yields s setting.held keeps) :
    W.Cares setting keeps (fun _ _ => True) s known fun ask => fetchAs ask r attr tag part := by
  have typed : W.Cares setting setting.held (fun _ _ => True) s known fun ask =>
      fetchTyped ask r attr tag :=
    .bind (careful_fetch knows .refl) (fun v t _ _ => .ite (fun _ => .pure .refl trivial) fun _ =>
      .plain rfl (.of_subset fun _ => List.mem_append_right _)) .refl
  refine .bind typed (fun v t grown _ => ?_) stays
  have rest : W.Yields t (v.items ++ setting.held) keeps :=
    (Yields.of_subset fun _ => List.mem_append_right _).trans (stays.grows grown)
  cases found : part v with
  | some a =>
      exact .pure (Yields.both (.of_subset fun x there => List.mem_append_left _
        (parts v a found x there)) rest) trivial
  | none => exact .plain rfl rest

/-! ## Methods -/

/-- A part that mentions no object. -/
theorem parts_of_none [Mentions α] {part : Value → Option α}
    (none : ∀ a : α, Mentions.refs a = []) :
    ∀ v a, part v = some a → ∀ x ∈ Mentions.refs a, x ∈ v.items := by
  intro v a _ x there
  rw [none a] at there
  cases there

/-- A method without arguments. -/
theorem careful_unary [Mentions α] {tag : TypeTag} {part : Value → Option α}
    {result : α → Action Ref}
    (parts : ∀ v a, part v = some a → ∀ x ∈ Mentions.refs a, x ∈ v.items)
    (knows : W.Yields s known (r :: setting.held)) (stays : W.Yields s setting.held keeps)
    (gives : ∀ a t known, W.Yields t known keeps → W.Cares setting keeps (fun _ _ => True) t known
      fun _ => result a) :
    W.Cares setting keeps (fun _ _ => True) s known fun ask =>
      fetchAs ask r sigma tag part >>= result :=
  .bind (careful_fetchAs parts knows .refl) (fun a t grown _ => gives a t _
    ((Yields.of_subset fun _ => List.mem_append_right _).trans (stays.grows grown))) stays

/-- A method with one argument. -/
theorem careful_binary [Mentions α] [Mentions β] {argument : String}
    {tag tag' : TypeTag} {part : Value → Option α} {part' : Value → Option β}
    {result : α → β → Action Ref}
    (none : ∀ a : α, Mentions.refs a = []) (none' : ∀ b : β, Mentions.refs b = [])
    (inUse : r ∈ setting.held) (knows : W.Yields s known setting.held)
    (stays : W.Yields s setting.held keeps)
    (gives : ∀ a b t known, W.Yields t known keeps → W.Cares setting keeps (fun _ _ => True) t known
      fun _ => result a b) :
    W.Cares setting keeps (fun _ _ => True) s known fun ask =>
      fetchAs ask r sigma tag part >>= fun a =>
        fetchAs ask r argument tag' part' >>= fun b => result a b := by
  have itself {t : State} : W.Yields t setting.held (r :: setting.held) := (Yields.one inUse).both .refl
  refine .bind (careful_fetchAs (parts_of_none none) (knows.trans itself) .refl)
    (fun a t grown _ => ?_) stays
  have outer {u : State} {xs : List Ref} : W.Yields u (xs ++ setting.held) setting.held :=
    .of_subset fun _ => List.mem_append_right _
  exact .bind (careful_fetchAs (parts_of_none none') (outer.trans itself) .refl)
    (fun b u later _ => gives a b u _ (outer.trans (stays.grows (grown.trans later))))
    (stays.grows grown)

theorem careful_stringObjects (texts : List String) (stays : W.Yields s known keeps) :
    W.Cares setting keeps (fun _ _ => True) s known fun _ => stringObjects texts := by
  induction texts generalizing s known keeps with
  | nil => exact .pure stays trivial
  | cons text rest ih =>
      refine .bind (careful_data .nil stays) (fun o t grown _ => ?_) .refl
      refine .bind (ih .refl) (fun os u _ _ => .pure (.of_subset ?_) trivial)
        .tail
      intro x there
      simp only [Mentions.refs, id, List.mem_append, List.mem_cons] at there ⊢
      tauto

end

section

variable {r : Ref}

theorem refs_integerResult (op : Arithmetic) (a b : Int64) :
    Mentions.refs (integerResult op a b) = [] := by
  cases op with
  | div =>
      simp only [integerResult]
      split <;> rfl
  | _ => rfl

theorem refs_elementAt {items : List Ref} {index : Int64} {x : Ref}
    (there : x ∈ Mentions.refs (elementAt items index)) : x ∈ items := by
  simp only [elementAt] at there
  split at there
  · cases there
  · split at there
    · next item found =>
      cases List.mem_singleton.mp there
      exact List.mem_of_getElem? found
    · cases there

theorem careful_methodResult (m : Method) (inUse : r ∈ setting.held)
    (knows : W.Yields s known setting.held) (stays : W.Yields s setting.held keeps) :
    W.Cares setting keeps (fun _ _ => True) s known fun ask => methodResult ask m r := by
  have itself {t : State} : W.Yields t setting.held (r :: setting.held) := (Yields.one inUse).both .refl
  have known' : W.Yields s known (r :: setting.held) := knows.trans itself
  -- results without elements
  have gives (v : Value) (plain : v.items = []) (t : State) (known : List Ref)
      (stays : W.Yields t known keeps) :
      W.Cares setting keeps (fun _ _ => True) t known fun _ => data v :=
    careful_data (by rw [plain]; exact .nil) stays
  have outer {u : State} {xs : List Ref} : W.Yields u (xs ++ setting.held) setting.held :=
    .of_subset fun _ => List.mem_append_right _
  cases m with
  | eq =>
      refine .bind (careful_fetch known' .refl) (fun a t grown _ => ?_) stays
      have inner : W.Cares setting setting.held (fun _ _ => True) t (a.items ++ setting.held) fun ask =>
          hold a.items (fetch ask r "x") := .hold a.items (careful_fetch
            (Yields.both (.one (List.mem_append_right _ inUse)) .refl) outer)
      exact .bind inner (fun b u later _ => .look (gives _ rfl u _
        (outer.trans (stays.grows (grown.trans later))))) (stays.grows grown)
  | int op =>
      have argument (op : Arithmetic) (a b : Int64) (t : State) (known : List Ref)
          (stays : W.Yields t known keeps) : W.Cares setting keeps (fun _ _ => True) t known
            fun _ => conclude (integerResult op a b) >>= data := by
        refine .bind (.conclude (Yields.trans stays ?_)) (fun v u _ _ => careful_data
          (.of_subset fun _ => List.mem_append_left _)
            (.of_subset fun _ => List.mem_append_right _)) .refl
        rw [refs_integerResult]
        exact .refl
      cases op with
      | neg => exact careful_unary (parts_of_none fun _ => rfl) known' stays fun a => gives _ rfl
      | _ => exact careful_binary (fun _ => rfl) (fun _ => rfl) inUse knows stays (argument _)
  | float op =>
      cases op with
      | neg => exact careful_unary (parts_of_none fun _ => rfl) known' stays fun a => gives _ rfl
      | _ =>
          exact careful_binary (fun _ => rfl) (fun _ => rfl) inUse knows stays
            fun a b => gives _ rfl
  | negation => exact careful_unary (parts_of_none fun _ => rfl) known' stays fun a => gives _ rfl
  | conjunction =>
      exact careful_binary (fun _ => rfl) (fun _ => rfl) inUse knows stays fun a b => gives _ rfl
  | disjunction =>
      exact careful_binary (fun _ => rfl) (fun _ => rfl) inUse knows stays fun a b => gives _ rfl
  | choose =>
      refine .bind (careful_fetchAs (parts_of_none fun _ => rfl) known' .refl)
        (fun a t grown _ => ?_) stays
      refine .bind (Cares.find _ (outer.trans itself) .tail) (fun branch u later _ => ?_)
        (stays.grows grown)
      exact .read .refl (outer.trans (stays.grows (grown.trans later)))
  | stringLength =>
      exact careful_unary (parts_of_none fun _ => rfl) known' stays fun a => gives _ rfl
  | concat =>
      exact careful_binary (fun _ => rfl) (fun _ => rfl) inUse knows stays fun a b => gives _ rfl
  | bytesSize =>
      exact careful_unary (parts_of_none fun _ => rfl) known' stays fun a => gives _ rfl
  | arrayLength =>
      refine careful_unary (fun v a is x there => ?_) known' stays fun a => gives _ rfl
      cases v with
      | array items =>
          cases is
          exact there
      | _ => cases is
  | element =>
      refine .bind (careful_fetchAs (fun v a is x there => ?_) known' .refl)
        (fun items t grown _ => ?_) stays
      · cases v with
        | array items =>
            cases is
            exact there
        | _ => cases is
      · have inner : W.Cares setting (items ++ setting.held) (fun _ _ => True) t (items ++ setting.held)
            fun ask => hold items (fetchInt ask r "i") := .hold items (careful_fetchAs
              (parts_of_none fun _ => rfl)
              (Yields.both (.one (List.mem_append_right _ inUse)) .refl) .refl)
        refine .bind inner (fun index u later _ => .conclude ?_)
          (outer.trans (stays.grows grown))
        exact Yields.both (.of_subset fun x there => List.mem_append_right _
          (List.mem_append_left _ (refs_elementAt there)))
            (Yields.trans (.of_subset fun x there => List.mem_append_right _
              (List.mem_append_right _ there)) (stays.grows (grown.trans later)))
  | find =>
      refine careful_binary (fun _ => rfl) (fun _ => rfl) inUse knows stays
        fun a b t known stays => ?_
      exact .bind (careful_stringObjects _ stays) (fun os u _ _ => careful_data
        (.of_subset fun _ => List.mem_append_left _) (.of_subset fun _ => List.mem_append_right _))
          .refl

end

/-! ## Attempts -/

section

variable {r : Ref}

theorem careful_signal (inUse : r ∈ setting.held) (knows : W.Yields s known setting.held)
    (stays : W.Yields s setting.held keeps) :
    W.Cares setting keeps (fun _ _ => True) s known fun ask => signal ask r := by
  have itself {t : State} : W.Yields t setting.held (r :: setting.held) := (Yields.one inUse).both .refl
  have outer {u : State} {xs : List Ref} : W.Yields u (xs ++ setting.held) setting.held :=
    .of_subset fun _ => List.mem_append_right _
  refine .bind (Cares.find sigma (knows.trans itself) .tail) (fun home t grown _ => ?_) stays
  refine .bind (Cares.read .refl outer) (fun target u later _ => .hold [target] ?_)
    (stays.grows grown)
  have beyond {v : State} : W.Yields v (setting.holding [target]).held setting.held := outer
  refine .bind (Cares.find "ex" (.both (beyond.trans (.one inUse)) .refl) .tail)
    (fun argument v later' _ => ?_) (beyond.trans (stays.grows (grown.trans later)))
  have rest := stays.grows ((grown.trans later).trans later')
  refine .bind (Cares.read .refl (.of_subset fun _ => List.mem_append_right _))
    (fun payload w later'' _ => ?_) (beyond.trans rest)
  exact .ends (Careful.fail (f := .raise (w.heap.vertex target) payload) ((Yields.one
    List.mem_cons_self).both (Yields.tail.trans (beyond.trans (rest.grows later''))))) fun _ => rfl

/-- A part of an attempt is a copy that the attempt owns. -/
theorem careful_partOf {name : String} (inUse : r ∈ setting.held) (exist : r.index < s.heap.size)
    (concrete : (s.heap.cell r).isView = false) (knows : W.Yields s known setting.held)
    (stays : W.Yields s setting.held keeps) :
    W.Cares setting keeps (fun o t => o.index < t.heap.size ∧ (t.heap.cell o).isView = false)
      s known fun ask => partOf ask r name := by
  have itself {t : State} : W.Yields t setting.held (r :: setting.held) := (Yields.one inUse).both .refl
  have outer {u : State} {xs : List Ref} : W.Yields u (xs ++ setting.held) setting.held :=
    .of_subset fun _ => List.mem_append_right _
  refine .bind (Cares.find name (knows.trans itself) .tail) (fun p t grown _ => ?_) stays
  -- the place is in use until the prototype is copied
  have copied (prototype : Ref) (u : State) (later : t.heap.Grows u.heap) :
      W.Cares setting setting.held (fun o v => o.index < v.heap.size ∧ (v.heap.cell o).isView = false) u
        (prototype :: (p.refs ++ setting.held)) fun ask => hold p.refs (copyOf ask prototype) :=
    .hold p.refs (careful_copyOf .refl outer)
  refine .bind (Cares.read .refl .refl) (fun prototype u later _ => .bind (copied prototype u later)
    (fun part v later' ⟨exist', concrete'⟩ => ?_) ?_) ?_
  · have grown' := (grown.trans later).trans later'
    have owns : W.Owner v r := W.owner_concrete ((grown'.cell r exist).isView.trans concrete)
    have known : W.Yields v (part :: setting.held) (part :: r :: (part :: keeps)) :=
      (Yields.one List.mem_cons_self).cons ((Yields.tail.trans (.one inUse)).cons
        ((Yields.one List.mem_cons_self).cons (Yields.tail.trans (stays.grows grown'))))
    have moved : W.Cares setting (part :: keeps) (fun _ _ => True) v (part :: setting.held) fun ask =>
        hold [part] (moveTo ask part r) :=
      .hold [part] (careful_moveTo concrete' known fun _ _ => owns)
    refine .bind moved (fun _ w later'' _ => .pure .refl ⟨?_, ?_⟩) .tail
    · exact Nat.lt_of_lt_of_le exist' later''.size
    · exact (later''.cell part exist').isView.trans concrete'
  · exact stays.grows (grown.trans later)
  · exact outer.trans (stays.grows grown)

theorem careful_runMain (inUse : r ∈ setting.held) (exist : r.index < s.heap.size)
    (concrete : (s.heap.cell r).isView = false) (knows : W.Yields s known setting.held)
    (stays : W.Yields s setting.held keeps) :
    W.Cares setting keeps (fun _ _ => True) s known fun ask => runMain ask r := by
  refine .bind (careful_partOf inUse exist concrete knows .refl)
    (fun main t grown ⟨exist', concrete'⟩ => .hold [main] ?_) stays
  have around : (setting.holding [main]).held = main :: setting.held := rfl
  generalize setting.holding [main] = inner at around ⊢
  have target {u : State} : W.Yields u inner.held [main] := by
    rw [around]
    exact .one List.mem_cons_self
  have outer {u : State} : W.Yields u inner.held setting.held := by
    rw [around]
    exact .tail
  have start : W.Yields t (main :: setting.held) inner.held := by
    rw [around]
    exact .refl
  cases first : (t.heap.cell main).slots.openNames[0]? with
  | none =>
      refine .ends (Careful.fail (f := .noSuchAttribute ("#" ++ toString 0) (t.heap.subject main))
        (start.trans (outer.trans (stays.grows grown)))) fun ask => ?_
      exact bind_of_failure (placeAt_none concrete' first) _
  | some name =>
      have raises : W.Cares inner keeps (fun _ _ => True) t (main :: setting.held) fun ask => (do
          let raiser ← alloc (.table (signalTable r))
          write ask (.slot main name) raiser
          ask (.dataize main) : Action Value) := by
        refine .bind (careful_table rfl .nil ?_ start) (fun raiser u later _ => ?_)
          (outer.trans (stays.grows grown))
        · rintro _ ⟨⟩
          exact ⟨r, Yields.tail.trans (.one inUse), .inl rfl⟩
        · refine .bind (careful_write .refl target .refl) (fun _ v later' _ => ?_)
            (outer.trans (stays.grows (grown.trans later)))
          exact .dataize (target.both .refl)
            (Yields.tail.trans (outer.trans (stays.grows ((grown.trans later).trans later'))))
      exact .of_eq raises fun ask => bind_of_answer (placeAt_open concrete' first) _

theorem careful_runCatch {payload : Ref} (inUse : r ∈ setting.held) (exist : r.index < s.heap.size)
    (concrete : (s.heap.cell r).isView = false) (knows : W.Yields s known (payload :: setting.held))
    (stays : W.Yields s setting.held keeps) :
    W.Cares setting keeps (fun _ _ => True) s known fun ask => runCatch ask r payload := by
  have part : W.Cares setting (payload :: setting.held) (fun _ _ => True) s known fun ask =>
      hold [payload] (partOf ask r "catch") :=
    .hold [payload] ((careful_partOf (List.mem_cons_of_mem _ inUse) exist concrete knows
      .refl).weaken fun _ _ _ => trivial)
  refine .bind part (fun handler t grown _ => ?_) (Yields.tail.trans stays)
  have args : W.Yields t (handler :: payload :: setting.held)
      (View.bind handler (.position 0) payload).refs :=
    .of_subset fun x there => by
      simp only [View.refs, List.mem_cons, List.not_mem_nil, or_false] at there ⊢
      tauto
  refine .bind (careful_view args (Yields.tail.trans .tail)) (fun applied u later _ => ?_)
    (stays.grows grown)
  exact .dataize .refl (Yields.tail.trans (stays.grows (grown.trans later)))

theorem careful_runFinally (inUse : r ∈ setting.held) (exist : r.index < s.heap.size)
    (concrete : (s.heap.cell r).isView = false) (knows : W.Yields s known setting.held)
    (stays : W.Yields s setting.held keeps) :
    W.Cares setting keeps (fun _ _ => True) s known fun ask => runFinally ask r := by
  refine .bind (careful_partOf inUse exist concrete knows .refl) (fun final t grown _ => ?_) stays
  have outer {u : State} {xs : List Ref} : W.Yields u (xs ++ setting.held) setting.held :=
    .of_subset fun _ => List.mem_append_right _
  exact .bind (Cares.dataize .refl .tail) (fun v u later _ => .pure (outer.trans (stays.grows
    (grown.trans later))) trivial) (stays.grows grown)

/-- The objects that an outcome mentions are those that it refers to. -/
theorem refs_outcome (outcome : Except Failure Value) :
    Mentions.refs outcome = outcomeRefs outcome := by
  rcases outcome with f | v
  · cases f <;> rfl
  · rfl

theorem careful_handle {outcome : Except Failure Value} (inUse : r ∈ setting.held)
    (exist : r.index < s.heap.size) (concrete : (s.heap.cell r).isView = false)
    (knows : W.Yields s known (Mentions.refs outcome ++ setting.held))
    (stays : W.Yields s setting.held keeps) :
    W.Cares setting keeps (fun _ _ => True) s known fun ask => handle ask r outcome := by
  have passed : W.Cares setting keeps (fun _ _ => True) s known fun _ =>
      (pure outcome : Action (Except Failure Value)) :=
    .pure (knows.trans (Yields.both (.of_subset fun _ => List.mem_append_left _)
      ((Yields.of_subset fun _ => List.mem_append_right _).trans stays))) trivial
  by_cases aimed : ∃ payload, outcome = .error (.raise (s.heap.vertex r) payload)
  · obtain ⟨payload, rfl⟩ := aimed
    refine .of_eq ((Cares.observe (careful_runCatch inUse exist concrete knows stays)).weaken
      fun _ _ _ => trivial) fun ask => handle_aimed payload
  · have other : ∀ payload, outcome ≠ .error (.raise (s.heap.vertex r) payload) :=
      fun payload same => aimed ⟨payload, same⟩
    exact .of_eq passed fun ask => handle_other other

theorem careful_attempt (inUse : r ∈ setting.held) (exist : r.index < s.heap.size)
    (concrete : (s.heap.cell r).isView = false) (knows : W.Yields s known setting.held)
    (stays : W.Yields s setting.held keeps) :
    W.Cares setting keeps (fun _ _ => True) s known fun ask => attempt ask r := by
  have present {t : State} (grown : s.heap.Grows t.heap) : r.index < t.heap.size ∧
      (t.heap.cell r).isView = false :=
    ⟨Nat.lt_of_lt_of_le exist grown.size, (grown.cell r exist).isView.trans concrete⟩
  refine .bind (.observe (careful_runMain inUse exist concrete knows .refl))
    (fun main t grown _ => ?_) stays
  refine .bind (careful_handle inUse (present grown).1 (present grown).2 .refl .refl)
    (fun outcome u later _ => ?_) (stays.grows grown)
  obtain ⟨exist', concrete'⟩ := present (grown.trans later)
  have final : W.Cares setting (Mentions.refs outcome ++ setting.held) (fun _ _ => True) u
      (Mentions.refs outcome ++ setting.held) fun ask =>
        hold (outcomeRefs outcome) (runFinally ask r) := by
    rw [refs_outcome]
    exact .hold _ (careful_runFinally (List.mem_append_right _ inUse) exist' concrete' .refl .refl)
  have rest := stays.grows (grown.trans later)
  have right {v : State} : W.Yields v (Mentions.refs outcome ++ setting.held) setting.held :=
    .of_subset fun _ => List.mem_append_right _
  refine .bind final (fun _ v later' _ => ?_) (right.trans rest)
  refine .bind (.conclude (Yields.both (.of_subset fun _ => List.mem_append_left _)
    (right.trans (rest.grows later')))) (fun value w _ _ => ?_) .refl
  exact careful_data (.of_subset fun _ => List.mem_append_left _)
    (.of_subset fun _ => List.mem_append_right _)

end

end Custody

end PhiCalculus
