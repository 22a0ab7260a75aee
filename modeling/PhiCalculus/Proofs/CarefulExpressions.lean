import PhiCalculus.Proofs.CarefulRequests
import PhiCalculus.Proofs.Labels
import PhiCalculus.Proofs.Operations

/-!
# Expressions and runs, with care

What the part of an expression gave is in use while the parts after it are evaluated.  So every
request is answered with care (`Custody.careful_answer`), and by induction on the nesting of
requests whatever is in custody stays in custody while a request is answered
(`Custody.keeps_answerWithin`).
-/

set_option autoImplicit false

namespace PhiCalculus

open PhiCalculus.Action

namespace Custody

variable {ι α β : Type} {W : Custody ι} {known keeps : List Ref} {setting : W.Setting} {s : State}

/-! ## Expressions -/

section

variable {r : Ref}

/-- A part of an expression is properly evaluated later on, with more objects known. -/
theorem proper_part {e part : Expr} {held held' : List Ref} {t : State}
    (proper : (Request.eval e r).Proper held s) (refs : ∀ x ∈ part.refs, x ∈ e.refs)
    (more : ∀ x ∈ held, x ∈ held') (grown : s.heap.Grows t.heap) :
    (Request.eval part r).Proper held' t := by
  obtain ⟨exist, concrete, knows⟩ := proper
  refine ⟨Nat.lt_of_lt_of_le exist grown.size, (grown.cell r exist).isView.trans concrete,
    fun x there => ?_⟩
  exact (knows x (refs x there)).imp grown.holds (more x)

/-- What an expression refers to is known where it is properly evaluated. -/
theorem yields_of_proper {e : Expr} (inUse : r ∈ setting.held)
    (proper : (Request.eval e r).Proper setting.held s) {xs : List Ref} (refs : ∀ x ∈ xs, x ∈ e.refs) :
    W.Yields s setting.held xs := by
  refine .each fun x there => ?_
  rcases proper.2.2 x (refs x there) with held | inUse'
  · exact (Yields.one inUse).held (List.forall_mem_singleton.mpr held)
  · exact .one inUse'

theorem mem_refsOf {es : List Expr} {e : Expr} (there : e ∈ es) {x : Ref} (refers : x ∈ e.refs) :
    x ∈ Expr.refsOf es := by
  induction es with
  | nil => cases there
  | cons first rest ih =>
      rw [Expr.refsOf, List.mem_append]
      rcases List.mem_cons.mp there with rfl | there
      · exact .inl refers
      · exact .inr (ih there)

theorem careful_evalAll {es : List Expr} (inUse : r ∈ setting.held)
    (proper : ∀ e ∈ es, (Request.eval e r).Proper setting.held s) (knows : W.Yields s known setting.held)
    (stays : W.Yields s setting.held keeps) :
    W.Cares setting keeps (fun _ _ => True) s known fun ask => evalAll ask r es := by
  induction es generalizing s known keeps setting with
  | nil => exact .pure (knows.trans stays) trivial
  | cons e rest ih =>
      obtain ⟨first, others⟩ := List.forall_mem_cons.mp proper
      refine .bind (Cares.eval first (knows.trans ((Yields.one inUse).both .refl)) .tail)
        (fun o t grown _ => ?_) stays
      have inner : W.Cares setting (o :: keeps) (fun _ _ => True) t (o :: setting.held) fun ask =>
          hold [o] (evalAll ask r rest) := .hold [o] (ih (List.mem_cons_of_mem _ inUse)
            (fun e there => proper_part (others e there) (fun _ => id)
              (fun _ => List.mem_cons_of_mem o) grown) .refl
            ((Yields.one List.mem_cons_self).both (Yields.tail.trans (stays.grows grown))))
      refine .bind inner (fun os u _ _ => .pure (.of_subset fun x there => ?_) trivial) .tail
      simp only [Mentions.refs, id, List.mem_append, List.mem_cons] at there ⊢
      tauto

theorem careful_literal (type text : String) (stays : W.Yields s known keeps) :
    W.Cares setting keeps (fun _ _ => True) s known fun _ => literal type text := by
  rcases literal_cases type text with ⟨tag, v, -, read, made⟩ | refused | ⟨fault, refused⟩
  · rw [made]
    refine careful_data ?_ stays
    rw [Value.items_of_parse read]
    exact .nil
  · rw [refused]
    exact .plain rfl stays
  · rw [refused]
    exact .plain rfl stays

/-- The slots of a new object refer to what they were given and to what its expressions refer to. -/
theorem careful_evalSlots {e : Expr} {attrs : List (String × SlotExpr)} {slots : Slots}
    (inUse : r ∈ setting.held) (proper : (Request.eval e r).Proper setting.held s)
    (refs : ∀ x ∈ SlotExpr.refsOf attrs, x ∈ e.refs) (content : W.Yields s setting.held slots.refs)
    (knows : W.Yields s known setting.held) (stays : W.Yields s setting.held keeps) :
    W.Cares setting keeps (fun _ _ => True) s known fun ask => evalSlots ask r slots attrs := by
  induction attrs generalizing s known keeps setting slots with
  | nil => exact .pure (knows.trans (content.both stays)) trivial
  | cons attr rest ih =>
      obtain ⟨name, slotExpr⟩ := attr
      have others : ∀ x ∈ SlotExpr.refsOf rest, x ∈ e.refs := fun x there =>
        refs x (List.mem_append_right _ there)
      have here : ∀ x ∈ slotExpr.refs, x ∈ e.refs := fun x there =>
        refs x (List.mem_append_left _ there)
      -- the slots with one more, whose content is known
      have declared {held : List Ref} {t : State} (slot : Slot)
          (content : W.Yields t held slots.refs) (known : W.Yields t held slot.refs) :
          W.Yields t held (slots.declare name slot).refs := by
        refine .each fun x there => ?_
        obtain ⟨n, s', mem, refers⟩ := Slots.mem_refs.mp there
        rcases Slots.mem_declare mem with old | ⟨-, rfl⟩
        · exact content.trans (.one (Slots.mem_refs.mpr ⟨n, s', old, refers⟩))
        · exact known.trans (.one refers)
      cases slotExpr with
      | free => exact ih inUse proper others (declared (.free none) content .nil) knows stays
      | vararg => exact ih inUse proper others (declared (.vararg []) content .nil) knows stays
      | once e' =>
          exact ih inUse proper others (declared (.once e' none) content
            (yields_of_proper inUse proper here)) knows stays
      | composite e' =>
          exact ih inUse proper others (declared (.composite e') content
            (yields_of_proper inUse proper here)) knows stays
      | bound e' =>
          have first : (Request.eval e' r).Proper setting.held s :=
            proper_part proper here (fun _ => id) (Heap.Grows.refl _)
          refine .bind (Cares.eval first (knows.trans ((Yields.one inUse).both .refl)) .tail)
            (fun o t grown _ => .hold [o] ?_) stays
          have outer : W.Yields t (setting.holding [o]).held setting.held := .tail
          exact ih (List.mem_cons_of_mem _ inUse)
            (proper_part proper (fun _ => id) (fun _ => List.mem_cons_of_mem o) grown) others
            (declared (.free (some o)) (outer.trans (content.grows grown))
              (.one List.mem_cons_self)) .refl (outer.trans (stays.grows grown))

theorem refs_build (form : String) (home : Option Expr) (attrs : List (String × SlotExpr)) :
    (Expr.build form home attrs).refs = home.elim [] Expr.refs ++ SlotExpr.refsOf attrs := by
  cases home <;> rw [Expr.refs] <;> rfl

theorem careful_buildObject {e : Expr} {form : String} {home : Option Expr}
    {attrs : List (String × SlotExpr)} (inUse : r ∈ setting.held)
    (proper : (Request.eval e r).Proper setting.held s) (same : e = .build form home attrs)
    (knows : W.Yields s known setting.held) (stays : W.Yields s setting.held keeps) :
    W.Cares setting keeps (fun _ _ => True) s known fun ask =>
      buildObject ask r form home attrs := by
  have refs : ∀ x ∈ SlotExpr.refsOf attrs, x ∈ e.refs := fun x there => by
    rw [same, refs_build]
    exact List.mem_append_right _ there
  cases home with
  | none =>
      refine .bind (careful_evalSlots inUse proper refs .nil knows .refl) (fun slots t grown _ => ?_)
        stays
      exact Cares.weaken (careful_table (t := { form := form, slots := slots }) rfl
        (.of_subset fun _ => List.mem_append_left _) nofun ((Yields.of_subset fun _ =>
          List.mem_append_right _).trans (stays.grows grown))) fun _ _ _ => trivial
  | some homeExpr =>
      have first : (Request.eval homeExpr r).Proper setting.held s := by
        refine proper_part proper (fun x there => ?_) (fun _ => id) (Heap.Grows.refl _)
        rw [same, refs_build]
        exact List.mem_append_left _ there
      refine .bind (Cares.eval first (knows.trans ((Yields.one inUse).both .refl)) .tail)
        (fun o t grown _ => ?_) stays
      have slots : W.Cares setting (o :: setting.held) (fun _ _ => True) t (o :: setting.held) fun ask =>
          hold [o] (evalSlots ask r [] attrs) :=
        .hold [o] (careful_evalSlots (List.mem_cons_of_mem _ inUse) (proper_part proper
          (fun _ => id) (fun _ => List.mem_cons_of_mem o) grown) refs .nil .refl .refl)
      refine .bind slots (fun slots u later _ => ?_) (Yields.tail.trans (stays.grows grown))
      have right : W.Yields u (Mentions.refs slots ++ (o :: setting.held)) (o :: setting.held) :=
        .of_subset fun _ => List.mem_append_right _
      refine Cares.weaken (careful_table (t := { form := form, home := some o, slots := slots }) rfl
        (.of_subset fun _ => List.mem_append_left _) ?_ (right.trans (Yields.tail.trans
          (stays.grows (grown.trans later))))) fun _ _ _ => trivial
      rintro _ ⟨⟩
      exact ⟨o, right.trans (.one List.mem_cons_self), .inl rfl⟩

theorem careful_evalExpr {e : Expr} (inUse : r ∈ setting.held)
    (proper : (Request.eval e r).Proper setting.held s) (knows : W.Yields s known setting.held)
    (stays : W.Yields s setting.held keeps) :
    W.Cares setting keeps (fun _ _ => True) s known fun ask => evalExpr ask r e := by
  have rest : W.Yields s known keeps := knows.trans stays
  have known' : W.Yields s known (r :: setting.held) := knows.trans ((Yields.one inUse).both .refl)
  -- a part that is evaluated first, and what follows
  have first (part : Expr) {f : Ref → Answerer → Action Ref} (refs : ∀ x ∈ part.refs, x ∈ e.refs)
      (follows : ∀ o t, s.heap.Grows t.heap →
        W.Cares setting keeps (fun _ _ => True) t (o :: setting.held) (f o)) :
      W.Cares setting keeps (fun _ _ => True) s known fun ask => ask (.eval part r) >>= fun o =>
        f o @ask :=
    .bind (Cares.eval (proper_part proper refs (fun _ => id) (Heap.Grows.refl _)) known' .tail)
      (fun o t grown _ => follows o t grown) stays
  have tail {o : Ref} {t : State} (grown : s.heap.Grows t.heap) :
      W.Yields t (o :: setting.held) keeps := Yields.tail.trans (stays.grows grown)
  cases e with
  | self => exact .pure (knows.trans ((Yields.one inUse).both stays)) trivial
  | depth => exact .around (careful_data .nil rest)
  | object x =>
      exact .pure (knows.trans ((yields_of_proper inUse proper fun _ => id).both stays)) trivial
  | data v => exact careful_data (knows.trans (yields_of_proper inUse proper fun _ => id)) rest
  | literal type text => exact careful_literal type text rest
  | array items =>
      refine .bind (careful_evalAll inUse (fun e there => proper_part proper (fun x refers =>
        mem_refsOf there refers) (fun _ => id) (Heap.Grows.refl _)) knows .refl)
          (fun os t grown _ => ?_) stays
      exact careful_data (.of_subset fun _ => List.mem_append_left _)
        ((Yields.of_subset fun _ => List.mem_append_right _).trans (stays.grows grown))
  | global name =>
      refine .look ?_
      cases global : s.global? name with
      | some g =>
          have given : W.Cares setting keeps (fun _ _ => True) s (g :: keeps) fun _ =>
              (pure g : Action Ref) := .pure .refl trivial
          refine given.enter fun i here => ?_
          exact W.both (W.global here global) (rest i s (Heap.Grows.refl _) here)
      | none => exact .plain rfl rest
  | name n => exact careful_lookUp known' stays
  | get inner name =>
      refine first inner (fun _ => id) fun o t grown => ?_
      refine .bind (Cares.find name .refl .refl) (fun p u later _ => .hold [o] ?_) (tail grown)
      have known : W.Yields u (p.refs ++ (o :: setting.held)) (p.refs ++ (setting.holding [o]).held) :=
        .refl
      exact .read known ((Yields.of_subset fun _ => List.mem_append_right _).trans
        (tail (grown.trans later)))
  | method inner name =>
      exact first inner (fun _ => id) fun o t grown =>
        careful_view (v := .method o name) (.one List.mem_cons_self) (tail grown)
  | bind base key value =>
      refine first base (fun _ => List.mem_append_left _) fun o t grown => ?_
      have second : (Request.eval value r).Proper (setting.holding [o]).held t :=
        proper_part proper (fun _ => List.mem_append_right _) (fun _ => List.mem_cons_of_mem o)
          grown
      have asked : W.Cares setting (o :: setting.held) (fun _ _ => True) t (o :: setting.held)
          fun ask => hold [o] (ask (.eval value r)) :=
        .hold [o] (Cares.eval second (.both (Yields.tail.trans (.one inUse)) .refl) .tail)
      refine .bind asked (fun argument u later _ => careful_view ?_ ?_) (tail grown)
      · exact (Yields.tail.trans (.one List.mem_cons_self)).cons (.one List.mem_cons_self)
      · exact Yields.tail.trans (tail (grown.trans later))
  | copied inner =>
      exact first inner (fun _ => id) fun o t grown =>
        careful_view (v := .copy o) (.one List.mem_cons_self) (tail grown)
  | unvar inner =>
      exact first inner (fun _ => id) fun o t grown =>
        careful_view (v := .unvar o) (.one List.mem_cons_self) (tail grown)
  | copy inner =>
      refine first inner (fun _ => id) fun o t grown => .hold [o] ?_
      exact (careful_copyOf (Yields.cons (.one List.mem_cons_self) .refl) (tail grown)).weaken
        fun _ _ _ => trivial
  | resolved inner =>
      exact first inner (fun _ => id) fun o t grown => (careful_settle .refl (tail grown)).weaken
        fun _ _ _ => trivial
  | force inner =>
      refine first inner (fun _ => id) fun o t grown => .bind (Cares.dataize .refl .tail)
        (fun v u later _ => careful_data (.of_subset fun _ => List.mem_append_left _) ?_)
        (stays.grows grown)
      exact (Yields.of_subset fun _ => List.mem_append_right _).trans
        (stays.grows (grown.trans later))
  | fail message => exact .plain rfl rest
  | raise target payload =>
      refine first target (fun _ => List.mem_append_left _) fun o t grown => ?_
      have second : (Request.eval payload r).Proper (setting.holding [o]).held t :=
        proper_part proper (fun _ => List.mem_append_right _) (fun _ => List.mem_cons_of_mem o)
          grown
      have asked : W.Cares setting setting.held (fun _ _ => True) t (o :: setting.held)
          fun ask => hold [o] (ask (.eval payload r)) :=
        .hold [o] (Cares.eval second (.both (Yields.tail.trans (.one inUse)) .refl)
          (Yields.tail.trans .tail))
      refine .bind asked (fun p u later _ => ?_) (stays.grows grown)
      exact .ends (Careful.fail (f := .raise (u.heap.vertex o) p) ((Yields.one
        List.mem_cons_self).both (tail (grown.trans later)))) fun _ => rfl
  | count counter inner =>
      refine .change rfl rfl ?_
      have proper : (Request.eval inner r).Proper setting.held (s.count counter) := proper
      exact .eval proper known' (Yields.tail.trans stays)
  | counter name => exact .look (careful_data .nil rest)
  | build form home attrs => exact careful_buildObject inUse proper rfl knows stays
  | native n =>
      cases n with
      | method m => exact careful_methodResult m inUse knows stays
      | attempt => exact careful_attempt inUse proper.1 proper.2.1 knows stays
      | signal => exact careful_signal inUse knows stays

end

/-! ## Requests -/

/-- **Every request is answered with care.** -/
theorem careful_answer (q : Request α) (proper : q.Proper setting.held s) :
    @Cares ι α q.mentions W setting (q.refs ++ setting.held) (fun a t => q.Sound (.answer a t)) s
      (q.refs ++ setting.held) fun ask => answer ask q := by
  cases q with
  | find r name =>
      exact .hold [r] ((careful_findPlace List.mem_cons_self .refl .refl).weaken
        fun _ _ _ => trivial)
  | read p =>
      exact .hold p.refs ((careful_readPlace (fun _ => List.mem_append_left _) .refl .refl).weaken
        fun _ _ _ => trivial)
  | resolve r =>
      refine .hold [r] ((careful_resolveView List.mem_cons_self .refl .refl).weaken ?_)
      rintro o t concrete _ _ ⟨⟩
      exact concrete
  | dataize r =>
      exact .hold [r] ((careful_dataizeObject (.cons (.one List.mem_cons_self) .refl) .refl).weaken
        fun _ _ _ => trivial)
  | eval e self =>
      have inner : (Request.eval e self).Proper (setting.holding [self]).held s :=
        proper_part proper (fun _ => id) (fun _ => List.mem_cons_of_mem self) (Heap.Grows.refl _)
      exact .hold [self] ((careful_evalExpr List.mem_cons_self inner .refl .refl).weaken
        fun _ _ _ => trivial)

theorem grows_answerWithin (steps : Nat) (q : Request α) (frame : Frame) (s : State) :
    s.heap.Grows (answerWithin steps q frame s).state.heap :=
  ((sound_answerWithin steps).spares 0 q frame s).grows

theorem concrete_answerWithin (steps : Nat) (q : Request α) (frame : Frame) (s : State) :
    q.Sound (answerWithin steps q frame s) := by
  cases q with
  | resolve r => exact fun o t ends => (sound_answerWithin steps).concrete ends
  | _ => trivial

/-- **What is in custody stays in custody while a request is answered.** -/
theorem keeps_answerWithin (steps : Nat) : W.Keeps (answerWithin steps) := by
  induction steps with
  | zero => exact ⟨grows_answerWithin 0, concrete_answerWithin 0,
      fun _ _ here => W.fewer here fun _ there => there⟩
  | succ steps ih => exact ⟨grows_answerWithin (steps + 1), concrete_answerWithin (steps + 1),
      fun {_ q _ _} proper _ here => Careful.held (careful_answer q proper) ih here⟩

/-! ## Operations -/

theorem careful_globalValue (name : String) (knows : W.Yields s known setting.held)
    (stays : W.Yields s setting.held keeps) :
    W.Cares setting keeps (fun _ _ => True) s known fun ask => globalValue ask name := by
  refine .look ?_
  cases global : s.global? name with
  | none => exact .plain rfl (knows.trans stays)
  | some root =>
      have copied : W.Cares setting (root :: setting.held) (fun _ _ => True) s (root :: setting.held)
          fun ask => hold [root] (copyOf ask root) :=
        .hold [root] ((careful_copyOf (.cons (.one List.mem_cons_self) .refl) .refl).weaken
          fun _ _ _ => trivial)
      refine Cares.enter (.bind copied (fun copy t grown _ => .hold [root] ?_)
        (Yields.tail.trans stays)) fun i here => ?_
      · exact .dataize .refl (Yields.tail.trans (Yields.tail.trans (stays.grows grown)))
      · exact W.both (W.global here global) (knows i s (Heap.Grows.refl _) here)

end Custody

namespace Operation

variable {α : Type}

/-- Answers to operations mention objects. -/
@[reducible] def mentions : Operation α → Mentions α
  | build _ _ _ => inferInstanceAs (Mentions Ref)
  | data _ => inferInstanceAs (Mentions Ref)
  | literal _ _ => inferInstanceAs (Mentions Ref)
  | view _ => inferInstanceAs (Mentions Ref)
  | copy _ => inferInstanceAs (Mentions Ref)
  | moveTo _ _ => inferInstanceAs (Mentions Unit)
  | owner _ => inferInstanceAs (Mentions (Option Ref))
  | attr _ _ => inferInstanceAs (Mentions Place)
  | ownAttr _ _ => inferInstanceAs (Mentions (Option Place))
  | attrAt _ _ => inferInstanceAs (Mentions Place)
  | get _ => inferInstanceAs (Mentions Ref)
  | put _ _ => inferInstanceAs (Mentions Unit)
  | resolved _ => inferInstanceAs (Mentions Ref)
  | take _ => inferInstanceAs (Mentions Value)
  | compute _ _ => inferInstanceAs (Mentions Ref)
  | global _ => inferInstanceAs (Mentions Value)

/-- The objects that are given to an operation. -/
def operands : Operation α → List Ref
  | build _ home slots => home.toList ++ slots.refs
  | data v => v.items
  | literal _ _ => []
  | view v => v.refs
  | copy r => [r]
  | moveTo r target => [r, target]
  | owner r => [r]
  | attr r _ => [r]
  | ownAttr r _ => [r]
  | attrAt r _ => [r]
  | get p => p.refs
  | put p value => value :: p.refs
  | resolved r => [r]
  | take r => [r]
  | compute e self => self :: e.refs
  | global _ => []

/-- The operation binds an owner. -/
def Owns : Operation α → Prop
  | moveTo _ _ => True
  | put (.owner _) _ => True
  | _ => False

/-- What a slot computes is computed for an object that is no view. -/
def Proper (s : State) : Operation α → Prop
  | compute _ self => (s.heap.cell self).isView = false
  | _ => True

end Operation

namespace Custody

variable {ι α : Type} {W : Custody ι} {keeps : List Ref} {setting : W.Setting} {s : State}

/-- **Every operation is done with care**, where any object may own others if it binds an owner. -/
theorem careful_operation (op : Operation α) (free : op.Owns → ∀ s r, W.Owner s r)
    (inUse : ∀ x ∈ op.operands, x ∈ setting.held) (proper : op.Proper s) :
    @Cares ι α op.mentions W setting setting.held (fun _ _ => True) s setting.held
      fun ask => op.run ask := by
  have known {r : Ref} (there : r ∈ op.operands) : W.Yields s setting.held (r :: setting.held) :=
    (Yields.one (inUse r there)).both .refl
  have all : W.Yields s setting.held op.operands := .of_subset inUse
  cases op with
  | build form home slots =>
      refine Cares.weaken (careful_table (t := { form := form, home := home, slots := slots }) rfl
        (.of_subset fun x there => inUse x (List.mem_append_right _ there)) ?_ .refl)
        fun _ _ _ => trivial
      rintro o ⟨⟩
      exact ⟨o, .one (inUse o (List.mem_append_left _ List.mem_cons_self)), .inl rfl⟩
  | data v => exact careful_data all .refl
  | literal type text => exact careful_literal type text .refl
  | view v => exact careful_view all .refl
  | copy r => exact (careful_copyOf (known List.mem_cons_self) .refl).weaken fun _ _ _ => trivial
  | moveTo r target =>
      refine .bind (careful_settle (known List.mem_cons_self) .tail) (fun o t grown _ => ?_) .refl
      refine careful_ownConcrete ((Yields.one List.mem_cons_self).cons (.cons ?_ .tail))
        fun _ _ => free trivial t target
      exact Yields.tail.trans (.one (inUse target (List.mem_cons_of_mem _ List.mem_cons_self)))
  | owner r => exact (careful_ownerOf (known List.mem_cons_self) .refl).weaken fun _ _ _ => trivial
  | attr r name => exact .find name (known List.mem_cons_self) .tail
  | ownAttr r name =>
      refine .bind (careful_settle (known List.mem_cons_self) .tail) (fun o t grown _ => ?_) .refl
      refine .ends (Careful.pure (a := (t.heap.slot? o name).map fun _ => Place.slot o name)
        (.of_subset fun x there => ?_) trivial) fun _ => rfl
      cases found : t.heap.slot? o name with
      | none => simpa [found, Mentions.refs] using Or.inr there
      | some slot => simpa [found, Mentions.refs, Place.refs] using there
  | attrAt r position =>
      refine .bind (careful_settle (known List.mem_cons_self) .tail) (fun o t grown _ => ?_) .refl
      refine .cell ?_
      cases (t.heap.cell o).slots.openNames[position]? with
      | some name => exact .pure .refl trivial
      | none => exact .plain rfl .tail
  | get p => exact .read (all.both .refl) (.of_subset fun _ => List.mem_append_right _)
  | put p value =>
      have written : W.Yields s setting.held (value :: setting.held) := known List.mem_cons_self
      cases p with
      | fixed r name content =>
          exact .ends (Careful.fail (f := .alreadyBound name (s.heap.subject r)) .refl) fun _ => rfl
      | owner r =>
          refine careful_ownConcrete (.cons (.one (inUse r ?_)) written) fun _ _ => free trivial s value
          exact List.mem_cons_of_mem _ List.mem_cons_self
      | slot r name =>
          exact careful_write written (.one (inUse r (List.mem_cons_of_mem _ List.mem_cons_self)))
            .refl
  | resolved r => exact (Cares.resolve (known List.mem_cons_self) .tail).weaken fun _ _ _ => trivial
  | take r => exact .dataize (known List.mem_cons_self) .tail
  | compute e self =>
      refine .existing (inUse self List.mem_cons_self) fun exist => ?_
      exact .eval ⟨exist, proper, fun x there => .inr (inUse x (List.mem_cons_of_mem _ there))⟩
        (known List.mem_cons_self) .tail
  | global name => exact careful_globalValue name .refl .refl

end Custody

end PhiCalculus
