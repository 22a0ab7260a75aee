import PhiCalculus.Proofs.Custody
import PhiCalculus.Proofs.Landing
import PhiCalculus.Proofs.Roles

/-!
# Operations on objects, with care

Every function of the evaluator is careful: it makes its requests about objects that it knows, and
what it uses after a request is in use during the request, came with the answer, or is held by
something of this kind.  Here are the rules by which an action is done with care (`Custody.Cares`),
and the operations on objects: making, copying, owning and writing them.
-/

set_option autoImplicit false

namespace PhiCalculus

open PhiCalculus.Action

namespace Custody

variable {ι α β : Type} {W : Custody ι} {known keeps : List Ref} {setting : W.Setting} {s : State}

/-! ## Single actions -/

namespace Yields

variable {r x : Ref} {rest : List Ref}

/-- A known object. -/
theorem one (there : x ∈ known) : W.Yields s known [x] :=
  of_subset (List.forall_mem_singleton.mpr there)

theorem tail : W.Yields s (r :: rest) rest := of_subset fun _ => List.mem_cons_of_mem r

/-- Nothing need be known for nothing. -/
theorem nil : W.Yields s known [] := of_subset nofun

/-- One more object. -/
theorem cons (first : W.Yields s known [x]) (others : W.Yields s known rest) :
    W.Yields s known (x :: rest) :=
  first.both others

end Yields

/-! ## Actions with care -/

/-- In that setting and from that state on, the action is done with care. -/
def Cares [Mentions α] (W : Custody ι) (setting : W.Setting) (keeps : List Ref)
    (post : α → State → Prop) (s : State) (known : List Ref) (x : Answerer → Action α) : Prop :=
  W.Careful keeps post s known fun ask => x @ask setting.frame s

namespace Cares

variable {mα : Mentions α} {mβ : Mentions β} {keeps' known' : List Ref} {post : α → State → Prop}
  {x y : Answerer → Action α}

theorem of_eq (h : W.Cares setting keeps post s known y)
    (same : ∀ ask : Answerer, x @ask setting.frame s = y @ask setting.frame s) :
    W.Cares setting keeps post s known x :=
  Careful.of_eq h same

/-- An action that makes no request. -/
theorem ends {o : Outcome α} (h : W.Careful keeps post s known fun _ => o)
    (same : ∀ ask : Answerer, x @ask setting.frame s = o) : W.Cares setting keeps post s known x :=
  of_eq (y := fun _ _ _ => o) h same

theorem weaken {post' : α → State → Prop} (h : W.Cares setting keeps post s known x)
    (later : ∀ a t, post a t → post' a t) : W.Cares setting keeps post' s known x :=
  Careful.weaken h later

/-- What may be known just now. -/
theorem enter (h : W.Cares setting keeps post s known' x)
    (knows : ∀ i, W.Holds i known s → W.Holds i known' s) : W.Cares setting keeps post s known x :=
  Careful.enter h (Heap.Grows.refl _) knows

/-- Known objects exist. -/
theorem existing {r : Ref} (there : r ∈ known)
    (h : r.index < s.heap.size → W.Cares setting keeps post s known x) :
    W.Cares setting keeps post s known x :=
  Careful.assuming (fun _ here => W.exist here there) h

theorem pure {a : α} (knows : W.Yields s known (Mentions.refs a ++ keeps)) (is : post a s) :
    W.Cares setting keeps post s known fun _ => Pure.pure a :=
  Careful.pure knows is

theorem fail {f : Failure} (knows : W.Yields s known (f.refs ++ keeps)) :
    W.Cares setting keeps post s known fun _ => Action.fail f :=
  Careful.fail knows

/-- A failure that carries no object. -/
theorem plain {f : Failure} (none : f.refs = []) (stays : W.Yields s known keeps) :
    W.Cares setting keeps post s known fun _ => Action.fail f :=
  fail (by rw [none]; exact stays)

theorem request {q : Request β} (same : q.mentions = mβ) (proper : q.Proper setting.held s)
    (knows : W.Yields s known (q.refs ++ setting.held))
    (stays : W.Yields s (q.refs ++ setting.held) keeps) :
    W.Cares setting keeps (fun a t => q.Sound (.answer a t)) s known fun ask => ask q :=
  Careful.request same proper knows stays

theorem bind {x : Answerer → Action α} {f : α → Answerer → Action β} {mid : α → State → Prop}
    {post : β → State → Prop} (first : W.Cares setting keeps mid s known x)
    (rest : ∀ a t, s.heap.Grows t.heap → mid a t →
      W.Cares setting keeps' post t (Mentions.refs a ++ keeps) (f a))
    (less : W.Yields s keeps keeps') :
    W.Cares setting keeps' post s known fun ask => x @ask >>= fun a => f a @ask := by
  refine Careful.of_eq (Careful.following first rest less) fun ask => ?_
  show (x @ask >>= fun a => f a @ask) setting.frame s = _
  rw [bind_apply]
  cases x @ask setting.frame s <;> rfl

theorem observe {mid : α → State → Prop} (first : W.Cares setting keeps mid s known x) :
    W.Cares setting keeps (fun (e : Except Failure α) t => ∀ a, e = .ok a → mid a t) s known
      fun ask => Action.observe (x @ask) := by
  refine Careful.of_eq (Careful.observing first) fun ask => ?_
  show Action.observe (x @ask) setting.frame s = _
  rw [Action.observe]
  cases x @ask setting.frame s <;> rfl

theorem hold (refs : List Ref) (h : W.Cares (setting.holding refs) keeps post s known x) :
    W.Cares setting keeps post s known fun ask => Action.hold refs (x @ask) := h

theorem deeper (h : W.Cares setting.deeper keeps post s known x) :
    W.Cares setting keeps post s known fun ask => Action.deeper (x @ask) := h

/-- An action that begins by looking at the state. -/
theorem look {γ : Type} {f : State → γ} {k : γ → Answerer → Action α}
    (h : W.Cares setting keeps post s known (k (f s))) :
    W.Cares setting keeps post s known fun ask => asks f >>= fun c => k c @ask := h

theorem cell {r : Ref} {k : Cell → Answerer → Action α}
    (h : W.Cares setting keeps post s known (k (s.heap.cell r))) :
    W.Cares setting keeps post s known fun ask => Action.cell r >>= fun c => k c @ask := h

theorem around {k : Frame → Answerer → Action α}
    (h : W.Cares setting keeps post s known (k setting.frame)) :
    W.Cares setting keeps post s known fun ask => Action.frame >>= fun c => k c @ask := h

theorem ite {p : Prop} [Decidable p] (yes : p → W.Cares setting keeps post s known x)
    (no : ¬ p → W.Cares setting keeps post s known y) :
    W.Cares setting keeps post s known fun ask => if p then x @ask else y @ask := by
  by_cases h : p
  · simp only [h, if_true]
    exact yes h
  · simp only [h, if_false]
    exact no h

/-- An action that needs something to be finite. -/
theorem finite {γ : Type} {f : State → Option γ} {k : γ → Answerer → Action α}
    (stays : W.Yields s known keeps) (h : ∀ c, W.Cares setting keeps post s known (k c)) :
    W.Cares setting keeps post s known fun ask => Action.finite f >>= fun c => k c @ask := by
  cases found : f s with
  | some c =>
      refine .of_eq (h c) fun ask => bind_of_answer ?_ _
      rw [Action.finite, found]
  | none =>
      refine .ends (o := @Outcome.unfinished α s) (.ends (Heap.Grows.refl _) (fun i here =>
        stays i s (Heap.Grows.refl _) here) fun _ _ is => by cases is) fun ask =>
          bind_of_unfinished ?_ _
      rw [Action.finite, found]

/-- An action that changes what only an observer sees. -/
theorem change {f : State → State} {k : Answerer → Action α} (heap : (f s).heap = s.heap)
    (globals : (f s).globals = s.globals) (h : W.Cares setting keeps post (f s) known k) :
    W.Cares setting keeps post s known fun ask => Action.change f >>= fun _ => k @ask :=
  Careful.enter h (by rw [heap]; exact Heap.Grows.refl _) fun _ here => W.seen here heap globals

theorem conclude {e : Except Failure α} (knows : W.Yields s known (Mentions.refs e ++ keeps)) :
    W.Cares setting keeps (fun _ _ => True) s known fun _ => Action.conclude e := by
  cases e with
  | ok a => exact pure knows trivial
  | error f => exact fail knows

theorem noSuchAttribute (name : String) (r : Ref) (stays : W.Yields s known keeps) :
    W.Cares setting keeps post s known fun _ => (Action.noSuchAttribute name r : Action α) :=
  ends (.fail (f := .noSuchAttribute name (s.heap.subject r)) stays) fun _ => rfl

/-! ### Requests -/

variable {r : Ref}

theorem find (name : String) (knows : W.Yields s known (r :: setting.held))
    (stays : W.Yields s (r :: setting.held) keeps) :
    W.Cares setting keeps (fun _ _ => True) s known fun ask => ask (.find r name) :=
  (request (q := .find r name) rfl trivial knows stays).weaken fun _ _ _ => trivial

theorem read {p : Place} (knows : W.Yields s known (p.refs ++ setting.held))
    (stays : W.Yields s (p.refs ++ setting.held) keeps) :
    W.Cares setting keeps (fun _ _ => True) s known fun ask => ask (.read p) :=
  (request (q := .read p) rfl trivial knows stays).weaken fun _ _ _ => trivial

theorem resolve (knows : W.Yields s known (r :: setting.held))
    (stays : W.Yields s (r :: setting.held) keeps) :
    W.Cares setting keeps (fun o t => (t.heap.cell o).isView = false) s known
      fun ask => ask (.resolve r) :=
  (request (q := .resolve r) rfl trivial knows stays).weaken fun o t sound => sound o t rfl

theorem dataize (knows : W.Yields s known (r :: setting.held))
    (stays : W.Yields s (r :: setting.held) keeps) :
    W.Cares setting keeps (fun _ _ => True) s known fun ask => ask (.dataize r) :=
  (request (q := .dataize r) rfl trivial knows stays).weaken fun _ _ _ => trivial

theorem eval {e : Expr} (proper : (Request.eval e r).Proper setting.held s)
    (knows : W.Yields s known (r :: setting.held)) (stays : W.Yields s (r :: setting.held) keeps) :
    W.Cares setting keeps (fun _ _ => True) s known fun ask => ask (.eval e r) :=
  (request (q := .eval e r) rfl proper knows stays).weaken fun _ _ _ => trivial

end Cares

/-! ## New objects -/

/-- An object is added that refers to objects known, and whose home is one of them or their home. -/
theorem careful_alloc {c : Cell} {t : State} (heap : t.heap = (s.heap.alloc c).2)
    (globals : t.globals = s.globals) (free : c.owner? = none) (refs : W.Yields s known c.refs)
    (homed : ∀ home, c.home? = some home →
      ∃ r, W.Yields s known [r] ∧ (r = home ∨ (s.heap.cell r).home? = some home))
    (stays : W.Yields s known keeps) :
    W.Careful keeps (fun o u => o.index < u.heap.size ∧ (u.heap.cell o).kind = c.kind) s known
      fun _ => .answer (⟨s.heap.size⟩ : Ref) t := by
  have grown : s.heap.Grows t.heap := by
    rw [heap]
    exact s.heap.grows_alloc c
  have made : s.heap.size < t.heap.size ∧ (t.heap.cell ⟨s.heap.size⟩).kind = c.kind := by
    rw [heap, Heap.size_alloc]
    exact ⟨Nat.lt_succ_self _, congrArg Cell.kind (s.heap.cell_alloc_self c)⟩
  refine Careful.answer grown (fun i here => ?_) made
  have there := W.both (refs i s (Heap.Grows.refl _) here) (stays i s (Heap.Grows.refl _) here)
  -- the object that leads to the home, if there is one
  obtain ⟨more, knows, homes⟩ : ∃ more, W.Holds i more s ∧ ∀ home, c.home? = some home →
      ∃ r ∈ more, r = home ∨ (s.heap.cell r).home? = some home := by
    cases known? : c.home? with
    | none => exact ⟨[], W.fewer here nofun, nofun⟩
    | some home =>
        obtain ⟨r, knows, leads⟩ := homed home known?
        refine ⟨[r], knows i s (Heap.Grows.refl _) here, ?_⟩
        rintro _ ⟨⟩
        exact ⟨r, List.mem_cons_self, leads⟩
  refine W.fewer (W.add (W.both knows there) heap globals free (fun x there => ?_)
    fun home is => ?_) (by simp only [Mentions.refs]; grind)
  · exact List.mem_append_right _ (List.mem_append_left _ there)
  · obtain ⟨r, there, rfl | isHome⟩ := homes home is
    · exact .inl (List.mem_append_left _ there)
    · exact .inr ⟨r, List.mem_append_left _ there, isHome⟩

/-- A new table without an owner. -/
theorem careful_table {t : Table} (free : t.owner = none) (refs : W.Yields s known t.slots.refs)
    (homed : ∀ home, t.home = some home →
      ∃ r, W.Yields s known [r] ∧ (r = home ∨ (s.heap.cell r).home? = some home))
    (stays : W.Yields s known keeps) :
    W.Cares setting keeps (fun o u => o.index < u.heap.size ∧ (u.heap.cell o).kind = .table t)
      s known fun _ => alloc (.table t) := by
  refine .ends (careful_alloc (c := ⟨s.registry.next.1, .table t⟩) (t := (s.alloc (.table t)).2)
    rfl rfl free ?_ homed stays) fun _ => rfl
  simpa only [Cell.refs, free, Option.toList_none, List.nil_append] using refs

theorem careful_view {v : View} (refs : W.Yields s known v.refs) (stays : W.Yields s known keeps) :
    W.Cares setting keeps (fun _ _ => True) s known fun _ => view v := by
  refine Cares.weaken (.ends (careful_alloc (c := ⟨s.registry.next.1, .view v none⟩)
    (t := (s.alloc (.view v none)).2) rfl rfl rfl ?_ nofun stays) fun _ => rfl) fun _ _ _ => trivial
  simpa only [Cell.refs, Option.toList_none, List.append_nil] using refs

theorem careful_data {v : Value} (refs : W.Yields s known v.items)
    (stays : W.Yields s known keeps) :
    W.Cares setting keeps (fun _ _ => True) s known fun _ => data v :=
  Cares.weaken (.ends (careful_alloc (c := ⟨(s.registry.best v).1, .data v⟩)
    (t := (s.allocData v).2) rfl rfl rfl refs nofun stays) fun _ => rfl) fun _ _ _ => trivial

/-! ## Looking through views -/

section

variable {r : Ref} {name : String}

theorem careful_settle (knows : W.Yields s known (r :: setting.held))
    (stays : W.Yields s (r :: setting.held) keeps) :
    W.Cares setting keeps (fun o t => (t.heap.cell o).isView = false) s known
      fun ask => settle ask r := by
  refine .cell ?_
  cases isView : (s.heap.cell r).isView with
  | true => exact .resolve knows stays
  | false => exact .pure (knows.trans ((Yields.one List.mem_cons_self).both stays)) isView

/-! ## Copies and owners -/

/-- A copy refers to what the object refers to. -/
theorem refs_copy {slots : Slots} {x : Ref} (there : x ∈ slots.copy.refs) : x ∈ slots.refs := by
  obtain ⟨name, slot, copied, there⟩ := Slots.mem_refs.mp there
  obtain ⟨⟨n, old⟩, declared, same⟩ := List.mem_map.mp copied
  cases same
  refine Slots.mem_refs.mpr ⟨n, old, declared, ?_⟩
  cases old with
  | once origin cache => exact List.mem_append_right _ there
  | _ => exact there

theorem careful_copyConcrete (concrete : (s.heap.cell r).isView = false)
    (knows : W.Yields s known (r :: keeps)) :
    W.Cares setting keeps (fun o t => o.index < t.heap.size ∧ (t.heap.cell o).isView = false) s known
      fun _ => copyConcrete r := by
  have itself : W.Yields s known [r] := knows.trans (.one List.mem_cons_self)
  cases kind : (s.heap.cell r).kind with
  | table t =>
      let copied : Table := { t with owner := none, slots := t.slots.copy }
      have made : W.Cares setting keeps (fun o u => o.index < u.heap.size ∧
          (u.heap.cell o).kind = .table copied) s known fun _ => alloc (.table copied) := by
        refine careful_table rfl ?_ (fun home homed => ⟨r, itself, .inr ?_⟩) (knows.trans .tail)
        · refine itself.held fun x there => Heap.holds_of_refs ?_
          rw [Cell.refs, kind]
          exact List.mem_append_right _ (refs_copy there)
        · rw [Cell.home?, kind]
          exact homed
      exact .of_eq (made.weaken fun o u is => ⟨is.1, isView_of_table is.2⟩) fun _ =>
        copyConcrete_table kind
  | data v =>
      have exist : r.index < s.heap.size :=
        Heap.lt_size_of_isData (by rw [Cell.isData, Cell.value?, kind]; rfl)
      exact .ends (.pure knows ⟨exist, concrete⟩) fun _ => copyConcrete_data kind
  | view v result => simp [Cell.isView, kind] at concrete

theorem careful_copyOf (knows : W.Yields s known (r :: setting.held))
    (stays : W.Yields s setting.held keeps) :
    W.Cares setting keeps (fun o t => o.index < t.heap.size ∧ (t.heap.cell o).isView = false) s known
      fun ask => copyOf ask r := by
  refine .bind (careful_settle knows .tail) (fun o t grown concrete => .hold [o] ?_) stays
  exact careful_copyConcrete concrete ((Yields.one List.mem_cons_self).both
    (Yields.tail.trans (stays.grows grown)))

theorem careful_ownConcrete {owner : Ref} (knows : W.Yields s known (r :: owner :: keeps))
    (owns : ∀ i, W.Holds i known s → W.Owner s owner) :
    W.Cares setting keeps (fun _ _ => True) s known fun _ => ownConcrete r owner := by
  have stays : W.Yields s known keeps := knows.trans (Yields.tail.trans .tail)
  cases kind : (s.heap.cell r).kind with
  | table t =>
      cases owned : t.owner with
      | some p =>
          exact .ends (Careful.fail (f := .alreadyBound rho (s.heap.subject r)) stays) fun _ =>
            ownConcrete_bound kind owned owner
      | none =>
          have free : (s.heap.cell r).owner? = none := by rw [Cell.owner?, kind, ← owned]
          refine .ends (Careful.answer (a := ()) (s.heap.grows_setOwner free) (fun i here => ?_)
            trivial) fun _ => ownConcrete_free kind owned owner
          have known := knows i s (Heap.Grows.refl _) here
          refine W.fewer (W.own known List.mem_cons_self
            (List.mem_cons_of_mem _ List.mem_cons_self) (owns i here) free) fun x there => ?_
          exact List.mem_cons_of_mem _ (List.mem_cons_of_mem _ there)
  | data v =>
      exact .ends (Careful.pure (a := ()) stays trivial) fun _ => ownConcrete_data kind owner
  | view v result =>
      refine .ends (Careful.pure (a := ()) stays trivial) fun _ => ?_
      rw [ownConcrete, bind_of_answer (cell_apply r setting.frame s), kind]
      rfl

/-- Owning an object that is no view. -/
theorem careful_moveTo {owner : Ref} (concrete : (s.heap.cell r).isView = false)
    (knows : W.Yields s known (r :: owner :: keeps))
    (owns : ∀ i, W.Holds i known s → W.Owner s owner) :
    W.Cares setting keeps (fun _ _ => True) s known fun ask => moveTo ask r owner :=
  .of_eq (careful_ownConcrete knows owns) fun _ => moveTo_of_concrete concrete owner

/-- An owner is held. -/
theorem holds_of_owner? {o : Ref} (owned : (s.heap.cell r).owner? = some o) :
    o ∈ s.heap.holds r := by
  refine Heap.holds_of_refs ?_
  rw [Cell.owner?] at owned
  rw [Cell.refs]
  cases kind : (s.heap.cell r).kind with
  | table t =>
      rw [kind] at owned
      exact List.mem_append_left _ (Option.mem_toList.mpr owned)
  | data v => simp [kind] at owned
  | view v result => simp [kind] at owned

theorem careful_ownerOf (knows : W.Yields s known (r :: setting.held))
    (stays : W.Yields s setting.held keeps) :
    W.Cares setting keeps (fun owner t => ∀ o, owner = some o → ∃ x, (t.heap.cell x).owner? = some o)
      s known fun ask => ownerOf ask r := by
  refine .bind (careful_settle knows .tail) (fun o t grown _ => ?_) stays
  refine .ends (Careful.pure (a := (t.heap.cell o).owner?) (Yields.both ?_ (Yields.tail.trans
    (stays.grows grown))) fun x owned => ⟨o, owned⟩) fun _ => rfl
  refine Yields.held (.one List.mem_cons_self) fun x there => ?_
  cases owned : (t.heap.cell o).owner? with
  | none =>
      rw [owned] at there
      cases there
  | some owner =>
      rw [owned] at there
      cases List.mem_singleton.mp there
      exact holds_of_owner? owned

/-! ## Writing -/

/-- A slot takes content that is known. -/
theorem careful_setSlot {old new : Slot} (gained : List Ref)
    (found : s.heap.slot? r name = some old) (grows : old.Grows new)
    (refs : ∀ x ∈ new.refs, x ∈ old.refs ∨ x ∈ gained)
    (knows : W.Yields s known (r :: (gained ++ keeps))) :
    W.Careful keeps (fun _ _ => True) s known
      fun _ => .answer () { s with heap := s.heap.setSlot r name new } := by
  refine .answer (s.heap.grows_setSlot found grows) (fun i here => ?_) trivial
  have known := knows i s (Heap.Grows.refl _) here
  refine W.fewer (W.slot known List.mem_cons_self found grows fun x there => ?_) fun x there =>
    List.mem_cons_of_mem _ (List.mem_append_right _ there)
  exact (refs x there).imp id fun there =>
    List.mem_cons_of_mem _ (List.mem_append_left _ there)

theorem careful_fill {value : Ref} (knows : W.Yields s known (r :: value :: keeps)) :
    W.Cares setting keeps (fun _ _ => True) s known fun _ => fill r name value := by
  have refused : W.Cares setting keeps (fun _ _ => True) s known fun _ => refuse (.slot r name) :=
    .ends (Careful.fail (f := .alreadyBound name (s.heap.subject r))
      (knows.trans (Yields.tail.trans .tail))) fun _ => rfl
  refine .look ?_
  rcases found : s.heap.slot? r name with _ | (_ | _) | _ | _ | _
  case some.free.none =>
    exact .ends (careful_setSlot [value] found (.free (.of_none (some value)))
      (fun x there => .inr there) knows) fun _ => rfl
  all_goals exact refused

theorem careful_append {items : List Ref} (knows : W.Yields s known (r :: (items ++ keeps))) :
    W.Cares setting keeps (fun _ _ => True) s known fun _ => append r name items := by
  have nothing : W.Careful keeps (fun _ _ => True) s known fun _ => .answer () s :=
    .pure (a := ()) (knows.trans (.of_subset fun x there =>
      List.mem_cons_of_mem _ (List.mem_append_right _ there))) trivial
  refine .of_eq (y := fun _ => append r name items) ?_ fun _ => rfl
  rcases found : s.heap.slot? r name with _ | _ | _ | _ | _
  case some.vararg old =>
    refine .ends (careful_setSlot items found (.vararg (List.prefix_append _ items))
      (fun x there => List.mem_append.mp there) knows) fun _ => ?_
    rw [append, changeHeap_apply, found]
  all_goals exact .ends nothing fun _ => by rw [append, changeHeap_apply, found]

theorem careful_spread {value : Ref} (knows : W.Yields s known (value :: setting.held))
    (stays : W.Yields s setting.held keeps) :
    W.Cares setting keeps (fun _ _ => True) s known fun ask => spread ask name value := by
  refine .cell ?_
  cases (s.heap.cell value).isUnvar with
  | false => exact .pure (knows.trans ((Yields.one List.mem_cons_self).both
      (Yields.tail.trans stays))) trivial
  | true =>
      refine .bind (Cares.dataize knows .tail) (fun v t grown _ => ?_) stays
      have later := stays.grows grown
      cases v with
      | array items =>
          exact .pure (Yields.both (.of_subset fun _ => List.mem_append_left _)
            ((Yields.of_subset fun _ => List.mem_append_right _).trans later)) trivial
      | _ => exact .plain rfl later

/-- Writing a slot of an object that is held. -/
theorem careful_write {value : Ref} (knows : W.Yields s known (value :: setting.held))
    (target : W.Yields s setting.held [r]) (stays : W.Yields s setting.held keeps) :
    W.Cares setting keeps (fun _ _ => True) s known fun ask => write ask (.slot r name) value := by
  have fills : W.Cares setting keeps (fun _ _ => True) s known fun _ => fill r name value :=
    careful_fill (knows.trans ((Yields.tail.trans target).cons
      ((Yields.one List.mem_cons_self).cons (Yields.tail.trans stays))))
  refine .look ?_
  rcases s.heap.slot? r name with _ | _ | _ | _ | _
  case some.vararg =>
    refine .bind (careful_spread knows .refl) (fun items t grown _ => ?_) stays
    have held : W.Yields t (items ++ setting.held) setting.held :=
      .of_subset fun _ => List.mem_append_right _
    exact careful_append ((held.trans (target.grows grown)).cons (.both (.of_subset fun _ =>
      List.mem_append_left _) (held.trans (stays.grows grown))))
  all_goals exact fills

end

end Custody

end PhiCalculus
