import PhiCalculus.Proofs.Levels

/-!
# Nested dataizations

A run puts its requests one after the other.  Which ones and in which order can be told from how it
ends when they are answered otherwise: nothing else matters to it, and where one of them is cut
short while those before it are answered as they are, the whole run is (`Lists`).

So the queries of a run form a tree, with their children in the order in which they are asked.  The
dataizations that are nested right inside of a query are those that are met first on the way down
(`Query.Nests`).  A dataization asks everything one level deeper and any other query on its own
level, whatever happens in between.  The trace goes on from each query to the next one as it is, so
the lines that a query leaves are those of the dataizations nested in it, one after the other, and
its own line at the end if it is a dataization that succeeds (`takes_nest`).
-/

set_option autoImplicit false

namespace PhiCalculus

open PhiCalculus.Action

variable {α β : Type} {c : Computations} {ask : Answerer} {frame : Frame} {s t : State}

/-! ## The requests of a run in order -/

/-- How the query is answered by an answerer. -/
def Query.answer (ask : Answerer) (q : Query) : Outcome q.α := ask q.request q.frame q.state

/-- The run asks these queries one after the other, and nothing else. -/
structure Lists (x : Answerer → Action α) (ask : Answerer) (frame : Frame) (s : State)
    (asked : List Query) : Prop where
  /-- Nothing else matters to it. -/
  all : ∀ ask' : Answerer, (∀ q ∈ asked, q.answer ask' = q.answer ask) →
    x ask' frame s = x ask frame s
  /-- When those before it have been answered, each of them is asked. -/
  each : ∀ {before q after}, asked = before ++ q :: after → ∀ ask' : Answerer,
    (∀ p ∈ before, p.answer ask' = p.answer ask) → ∀ u, q.answer ask' = @Outcome.unfinished _ u →
      x ask' frame s = @Outcome.unfinished α u

namespace Lists

variable {x : Answerer → Action α} {f : α → Answerer → Action β} {asked asked' : List Query}

theorem request (q : Request α) (steps : Nat) :
    Lists (fun ask => ask q) ask frame s [⟨q, steps, frame, s⟩] where
  all ask' same := same _ List.mem_cons_self
  each {before q' after} split ask' _ u short := by
    cases before with
    | nil =>
        cases split
        exact short
    | cons p before => simp at split

theorem nothing (x : Action α) : Lists (fun _ => x) ask frame s [] where
  all _ _ := rfl
  each split := by simp at split

/-- What follows an answer is asked after it. -/
theorem bind {a : α} (first : Lists x ask frame s asked) (ends : x ask frame s = .answer a t)
    (rest : Lists (f a) ask frame t asked') :
    Lists (fun ask => x @ask >>= fun a => f a @ask) ask frame s (asked ++ asked') where
  all ask' same := by
    have ends' : x ask' frame s = .answer a t :=
      (first.all ask' fun q there => same q (List.mem_append_left _ there)).trans ends
    have last : f a ask' frame t = f a ask frame t :=
      rest.all ask' fun q there => same q (List.mem_append_right _ there)
    exact (bind_of_answer ends' _).trans (last.trans (bind_of_answer ends fun a => f a ask).symm)
  each {before q after} split ask' same u short := by
    have later (agree : ∀ p ∈ asked, p.answer ask' = p.answer ask) (more : List Query)
        (split : asked' = more ++ q :: after) (same : ∀ p ∈ more, p.answer ask' = p.answer ask) :
        (x ask' >>= fun a => f a ask') frame s = @Outcome.unfinished β u :=
      (bind_of_answer ((first.all ask' agree).trans ends) _).trans
        (rest.each split ask' same u short)
    rcases List.append_eq_append_iff.mp split with ⟨more, is, split'⟩ | ⟨more, is, split'⟩
    · rw [is, List.forall_mem_append] at same
      exact later same.1 more split' same.2
    · cases more with
      | nil =>
          rw [List.append_nil] at is
          exact later (is ▸ same) [] split'.symm nofun
      | cons p more =>
          cases split'
          exact bind_of_unfinished (first.each is ask' same u short) _

/-- What does not end in an answer ends the sequence. -/
theorem stop (first : Lists x ask frame s asked) (stops : ∀ a t, x ask frame s ≠ .answer a t) :
    Lists (fun ask => x @ask >>= fun a => f a @ask) ask frame s asked where
  all ask' same := by
    have ends := first.all ask' same
    show (x ask' >>= fun a => f a ask') frame s = (x ask >>= fun a => f a ask) frame s
    rw [bind_apply, bind_apply, ends]
    cases ending : x ask frame s with
    | answer a t => exact absurd ending (stops a t)
    | failure e t => rfl
    | unfinished => rfl
  each split ask' same u short := bind_of_unfinished (first.each split ask' same u short) _

theorem observe (h : Lists x ask frame s asked) :
    Lists (fun ask => observe (x @ask)) ask frame s asked where
  all ask' same := by
    show Action.observe (x ask') frame s = Action.observe (x ask) frame s
    rw [Action.observe, Action.observe, h.all ask' same]
  each split ask' same u short := observe_of_unfinished (h.each split ask' same u short)

/-- What runs the same asks the same. -/
theorem of_same {y : Answerer → Action α} {frame' : Frame}
    (same : ∀ ask : Answerer, y ask frame' s = x ask frame s) (h : Lists x ask frame s asked) :
    Lists y ask frame' s asked where
  all ask' agree := (same ask').trans ((h.all ask' agree).trans (same ask).symm)
  each split ask' agree u short := (same ask').trans (h.each split ask' agree u short)

/-- A run that ends is answered whatever it asks. -/
theorem ended (h : Lists x ask frame s asked) (ends : (x ask frame s).isUnfinished = false)
    {q : Query} (there : q ∈ asked) : (q.answer ask).isUnfinished = false := by
  obtain ⟨before, after, split⟩ := List.append_of_mem there
  cases ending : q.answer ask with
  | @unfinished u =>
      rw [h.each split ask (fun _ _ => rfl) u ending] at ends
      cases ends
  | _ => rfl

end Lists

/-! ## The trace between requests -/

/-- The trace goes on from each query to the next one as it is. -/
inductive Linked (ask : Answerer) : List String → List Query → List String → Prop where
  | nil (trace : List String) : Linked ask trace [] trace
  | cons {q : Query} {rest : List Query} {last : List String} :
      Linked ask (q.answer ask).state.trace rest last → Linked ask q.state.trace (q :: rest) last

theorem Linked.append {first middle last : List String} {asked asked' : List Query}
    (h : Linked ask first asked middle) (h' : Linked ask middle asked' last) :
    Linked ask first (asked ++ asked') last := by
  induction h with
  | nil => exact h'
  | cons _ ih => exact .cons (ih h')

/-- The run asks these queries, with so many steps, on that level, and the trace stays as it is
between them. -/
structure Proceeds (x : Answerer → Action α) (ask : Answerer) (steps : Nat) (frame : Frame)
    (s : State) (asked : List Query) : Prop where
  lists : Lists x ask frame s asked
  steps : ∀ q ∈ asked, q.steps = steps
  depth : ∀ q ∈ asked, q.frame.depth = frame.depth
  tracing : ∀ q ∈ asked, q.frame.tracing = frame.tracing
  linked : Linked ask s.trace asked (x ask frame s).state.trace

/-- **What stays on its level proceeds from request to request.** -/
theorem Level.proceeds {x : Answerer → Action α} (level : Level x) (ask : Answerer) (steps : Nat)
    (frame : Frame) (s : State) : ∃ asked, Proceeds x ask steps frame s asked := by
  induction level generalizing frame s with
  | request q =>
      let here : Query := ⟨q, steps, frame, s⟩
      have linked : Linked ask here.state.trace [here] (here.answer ask).state.trace :=
        .cons (.nil _)
      refine ⟨[here], .request q steps, ?_, ?_, ?_, linked⟩
      all_goals exact List.forall_mem_singleton.mpr rfl
  | @still α x h =>
      have linked : Linked ask s.trace [] (x frame s).state.trace := by
        rw [h.trace]
        exact .nil _
      exact ⟨[], .nothing x, nofun, nofun, nofun, linked⟩
  | @bind α β x f _ _ first rest =>
      obtain ⟨asked, first⟩ := first frame s
      have linked := first.linked
      cases ending : x ask frame s with
      | answer a t =>
          obtain ⟨asked', rest⟩ := rest a frame t
          rw [ending] at linked
          have linked' : Linked ask t.trace asked'
              ((x ask >>= fun a => f a ask) frame s).state.trace := by
            rw [bind_of_answer ending]
            exact rest.linked
          refine ⟨asked ++ asked', first.lists.bind ending rest.lists, ?_, ?_, ?_,
            linked.append linked'⟩
          · exact List.forall_mem_append.mpr ⟨first.steps, rest.steps⟩
          · exact List.forall_mem_append.mpr ⟨first.depth, rest.depth⟩
          · exact List.forall_mem_append.mpr ⟨first.tracing, rest.tracing⟩
      | failure e t =>
          rw [ending] at linked
          refine ⟨asked, first.lists.stop fun a t same => ?_, first.steps, first.depth,
            first.tracing, ?_⟩
          · cases ending.symm.trans same
          · show Linked ask s.trace asked ((x ask >>= fun a => f a ask) frame s).state.trace
            rw [bind_of_failure ending]
            exact linked
      | @unfinished t =>
          rw [ending] at linked
          refine ⟨asked, first.lists.stop fun a t same => ?_, first.steps, first.depth,
            first.tracing, ?_⟩
          · cases ending.symm.trans same
          · show Linked ask s.trace asked ((x ask >>= fun a => f a ask) frame s).state.trace
            rw [bind_of_unfinished ending]
            exact linked
  | hold refs _ ih =>
      obtain ⟨asked, h⟩ := ih (frame.holding refs) s
      exact ⟨asked, h.lists.of_same fun _ => rfl, h.steps, h.depth, h.tracing, h.linked⟩
  | @observe α x _ ih =>
      obtain ⟨asked, h⟩ := ih frame s
      have linked : Linked ask s.trace asked (Action.observe (x ask) frame s).state.trace := by
        have linked := h.linked
        rw [Action.observe]
        cases ending : x ask frame s <;> rw [ending] at linked <;> exact linked
      exact ⟨asked, h.lists.observe, h.steps, h.depth, h.tracing, linked⟩

/-! ## The queries that a query asks -/

/-- The query dataizes an object. -/
def Query.isTake (q : Query) : Bool := q.request.dataized?.isSome

/-- A dataization of an object. -/
abbrev Query.taking (r : Ref) (steps : Nat) (frame : Frame) (s : State) : Query :=
  ⟨.dataize r, steps, frame, s⟩

/-- The query is answered, or fails. -/
def Query.Ended (c : Computations) (q : Query) : Prop := (q.outcome c).isUnfinished = false

/-- The query asks these queries one after the other, and nothing else. -/
structure Query.AsksInTurn (c : Computations) (q : Query) (asked : List Query) : Prop where
  fewer : ∀ d ∈ asked, d.steps + 1 = q.steps
  lists : Lists (fun ask => answerBy c ask q.request) (answered c q.steps) q.frame q.state asked

namespace Query

variable {q d : Query} {asked : List Query}

theorem answer_eq_outcome {steps : Nat} (fewer : d.steps + 1 = steps) :
    d.answer (answered c steps) = d.outcome c := by
  subst fewer
  exact congrFun (congrFun (answered_succ c d.steps d.request) d.frame) d.state

namespace AsksInTurn

/-- What is asked in turn is what the query depends on. -/
theorem mem_iff (h : q.AsksInTurn c asked) : d ∈ asked ↔ q.Asks c d := by
  obtain ⟨request, steps, frame, s⟩ := q
  constructor
  · intro there
    obtain ⟨request', steps', around, t⟩ := d
    obtain rfl : steps' + 1 = steps := h.fewer _ there
    obtain ⟨before, after, split, first⟩ := List.eq_append_cons_of_mem there
    refine .mk (Reaches.dependsOn fun ask' agrees u short => h.lists.each split ask' ?_ u short)
    intro p before'
    refine agrees p.request p.frame p.state fun same => first ?_
    obtain ⟨request', steps', around', t'⟩ := p
    cases same
    obtain rfl : steps' = _ := Nat.succ.inj (h.fewer _ (split ▸ List.mem_append_left _ before'))
    exact before'
  · intro asks
    cases asks with
    | @mk β steps frame around s t request' depends =>
        obtain ⟨ask', agrees, differs⟩ := depends
        by_contra other
        refine differs (h.lists.all ask' fun p there => ?_)
        refine agrees p.request p.frame p.state fun same => other ?_
        obtain ⟨request', steps', around', t'⟩ := p
        cases same
        obtain rfl : steps' = _ := Nat.succ.inj (h.fewer _ there)
        exact there

theorem ended (h : q.AsksInTurn c asked) (ends : q.Ended c) (there : d ∈ asked) : d.Ended c := by
  have answered := h.lists.ended ends there
  rwa [answer_eq_outcome (h.fewer d there)] at answered

end AsksInTurn

/-- What a run asks that ends has been allowed a step. -/
theorem AsksInTurn.of_proceeds {x : Answerer → Action α} {frame : Frame} {s : State}
    (proceeds : Proceeds x (answered c q.steps) (q.steps - 1) frame s asked)
    (lists : Lists (fun ask => answerBy c ask q.request) (answered c q.steps) q.frame q.state asked)
    (ends : q.Ended c) : q.AsksInTurn c asked where
  fewer d there := by
    have fewer := proceeds.steps d there
    have answered := lists.ended ends there
    cases count : q.steps with
    | zero =>
        rw [count] at answered
        cases answered
    | succ n => omega
  lists := lists

/-- The depth at which a query asks others. -/
def inner (q : Query) : Nat := if q.isTake then q.frame.depth + 1 else q.frame.depth

/-- A query that ends asks these queries at its inner depth, and the trace goes on from each to the
next one, up to this one. -/
structure Goes (c : Computations) (q : Query) (asked : List Query) (last : List String) : Prop where
  inTurn : q.AsksInTurn c asked
  depth : ∀ d ∈ asked, d.frame.depth = q.inner
  tracing : ∀ d ∈ asked, d.frame.tracing = q.frame.tracing
  linked : Linked (answered c q.steps) q.state.trace asked last

/-- A query that is no dataization leaves the trace where the last query has left it that it
asks. -/
theorem goes_of_other (level : c.Level) (other : q.request.dataized? = none) (ends : q.Ended c) :
    ∃ asked, q.Goes c asked (q.outcome c).state.trace := by
  obtain ⟨asked, h⟩ := (level_answerBy level other).proceeds (answered c q.steps) (q.steps - 1)
    q.frame q.state
  have same : q.inner = q.frame.depth := by simp [inner, isTake, other]
  exact ⟨asked, .of_proceeds h h.lists ends, fun d there => (h.depth d there).trans same.symm,
    h.tracing, h.linked⟩

/-- A dataization asks for the value, and then ends. -/
theorem goes_of_take {r : Ref} {steps : Nat} (ends : (taking r steps frame s).Ended c) :
    ∃ asked found u, (taking r steps frame s).Goes c asked u.trace ∧
      (taking r steps frame s).outcome c =
        endTake (frame.holding [r]) r found (frame.holding [r]) u := by
  let deep : Frame := { frame.holding [r] with depth := frame.depth + 1 }
  obtain ⟨asked, h⟩ := (level_forceValue r).proceeds (answered c steps) (steps - 1) deep s
  have same (ask : Answerer) : answerBy c ask (.dataize r) frame s =
      (observe (deeper (forceValue ask r)) >>= endTake (frame.holding [r]) r)
        (frame.holding [r]) s := dataizeObject_apply ask r (frame.holding [r]) s
  have outcome := same (answered c steps)
  have seen : Lists (fun ask => observe (deeper (forceValue ask r))) (answered c steps)
      (frame.holding [r]) s asked :=
    .observe (x := fun ask => deeper (forceValue ask r)) (h.lists.of_same fun _ => rfl)
  have linked := h.linked
  change Linked _ _ _ (deeper (forceValue (answered c steps) r) (frame.holding [r]) s).state.trace
    at linked
  -- the value is found or not
  obtain ⟨found, u, value, trace⟩ : ∃ found u,
      observe (deeper (forceValue (answered c steps) r)) (frame.holding [r]) s = .answer found u ∧
        Linked (answered c steps) s.trace asked u.trace := by
    cases ending : deeper (forceValue (answered c steps) r) (frame.holding [r]) s with
    | answer v u =>
        rw [ending] at linked
        exact ⟨.ok v, u, observe_of_answer ending, linked⟩
    | failure f u =>
        rw [ending] at linked
        exact ⟨.error f, u, observe_of_failure ending, linked⟩
    | @unfinished u =>
        rw [bind_of_unfinished (observe_of_unfinished ending)] at outcome
        cases (congrArg Outcome.isUnfinished outcome).symm.trans ends
  rw [bind_of_answer value] at outcome
  have lists : Lists (fun ask => answerBy c ask (.dataize r)) (answered c steps) frame s
      (asked ++ []) :=
    (seen.bind (f := fun found _ => endTake (frame.holding [r]) r found) value
      (.nothing _)).of_same same
  rw [List.append_nil] at lists
  exact ⟨asked, found, u, ⟨.of_proceeds h lists ends, h.depth, h.tracing, trace⟩, outcome⟩

end Query

/-! ## Lines -/

/-- With how many dots a line begins. -/
def leadingDots (line : String) : Nat := (line.toList.takeWhile (· == '·')).length

/-- The line of a dataization begins with as many dots as there are dataizations around it. -/
theorem leadingDots_traceLine (depth : Nat) (term value : String) :
    leadingDots (traceLine depth term value) = depth := by
  have dots : ∀ char ∈ List.replicate depth '·', (char == '·') = true := by
    intro char there
    rw [List.eq_of_mem_replicate there]
    rfl
  rw [leadingDots, traceLine, String.toList_append, String.toList_append, String.toList_append,
    String.toList_append, String.toList_ofList, List.append_assoc, List.append_assoc,
    List.append_assoc, List.takeWhile_append_of_pos dots]
  simp

/-- The lines that the query leaves in the trace, the first one first. -/
def Query.lines (c : Computations) (q : Query) : List String :=
  let trace := (q.outcome c).state.trace
  (trace.take (trace.length - q.state.trace.length)).reverse

theorem Query.lines_of_trace {q : Query} {lines : List String}
    (trace : (q.outcome c).state.trace = lines.reverse ++ q.state.trace) : q.lines c = lines := by
  simp [Query.lines, trace]

/-! ## Nested dataizations -/

mutual

/-- These dataizations are nested right inside of the query, one after the other: it asks them, or
they are nested right inside of what it asks that is no dataization. -/
inductive Query.Nests (c : Computations) : Query → List Query → Prop where
  | mk {q : Query} {asked nested : List Query} : q.AsksInTurn c asked →
      NestsInTurn c asked nested → Query.Nests c q nested

/-- These dataizations are among the queries or nested right inside of those that are none. -/
inductive NestsInTurn (c : Computations) : List Query → List Query → Prop where
  | nil : NestsInTurn c [] []
  | take {d : Query} {rest nested : List Query} : d.isTake = true →
      NestsInTurn c rest nested → NestsInTurn c (d :: rest) (d :: nested)
  | other {d : Query} {rest inside nested : List Query} : d.isTake = false →
      Query.Nests c d inside → NestsInTurn c rest nested →
        NestsInTurn c (d :: rest) (inside ++ nested)

end

/-- The lines that a query leaves itself: one if it is a dataization that succeeds and is traced,
and otherwise none. -/
inductive Query.Own (c : Computations) : Query → List String → Prop where
  | other {q : Query} : q.request.dataized? = none → Query.Own c q []
  | line {r : Ref} {steps : Nat} {frame : Frame} {s t : State} {v : Value} {term value : String} :
      (taking r steps frame s).outcome c = .answer v t → frame.tracing = true →
        t.heap.term? r = some term → t.heap.valueTerm? v = some value →
          Query.Own c (taking r steps frame s) [traceLine frame.depth term value]
  | untraced {r : Ref} {steps : Nat} {frame : Frame} {s t : State} {v : Value} :
      (taking r steps frame s).outcome c = .answer v t → frame.tracing = false →
        Query.Own c (taking r steps frame s) []
  | failed {r : Ref} {steps : Nat} {frame : Frame} {s t : State} {f : Failure} :
      (taking r steps frame s).outcome c = .failure f t → Query.Own c (taking r steps frame s) []

namespace Query.Own

variable {q : Query} {own : List String}

theorem dots (h : q.Own c own) : ∀ line ∈ own, leadingDots line = q.frame.depth := by
  cases h with
  | line => exact List.forall_mem_singleton.mpr (leadingDots_traceLine _ _ _)
  | _ => exact nofun

theorem silent (h : q.Own c own) (untraced : q.frame.tracing = false) : own = [] := by
  cases h with
  | line _ traced => cases traced.symm.trans untraced
  | _ => rfl

theorem reverse (h : q.Own c own) : own.reverse = own := by cases h <;> rfl

end Query.Own

/-- When it is known whether there is a value, a dataization leaves only its own line. -/
theorem Query.exists_own {r : Ref} {steps : Nat} {found : Except Failure Value}
    (ends : (taking r steps frame s).Ended c)
    (outcome : (taking r steps frame s).outcome c =
      endTake (frame.holding [r]) r found (frame.holding [r]) t) :
    ∃ own, (taking r steps frame s).Own c own ∧
      ((taking r steps frame s).outcome c).state.trace = own ++ t.trace := by
  cases ending : (taking r steps frame s).outcome c with
  | answer v u =>
      have is : (endTake (frame.holding [r]) r found).Ends (frame.holding [r]) t (.ok v) u :=
        outcome.symm.trans ending
      cases found with
      | ok w =>
          obtain ⟨same, tells⟩ := ends_endTake_ok.mp is
          cases same
          cases tells with
          | nothing silent => exact ⟨[], .untraced ending silent, rfl⟩
          | line traced term value => exact ⟨_, .line ending traced term value, rfl⟩
      | error f =>
          obtain ⟨_, _, same, _⟩ := ends_endTake_error.mp is
          cases same
  | failure f u =>
      have is : (endTake (frame.holding [r]) r found).Ends (frame.holding [r]) t (.error f) u :=
        outcome.symm.trans ending
      cases found with
      | ok w => cases (ends_endTake_ok.mp is).1
      | error e =>
          obtain ⟨rfl, _⟩ := ends_endTake_error.mp is
          exact ⟨[], .failed ending, rfl⟩
  | unfinished =>
      rw [Ended, ending] at ends
      cases ends

/-- What a query leaves in the trace that nests these dataizations and leaves these lines itself. -/
structure Query.Traced (c : Computations) (q : Query) (nested : List Query) (own : List String) :
    Prop where
  nests : q.Nests c nested
  itself : q.Own c own
  /-- It asks the nested dataizations at its inner depth. -/
  depth : ∀ d ∈ nested, d.isTake = true ∧ d.frame.depth = q.inner
  /-- The trace goes on. -/
  trace : (q.outcome c).state.trace = (q.lines c).reverse ++ q.state.trace
  /-- First come the lines of the nested dataizations, in their order. -/
  lines : q.lines c = nested.flatMap (Query.lines c) ++ own
  dots : ∀ line ∈ nested.flatMap (Query.lines c), q.inner ≤ leadingDots line
  silent : q.frame.tracing = false → q.lines c = []

theorem Query.le_inner (q : Query) : q.frame.depth ≤ q.inner := by
  rw [inner]
  split <;> omega

theorem Query.Traced.all_dots {q : Query} {nested : List Query} {own : List String}
    (traced : q.Traced c nested own) : ∀ line ∈ q.lines c, q.frame.depth ≤ leadingDots line := by
  rw [traced.lines]
  exact List.forall_mem_append.mpr ⟨fun line there => q.le_inner.trans (traced.dots line there),
    fun line there => (traced.itself.dots line there).ge⟩

/-- What queries leave in the trace that are asked one after the other at that depth. -/
structure TracedInTurn (c : Computations) (n : Nat) (asked nested : List Query)
    (first last : List String) : Prop where
  nests : NestsInTurn c asked nested
  depth : ∀ d ∈ nested, d.isTake = true ∧ d.frame.depth = n
  trace : last = (nested.flatMap (Query.lines c)).reverse ++ first
  dots : ∀ line ∈ nested.flatMap (Query.lines c), n ≤ leadingDots line
  silent : (∀ d ∈ asked, d.frame.tracing = false) → nested.flatMap (Query.lines c) = []

theorem Linked.traced {n : Nat} {asked : List Query} {first last : List String} {steps : Nat}
    (linked : Linked (answered c steps) first asked last) (fewer : ∀ d ∈ asked, d.steps + 1 = steps)
    (level : ∀ d ∈ asked, d.frame.depth = n)
    (each : ∀ d ∈ asked, ∃ nested own, d.Traced c nested own) :
    ∃ nested, TracedInTurn c n asked nested first last := by
  induction linked with
  | nil trace => exact ⟨[], .nil, nofun, rfl, nofun, fun _ => rfl⟩
  | @cons q rest last _ ih =>
      obtain ⟨fewer, fewer'⟩ := List.forall_mem_cons.mp fewer
      obtain ⟨here, level⟩ := List.forall_mem_cons.mp level
      obtain ⟨⟨inside, own, traced⟩, each⟩ := List.forall_mem_cons.mp each
      obtain ⟨nested, rest⟩ := ih fewer' level each
      have trace := rest.trace
      rw [Query.answer_eq_outcome fewer, traced.trace, ← List.append_assoc,
        ← List.reverse_append] at trace
      cases take : q.isTake with
      | true =>
          have dots := traced.all_dots
          rw [here] at dots
          refine ⟨q :: nested, .take take rest.nests,
            List.forall_mem_cons.mpr ⟨⟨take, here⟩, rest.depth⟩, trace, ?_, fun silent => ?_⟩
          · rw [List.flatMap_cons]
            exact List.forall_mem_append.mpr ⟨dots, rest.dots⟩
          · obtain ⟨silent, silent'⟩ := List.forall_mem_cons.mp silent
            rw [List.flatMap_cons, traced.silent silent, rest.silent silent', List.nil_append]
      | false =>
          have inner : q.inner = n := by
            rw [Query.inner, take]
            exact here
          have none : own = [] := by
            have itself := traced.itself
            cases itself with
            | other => rfl
            | _ => cases take
          have lines := traced.lines
          rw [none, List.append_nil] at lines
          rw [lines, ← List.flatMap_append] at trace
          refine ⟨inside ++ nested, .other take traced.nests rest.nests, ?_, trace, ?_,
            fun silent => ?_⟩
          · rw [← inner] at rest ⊢
            exact List.forall_mem_append.mpr ⟨traced.depth, rest.depth⟩
          · rw [List.flatMap_append]
            exact List.forall_mem_append.mpr ⟨inner ▸ traced.dots, rest.dots⟩
          · obtain ⟨silent, silent'⟩ := List.forall_mem_cons.mp silent
            rw [List.flatMap_append, ← lines, traced.silent silent, rest.silent silent',
              List.nil_append]

/-- What the queries leave that a query asks, and after them the query itself, is what it leaves. -/
theorem Query.Goes.traced {q : Query} {asked nested : List Query} {own last : List String}
    (goes : q.Goes c asked last) (turn : TracedInTurn c q.inner asked nested q.state.trace last)
    (itself : q.Own c own) (trace : (q.outcome c).state.trace = own ++ last) :
    q.Traced c nested own := by
  have all : (q.outcome c).state.trace =
      (nested.flatMap (Query.lines c) ++ own).reverse ++ q.state.trace := by
    rw [trace, turn.trace, List.reverse_append, itself.reverse, List.append_assoc]
  have lines := lines_of_trace all
  refine ⟨.mk goes.inTurn turn.nests, itself, turn.depth, ?_, lines, turn.dots, fun silent => ?_⟩
  · rw [lines]
    exact all
  · rw [lines, itself.silent silent, List.append_nil]
    exact turn.silent fun d there => (goes.tracing d there).trans silent

/-- **Every query that ends leaves the lines of the dataizations nested in it and then its own.** -/
theorem Query.exists_traced (level : c.Level) (q : Query) (ends : q.Ended c) :
    ∃ nested own, q.Traced c nested own := by
  induction count : q.steps using Nat.strongRecOn generalizing q with
  | ind steps ih =>
      have each {asked : List Query} {last : List String} (goes : q.Goes c asked last) :
          ∃ nested, TracedInTurn c q.inner asked nested q.state.trace last := by
        refine goes.linked.traced goes.inTurn.fewer goes.depth fun d there => ?_
        have fewer := goes.inTurn.fewer d there
        exact ih d.steps (by omega) d (goes.inTurn.ended ends there) rfl
      cases dataizes : q.request.dataized? with
      | none =>
          obtain ⟨asked, goes⟩ := goes_of_other level dataizes ends
          obtain ⟨nested, turn⟩ := each goes
          exact ⟨nested, [], goes.traced turn (.other dataizes) rfl⟩
      | some r =>
          obtain ⟨request, steps', frame, s⟩ := q
          cases request with
          | dataize o =>
              obtain ⟨asked, found, u, goes, outcome⟩ := goes_of_take ends
              obtain ⟨nested, turn⟩ := each goes
              obtain ⟨own, itself, trace⟩ := exists_own ends outcome
              exact ⟨nested, own, goes.traced turn itself trace⟩
          | _ => cases dataizes

/-! ## Nesting -/

namespace Query

/-- The query is run directly by the other one: there is no dataization between them. -/
inductive Directly (c : Computations) (q : Query) : Query → Prop where
  | asks {d : Query} : q.Asks c d → Directly c q d
  | on {d e : Query} : Directly c q d → d.isTake = false → d.Asks c e → Directly c q e

variable {q d : Query}

theorem exists_goes (level : c.Level) (ends : q.Ended c) : ∃ asked last, q.Goes c asked last := by
  cases dataizes : q.request.dataized? with
  | none =>
      obtain ⟨asked, goes⟩ := goes_of_other level dataizes ends
      exact ⟨asked, _, goes⟩
  | some r =>
      obtain ⟨request, steps, frame, s⟩ := q
      cases request with
      | dataize o =>
          obtain ⟨asked, found, u, goes, _⟩ := goes_of_take ends
          exact ⟨asked, u.trace, goes⟩
      | _ => cases dataizes

/-- Whatever a query asks it asks at its inner depth. -/
theorem Asks.depth (asks : q.Asks c d) (level : c.Level) (ends : q.Ended c) :
    d.Ended c ∧ d.frame.depth = q.inner := by
  obtain ⟨asked, last, goes⟩ := exists_goes level ends
  have there : d ∈ asked := goes.inTurn.mem_iff.mpr asks
  exact ⟨goes.inTurn.ended ends there, goes.depth d there⟩

theorem Directly.depth (direct : q.Directly c d) (level : c.Level) (ends : q.Ended c) :
    d.Ended c ∧ d.frame.depth = q.inner := by
  induction direct with
  | asks asks => exact asks.depth level ends
  | on _ other asks ih =>
      obtain ⟨ended, depth⟩ := asks.depth level ih.1
      refine ⟨ended, depth.trans ?_⟩
      rw [inner, other]
      exact ih.2

end Query

/-- **Dataizations nest.**  Let a dataization end, in a value or in any failure.  Everything that is
run directly by it is run one level deeper than the dataization itself, and whatever its caller asks
else, before it or after it, is again on the level of the dataization.

It leaves the lines of the dataizations nested right inside of it, in the order in which these are
asked, all of them with more dots than its own level.  After them it leaves its own line, with as
many dots as its level, if it succeeds and is traced; if it fails it leaves none. -/
theorem takes_nest (level : c.Level) {r : Ref} {steps : Nat} {frame : Frame} {s : State}
    (ends : (Query.taking r steps frame s).Ended c) :
    let q := Query.taking r steps frame s
    (∀ d, q.Directly c d → d.frame.depth = frame.depth + 1) ∧
    (∀ p d : Query, p.Ended c → p.Asks c q → p.Asks c d → d.frame.depth = frame.depth) ∧
    ∃ nested own, q.Nests c nested ∧
      (∀ d ∈ nested, d.isTake = true ∧ d.frame.depth = frame.depth + 1) ∧
      (q.outcome c).state.trace = (q.lines c).reverse ++ s.trace ∧
      q.lines c = nested.flatMap (Query.lines c) ++ own ∧
      (∀ line ∈ nested.flatMap (Query.lines c), frame.depth + 1 ≤ leadingDots line) ∧
      q.Own c own ∧ ∀ line ∈ own, leadingDots line = frame.depth := by
  intro q
  obtain ⟨nested, own, traced⟩ := q.exists_traced level ends
  refine ⟨fun d direct => (direct.depth level ends).2, fun p d ended asks asks' => ?_, nested, own,
    traced.nests, traced.depth, traced.trace, traced.lines, traced.dots, traced.itself,
    traced.itself.dots⟩
  exact (asks'.depth level ended).2.trans (asks.depth level ended).2.symm

/-- The raise of the main part leaves no line, and the handler, the final part and the attempt leave
theirs. -/
theorem attempt_leaves_lines :
    let q := Query.taking ⟨5⟩ 10 { tracing := true } State.withAttempt
    ∃ nested own, q.Nests .ofExpressions nested ∧
      q.lines .ofExpressions = nested.flatMap (Query.lines .ofExpressions) ++ own ∧
      q.lines .ofExpressions =
        ["·𝔻( catch⟦ex ↦ 7, φ ↦ λ⟧ ) ➜ 7", "·𝔻( TRUE ) ➜ TRUE",
          "𝔻( try⟦main ↦ main⟦e ↦ Ø, φ ↦ λ⟧, catch ↦ catch⟦ex ↦ Ø, φ ↦ λ⟧, finally ↦ TRUE, " ++
            "φ ↦ λ⟧ ) ➜ 7"] := by
  intro q
  have ends : (q.outcome .ofExpressions).isUnfinished = false := by decide +kernel
  obtain ⟨_, _, nested, own, nests, _, _, lines, _⟩ := takes_nest level_ofExpressions ends
  exact ⟨nested, own, nests, lines, by decide +kernel⟩

end PhiCalculus
