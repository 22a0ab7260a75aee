import PhiCalculus.Proofs.Levels
import PhiCalculus.Proofs.VocabularyRuns

/-!
# Lines of the trace

A traced dataization that gives a value leaves one line (`dataization_leaves_line`), with the term
of the object and that of the value.  Line feeds and tabs are taken out of the term of the object
only.  So a line feed is in the line just if the value bears it, and any other line break just if
the value or the object does (`trace_lines_break_as_values_do`).  A pattern with a line feed breaks
the line of each dataization that gives it (`Program.twoLined_breaks_its_line`).

The texts that have no line break of some kind are a vocabulary (`Vocabulary.without`), so a program
without such line breaks in its names and patterns leaves no line with one.
-/

set_option autoImplicit false

namespace PhiCalculus

open PhiCalculus.Action Text Vocabulary

variable {c : Char}

/-! ## Texts without a line break -/

/-- No object bears a character that the texts of objects do not have. -/
theorem Heap.not_bears {h : Heap} (none : ∀ o, ∀ text ∈ (h.cell o).kind.words, c ∉ text.toList)
    (p : Nat × Ref) : ¬ h.Bears c p := by
  rintro ⟨q, -, text, shown, there⟩
  refine none q.2 text ?_ there
  rw [Heap.texts] at shown
  split at shown
  · cases shown
  · exact Kind.texts_subset_words _ shown

theorem unbroken_tagName (tag : TypeTag) : Unbroken tag.name.toList := by
  cases tag <;> decide

theorem unbroken_operation {name : String} {op : Arithmetic}
    (known : Arithmetic.ofName? name = some op) : Unbroken name.toList := by
  unfold Arithmetic.ofName? at known
  split at known
  all_goals first | decide | cases known

theorem unbroken_methodName {tag : TypeTag} {name : String} {m : Method}
    (known : Method.ofName? tag name = some m) : Unbroken name.toList := by
  unfold Method.ofName? at known
  split at known
  · next same =>
    rw [beq_iff_eq.mp same]
    decide
  · unfold Method.ofType? at known
    split at known
    case h_1 =>
      obtain ⟨op, known, -⟩ := Option.map_eq_some_iff.mp known
      exact unbroken_operation known
    case h_2 =>
      obtain ⟨op, known, -⟩ := Option.map_eq_some_iff.mp known
      exact unbroken_operation known
    all_goals first | decide | cases known

theorem unbroken_params (m : Method) : ∀ name ∈ m.params, Unbroken name.toList := by
  cases m with
  | int op => cases op <;> decide
  | float op => cases op <;> decide
  | _ => decide

/-- The form of a method and the names of its slots stand on one line. -/
theorem unbroken_methodTable (r : Ref) {tag : TypeTag} {name : String} {m : Method}
    (known : Method.ofName? tag name = some m) :
    ∀ text ∈ (Kind.table (methodTable r tag name m)).words, Unbroken text.toList := by
  intro text there
  rcases List.mem_cons.mp there with rfl | there
  · have dot : Unbroken ".".toList := by decide
    rw [methodTable, String.toList_append, String.toList_append]
    exact unbroken_append.mpr
      ⟨unbroken_append.mpr ⟨unbroken_tagName tag, dot⟩, unbroken_methodName known⟩
  · obtain ⟨s, declared, there⟩ := List.mem_flatMap.mp there
    rcases List.mem_append.mp declared with argument | decorated
    · obtain ⟨param, taken, rfl⟩ := List.mem_map.mp argument
      rw [List.mem_singleton.mp there]
      exact unbroken_params m param taken
    · have sign : Unbroken phi.toList := by decide
      rw [List.mem_singleton.mp decorated] at there
      rw [List.mem_singleton.mp there]
      exact sign

/-- The texts without a line break of some kind. -/
def Vocabulary.without (ends : endsLine c = true) : Vocabulary where
  Has text := c ∉ text.toList
  unnamed := Unbroken.not_mem (by decide) ends
  anonymous := Unbroken.not_mem (by decide) ends
  phi := Unbroken.not_mem (by decide) ends
  position := Unbroken.not_mem (by decide) ends
  attempt := by
    have plain : ∀ text ∈ (Kind.table attemptTable).words, Unbroken text.toList := by decide
    exact fun text there => (plain text there).not_mem ends
  signal r := by
    have plain : ∀ text ∈ ["try.raise", "ex", PhiCalculus.phi], Unbroken text.toList := by decide
    exact fun text there => (plain text there).not_mem ends
  method r _ _ _ known text there := (unbroken_methodTable r known text there).not_mem ends
  line h r v depth term value texts covers shown shown' := by
    rw [mem_traceLine ends, Heap.mem_term? ends shown, Heap.mem_valueTerm? ends shown']
    rintro ((⟨text, own, there⟩ | ⟨item, -, bears⟩) | ⟨-, bears⟩)
    · exact covers text own there
    · exact Heap.not_bears texts _ bears
    · exact Heap.not_bears texts _ bears

/-! ## Lines -/

variable {steps : Nat} {r : Ref} {frame : Frame} {s t : State} {v : Value}

/-- A traced dataization that gives a value leaves its line as the latest one. -/
theorem dataization_leaves_line (traced : frame.tracing = true)
    (gives : answerWithin steps (.dataize r) frame s = .answer v t) :
    ∃ term value older, t.trace = traceLine frame.depth term value :: older ∧
      t.heap.term? r = some term ∧ t.heap.valueTerm? v = some value := by
  cases steps with
  | zero => cases gives
  | succ steps =>
      let inside := frame.holding [r]
      have gives : dataizeObject (answerWithin steps) r inside s = .answer v t := gives
      rw [dataizeObject_apply, bind_eq_answer] at gives
      obtain ⟨found, u, -, ending⟩ := gives
      have ends : (endTake inside r found).Ends inside u (.ok v) t := ending
      cases found with
      | ok w =>
          obtain ⟨same, tells⟩ := ends_endTake_ok.mp ends
          cases same
          cases tells with
          | nothing silent => cases traced.symm.trans silent
          | line _ term value => exact ⟨_, _, _, rfl, term, value⟩
      | error f =>
          obtain ⟨-, e, same, -⟩ := ends_endTake_error.mp ends
          cases same

/-- **Lines of the trace break where values do.**  A traced dataization that gives a value leaves a
line with the terms of the object and of the value.  For every kind of line break, the line has one
just if the value bears it, or the object bears it and it is no line feed.  Texts, characters,
numbers, truth values and bytes bear none; patterns may, and so may the forms and names that the
elements of an array, or the object itself, are shown with.  Whatever breaks a line of a run is in a
name or a pattern of the program. -/
theorem trace_lines_break_as_values_do (ends : endsLine c = true) :
    (∀ (steps : Nat) (r : Ref) (frame : Frame) (s t : State) (v : Value), frame.tracing = true →
      answerWithin steps (.dataize r) frame s = .answer v t →
        ∃ term value older, t.trace = traceLine frame.depth term value :: older ∧
          t.heap.term? r = some term ∧ t.heap.valueTerm? v = some value ∧
          (c ∈ (traceLine frame.depth term value).toList ↔
            t.heap.ValueBears c v ∨ c ≠ '\n' ∧ t.heap.Bears c (0, r))) ∧
      ∀ (p : Program) (root : Option String) (outcome : Outcome Value),
        p.run root true = .ok outcome → (∃ line ∈ outcome.state.trace, c ∈ line.toList) →
          ∃ text ∈ p.words, c ∈ text.toList := by
  constructor
  · intro steps r frame s t v traced gives
    obtain ⟨term, value, older, latest, shown, shown'⟩ := dataization_leaves_line traced gives
    refine ⟨term, value, older, latest, shown, shown', ?_⟩
    rw [mem_traceLine ends, Heap.mem_term? ends shown, Heap.mem_valueTerm? ends shown']
  · rintro p root outcome run ⟨line, left, there⟩
    by_contra none
    have covers : (Vocabulary.without ends).Covers p.words := fun text written inside =>
      none ⟨text, written, inside⟩
    exact (p.run_within covers run).trace line left there

/-- A program whose value is a pattern of two lines. -/
def Program.twoLined : Program where
  name := "app"
  objects := [.abstraction (some "app") 1 [] [.data (some "@") 2 "regex" "a\nb"]]

/-- Whether the latest line of the trace has a line feed when the answer is there. -/
def Outcome.leavesBroken : Outcome Value → Bool
  | answer _ t => t.trace.head?.any fun line => line.toList.contains '\n'
  | _ => false

theorem Outcome.broken_of_leavesBroken {o : Outcome Value} (broken : o.leavesBroken = true) :
    ∃ v t line older, o = .answer v t ∧ t.trace = line :: older ∧ '\n' ∈ line.toList := by
  cases o with
  | answer v t =>
      rw [leavesBroken] at broken
      cases trace : t.trace with
      | nil =>
          rw [trace] at broken
          cases broken
      | cons line older =>
          rw [trace] at broken
          exact ⟨v, t, line, older, rfl, trace, List.contains_iff_mem.mp broken⟩
  | failure f t => cases broken
  | unfinished => cases broken

/-- The program runs, and a line of its trace has a line feed. -/
theorem Program.twoLined_run : ∃ outcome, Program.twoLined.run none true = .ok outcome ∧
    ∃ line ∈ outcome.state.trace, '\n' ∈ line.toList := by
  have broken : (Program.twoLined.run none true).toOption.map Outcome.leavesBroken = some true := by
    decide +kernel
  cases runs : Program.twoLined.run none true with
  | error fault =>
      rw [runs] at broken
      cases broken
  | ok outcome =>
      rw [runs] at broken
      obtain ⟨v, t, line, older, rfl, trace, there⟩ :=
        Outcome.broken_of_leavesBroken (Option.some.inj broken)
      refine ⟨_, rfl, line, ?_, there⟩
      rw [Outcome.state, trace]
      exact List.mem_cons_self

/-- The program passes its check, and it does not leave each step of its run on one line. -/
theorem Program.twoLined_breaks_its_line : Program.twoLined.check = .ok () ∧
    ∃ outcome, Program.twoLined.run none true = .ok outcome ∧
      ∃ line ∈ outcome.state.trace, '\n' ∈ line.toList :=
  ⟨by decide, Program.twoLined_run⟩

/-- The value of the program bears a line feed, as its line has one, and so does a text of the
program. -/
theorem Program.twoLined_bears_its_pattern :
    (∃ v t line older,
      answerWithin 10 (.dataize ⟨1⟩) { tracing := true } Program.twoLined.base = .answer v t ∧
        t.trace = line :: older ∧ '\n' ∈ line.toList ∧ t.heap.ValueBears '\n' v) ∧
      ∃ text ∈ Program.twoLined.words, '\n' ∈ text.toList := by
  have ends : endsLine '\n' = true := rfl
  constructor
  · have broken : (answerWithin 10 (.dataize ⟨1⟩) { tracing := true }
        Program.twoLined.base).leavesBroken = true := by decide +kernel
    obtain ⟨v, t, line, older, gives, trace, there⟩ := Outcome.broken_of_leavesBroken broken
    obtain ⟨term, value, older', trace', -, -, iff⟩ :=
      (trace_lines_break_as_values_do ends).1 10 ⟨1⟩ { tracing := true } _ t v rfl gives
    cases trace.symm.trans trace'
    rcases iff.mp there with bears | ⟨other, -⟩
    · exact ⟨v, t, _, older, gives, trace, there, bears⟩
    · exact absurd rfl other
  · obtain ⟨outcome, runs, broken⟩ := Program.twoLined_run
    exact (trace_lines_break_as_values_do ends).2 _ none outcome runs broken

end PhiCalculus
