import Mathlib
import PhiCalculus.Proofs.JsonText
import PhiCalculus.Proofs.WellFormed
import PhiCalculus.Tree.Document

/-!
# Documents of programs

Writing a program as a document shows every field, in the place and under the name where reading
looks for it, so nothing is lost: what is read back from the document of a program is the program.
The same holds for the text of the document, unless it is nested too deep to be read, and so
reading a text, writing the program and reading again changes nothing
(`Program.reads_back`).

A reader takes one node to a depth, and a node is nested as deep as its document.  The induction
is on that depth: the nodes below are two values further in, the array that holds them and the
node around it, so the depth that is left is enough for each of them.
-/

set_option autoImplicit false

namespace PhiCalculus

/-! ## Depths -/

theorem Json.depth_le_depths {v : Json} {items : List Json} (mem : v ∈ items) :
    v.depth ≤ Json.depths items :=
  Json.le_greatest (fun _ _ => rfl) mem

theorem Json.depth_le_memberDepths {m : String × Json} {members : List (String × Json)}
    (mem : m ∈ members) : m.2.depth ≤ Json.memberDepths members :=
  @Json.le_greatest _ (fun m => m.2.depth) _ (fun _ _ => rfl) m members mem

/-- What stands in an array that is a member of an object is two values further in. -/
theorem Json.depth_of_member {name : String} {v : Json} {items : List Json}
    {members : List (String × Json)} (item : v ∈ items) (member : (name, .array items) ∈ members) :
    v.depth + 2 ≤ (Json.object members).depth := by
  have inner : v.depth ≤ Json.depths items := Json.depth_le_depths item
  have outer := Json.depth_le_memberDepths member
  simp only [Json.depth] at outer ⊢
  omega

/-! ## Fields and lists -/

/-- Reading each of a list of values that were written gives the list. -/
theorem list?_map {α : Type} {read : Json → Option α} {write : α → Json} {xs : List α}
    (reads : ∀ x ∈ xs, read (write x) = some x) : list? read (.array (xs.map write)) = some xs := by
  simp only [list?]
  induction xs with
  | nil => rfl
  | cons x rest ih =>
      have first : read (write x) = some x := reads x List.mem_cons_self
      have others := ih fun y mem => reads y (List.mem_cons_of_mem x mem)
      simp [first, others]

theorem Node.allToJson_eq_map (nodes : List Node) :
    Node.allToJson nodes = nodes.map Node.toJson := by
  induction nodes with
  | nil => rfl
  | cons n rest ih => simp [Node.allToJson, ih]

/-! ## Parts of nodes -/

theorem Parameter.ofJson?_toJson (p : Parameter) : Parameter.ofJson? p.toJson = some p := by
  simp [Parameter.toJson, Parameter.ofJson?, required, optional, field?, Json.all, string?, bool?]

theorem Base.ofJson?_toJson (b : Base) : Base.ofJson? b.toJson = some b := by
  cases b <;> simp [Base.toJson, Base.ofJson?, Base.ofName?, string?]

/-! ## Nodes -/

/-- A reader that goes as deep as the document of a node gets the node back. -/
theorem Node.ofJsonWithin_toJson (depth : Nat) (n : Node) (deep : n.toJson.depth ≤ depth) :
    Node.ofJsonWithin depth n.toJson = some n := by
  induction depth generalizing n with
  | zero => cases n <;> simp [Node.toJson, Json.depth] at deep
  | succ depth ih =>
      -- the nodes in a member of the document are read with the depth that is left
      have inside : ∀ (name : String) (nodes : List Node) (members : List (String × Json)),
          (Json.object members).depth ≤ depth + 1 →
          (name, Json.array (nodes.map Node.toJson)) ∈ members →
          list? (Node.ofJsonWithin depth) (.array (nodes.map Node.toJson)) = some nodes := by
        intro name nodes members within member
        apply list?_map
        intro child mem
        apply ih
        have := Json.depth_of_member (List.mem_map_of_mem mem) member
        omega
      cases n with
      | abstraction name line params attrs =>
          simp only [Node.toJson, Node.allToJson_eq_map] at deep ⊢
          have attributes := inside "attrs" attrs _ deep (by simp)
          have parameters : list? Parameter.ofJson? (.array (params.map Parameter.toJson))
              = some params := list?_map fun p _ => p.ofJson?_toJson
          cases name <;>
            simp [Node.ofJsonWithin, nodeHead, required, optional, field?, Json.all, name?,
              natural?, NodeKind.ofJson?, parameters, attributes]
      | application name line base args copy unvar =>
          simp only [Node.toJson, Node.allToJson_eq_map] at deep ⊢
          have arguments := inside "args" args _ deep (by simp)
          cases name <;>
            simp [Node.ofJsonWithin, nodeHead, required, optional, field?, Json.all, name?,
              natural?, bool?, NodeKind.ofJson?, base.ofJson?_toJson, arguments]
      | data name line type value =>
          cases name <;>
            simp [Node.toJson, Node.ofJsonWithin, nodeHead, required, optional, field?, Json.all,
              name?, natural?, string?, NodeKind.ofJson?]

theorem Node.ofJson?_toJson (n : Node) : Node.ofJson? n.toJson = some n :=
  Node.ofJsonWithin_toJson _ n (Nat.le_refl _)

/-! ## Programs -/

theorem Program.ofJson?_toJson (p : Program) : Program.ofJson? p.toJson = some p := by
  have objects : list? Node.ofJson? (.array (p.objects.map Node.toJson)) = some p.objects :=
    list?_map fun n _ => n.ofJson?_toJson
  simp [Program.toJson, Program.ofJson?, Node.allToJson_eq_map, required, optional, field?,
    Json.all, string?, objects]

/-! ## Lines

Lines are the only numbers of a program.  A text keeps them up to a limit, which those that were
read from a text never exceed. -/

/-- The lines of a tree are numbers that a text keeps. -/
def Node.LinesKept (n : Node) : Prop := ∀ m, n.Within m → m.line ≤ Json.wholeLimit

/-- The lines of a program are numbers that a text keeps. -/
def Program.LinesKept (p : Program) : Prop := ∀ n ∈ p.objects, n.LinesKept

theorem Node.LinesKept.of_child {n m : Node} (kept : n.LinesKept) (child : m ∈ n.children) :
    m.LinesKept := by
  intro o within
  exact kept o (within.of_child child)

theorem Node.Within.root_or_child {n m : Node} (within : n.Within m) :
    m = n ∨ ∃ c ∈ n.children, c.Within m := by
  induction within with
  | root => exact .inl rfl
  | child _ mem ih =>
      right
      rcases ih with rfl | ⟨c, child, below⟩
      · exact ⟨_, mem, .root⟩
      · exact ⟨c, child, below.child mem⟩

theorem Node.LinesKept.of_children {n : Node} (own : n.line ≤ Json.wholeLimit)
    (children : ∀ m ∈ n.children, m.LinesKept) : n.LinesKept := by
  intro m within
  rcases within.root_or_child with rfl | ⟨c, child, below⟩
  · exact own
  · exact children c child m below

/-! ### Written lines -/

theorem built_string (s : String) : Json.Built Json.Exact (.string s) := .scalar rfl trivial

theorem built_bool (b : Bool) : Json.Built Json.Exact (.bool b) := .scalar rfl trivial

theorem nodeHead_built (name : Option String) {line : Nat} (kind : String)
    (kept : line ≤ Json.wholeLimit) :
    ∀ m ∈ nodeHead name line kind, Json.Built Json.Exact m.2 := by
  intro m mem
  have number : Json.Built Json.Exact (.natural line) := .scalar rfl kept
  cases name with
  | none =>
      simp only [nodeHead, List.nil_append, List.mem_cons, List.not_mem_nil, or_false] at mem
      rcases mem with rfl | rfl
      · exact number
      · exact built_string kind
  | some own =>
      simp only [nodeHead, List.cons_append, List.nil_append, List.mem_cons, List.not_mem_nil,
        or_false] at mem
      rcases mem with rfl | rfl | rfl
      · exact built_string own
      · exact number
      · exact built_string kind

theorem Parameter.toJson_built (p : Parameter) : Json.Built Json.Exact p.toJson := by
  apply Json.Built.object
  intro m mem
  simp only [List.mem_cons, List.not_mem_nil, or_false] at mem
  rcases mem with rfl | rfl
  · exact built_string p.name
  · exact built_bool p.vararg

theorem Base.toJson_built (b : Base) : Json.Built Json.Exact b.toJson := by
  cases b with
  | ref name =>
      apply Json.Built.object
      intro m mem
      rw [List.mem_singleton] at mem
      exact mem ▸ built_string name
  | method name =>
      apply Json.Built.object
      intro m mem
      rw [List.mem_singleton] at mem
      exact mem ▸ built_string name
  | xi => exact built_string "xi"
  | rho => exact built_string "rho"
  | sigma => exact built_string "sigma"
  | array => exact built_string "array"

mutual

/-- A node whose lines a text keeps has a document whose numbers it keeps. -/
theorem Node.toJson_built : (n : Node) → n.LinesKept → Json.Built Json.Exact n.toJson
  | .abstraction name line params attrs, kept => by
      have head := nodeHead_built name "abstraction" (kept _ .root)
      have attributes := Node.allToJson_built attrs fun m mem => kept.of_child mem
      apply Json.Built.object
      intro m mem
      rcases List.mem_append.mp mem with early | late
      · exact head m early
      · simp only [List.mem_cons, List.not_mem_nil, or_false] at late
        rcases late with rfl | rfl
        · apply Json.Built.array
          intro v mem
          obtain ⟨p, _, rfl⟩ := List.mem_map.mp mem
          exact p.toJson_built
        · exact .array attributes
  | .application name line base args copy unvar, kept => by
      have head := nodeHead_built name "application" (kept _ .root)
      have arguments := Node.allToJson_built args fun m mem => kept.of_child mem
      apply Json.Built.object
      intro m mem
      rcases List.mem_append.mp mem with early | late
      · exact head m early
      · simp only [List.mem_cons, List.not_mem_nil, or_false] at late
        rcases late with rfl | rfl | rfl | rfl
        · exact base.toJson_built
        · exact .array arguments
        · exact built_bool copy
        · exact built_bool unvar
  | .data name line type value, kept => by
      have head := nodeHead_built name "data" (kept _ .root)
      apply Json.Built.object
      intro m mem
      rcases List.mem_append.mp mem with early | late
      · exact head m early
      · simp only [List.mem_cons, List.not_mem_nil, or_false] at late
        rcases late with rfl | rfl
        · exact built_string type
        · exact built_string value

theorem Node.allToJson_built : (nodes : List Node) → (∀ n ∈ nodes, n.LinesKept) →
    ∀ v ∈ Node.allToJson nodes, Json.Built Json.Exact v
  | [], _ => by
      intro v mem
      cases mem
  | n :: rest, kept => by
      have first := n.toJson_built (kept n List.mem_cons_self)
      have others := Node.allToJson_built rest fun m mem => kept m (List.mem_cons_of_mem n mem)
      intro v mem
      rcases List.mem_cons.mp mem with rfl | later
      · exact first
      · exact others v later

end

/-! ### Lines that were read -/

theorem field?_mem {members : List (String × Json)} {name : String} {v : Json}
    (h : field? members name = some (some v)) : (name, v) ∈ members := by
  unfold field? at h
  split at h
  · cases h
  · next w found =>
      cases h
      have mem : v ∈ Json.all members name := by simp [found]
      obtain ⟨m, inside, rfl⟩ := List.mem_map.mp mem
      obtain ⟨member, same⟩ := List.mem_filter.mp inside
      rw [beq_iff_eq] at same
      exact same ▸ member
  · cases h

/-- What an optional field reads as comes from a member, or it is the default. -/
theorem optional_eq_some {α : Type} {members : List (String × Json)} {name : String} {default x : α}
    {read : Json → Option α} (h : optional members name default read = some x) :
    x = default ∨ ∃ v, (name, v) ∈ members ∧ read v = some x := by
  unfold optional at h
  simp only [Option.bind_eq_bind, Option.bind_eq_some_iff] at h
  obtain ⟨found, field, h⟩ := h
  cases found with
  | none =>
      cases h
      exact .inl rfl
  | some v => exact .inr ⟨v, field?_mem field, h⟩

theorem mem_of_mapM {α : Type} {read : Json → Option α} {items : List Json} {xs : List α}
    (h : items.mapM read = some xs) : ∀ x ∈ xs, ∃ v ∈ items, read v = some x := by
  induction items generalizing xs with
  | nil =>
      cases h
      simp
  | cons v rest ih =>
      simp only [List.mapM_cons, Option.bind_eq_bind, Option.bind_eq_some_iff] at h
      obtain ⟨y, first, ys, others, last⟩ := h
      cases last
      intro x mem
      rcases List.mem_cons.mp mem with rfl | later
      · exact ⟨v, List.mem_cons_self, first⟩
      · obtain ⟨w, inside, reads⟩ := ih others x later
        exact ⟨w, List.mem_cons_of_mem v inside, reads⟩

theorem list?_eq_some {α : Type} {read : Json → Option α} {v : Json} {xs : List α}
    (h : list? read v = some xs) :
    ∃ items, v = .array items ∧ ∀ x ∈ xs, ∃ w ∈ items, read w = some x := by
  cases v with
  | array items => exact ⟨items, rfl, mem_of_mapM h⟩
  | _ => cases h

theorem built_member {ok : Json → Prop} {members : List (String × Json)} {name : String} {v : Json}
    (built : Json.Built ok (.object members)) (mem : (name, v) ∈ members) : Json.Built ok v := by
  cases built with
  | scalar scalar _ => cases scalar
  | object members => exact members _ mem

theorem built_item {ok : Json → Prop} {items : List Json} {v : Json}
    (built : Json.Built ok (.array items)) (mem : v ∈ items) : Json.Built ok v := by
  cases built with
  | scalar scalar _ => cases scalar
  | array items => exact items v mem

theorem line_kept {members : List (String × Json)} {line : Nat}
    (built : Json.Built Json.Sized (.object members))
    (read : optional members "line" 0 natural? = some line) : line ≤ Json.wholeLimit := by
  rcases optional_eq_some read with rfl | ⟨v, mem, number⟩
  · exact Nat.zero_le _
  · have sized := built_member built mem
    cases v with
    | natural n =>
        cases number
        cases sized with
        | scalar _ sized => exact sized
    | _ => cases number

/-- The nodes of an optional field keep what each reads as. -/
theorem nodes_kept {members : List (String × Json)} {name : String} {nodes : List Node}
    {read : Json → Option Node} (built : Json.Built Json.Sized (.object members))
    (found : optional members name [] (list? read) = some nodes)
    (each : ∀ v n, Json.Built Json.Sized v → read v = some n → n.LinesKept) :
    ∀ n ∈ nodes, n.LinesKept := by
  intro n mem
  rcases optional_eq_some found with rfl | ⟨v, member, list⟩
  · cases mem
  · obtain ⟨items, rfl, origin⟩ := list?_eq_some list
    obtain ⟨w, item, reads⟩ := origin n mem
    exact each w n (built_item (built_member built member) item) reads

theorem Node.linesKept_of_ofJsonWithin {depth : Nat} {v : Json} {n : Node}
    (built : Json.Built Json.Sized v) (read : Node.ofJsonWithin depth v = some n) :
    n.LinesKept := by
  induction depth generalizing v n with
  | zero => cases v <;> cases read
  | succ depth ih =>
      have each : ∀ v n, Json.Built Json.Sized v → Node.ofJsonWithin depth v = some n →
          n.LinesKept := fun v n built read => ih built read
      cases v with
      | object members =>
          simp only [Node.ofJsonWithin, Option.bind_eq_bind, Option.bind_eq_some_iff] at read
          obtain ⟨name, _, line, lineRead, kind, _, read⟩ := read
          have own := line_kept built lineRead
          cases kind with
          | abstraction =>
              simp only [Option.bind_eq_some_iff] at read
              obtain ⟨params, _, attrs, attrsRead, last⟩ := read
              cases last
              exact .of_children own (nodes_kept built attrsRead each)
          | application =>
              simp only [Option.bind_eq_some_iff] at read
              obtain ⟨base, _, args, argsRead, copy, _, unvar, _, last⟩ := read
              cases last
              exact .of_children own (nodes_kept built argsRead each)
          | data =>
              simp only [Option.bind_eq_some_iff] at read
              obtain ⟨type, _, value, _, last⟩ := read
              cases last
              exact .of_children own (by simp [Node.children])
      | _ => cases read

/-! ## Programs in texts -/

theorem Program.toJson_built {p : Program} (kept : p.LinesKept) :
    Json.Built Json.Exact p.toJson := by
  apply Json.Built.object
  intro m mem
  simp only [List.mem_cons, List.not_mem_nil, or_false] at mem
  rcases mem with rfl | rfl
  · exact built_string p.name
  · exact .array (Node.allToJson_built p.objects kept)

theorem Program.linesKept_of_ofJson? {v : Json} {p : Program} (built : Json.Built Json.Sized v)
    (read : Program.ofJson? v = some p) : p.LinesKept := by
  have each : ∀ v n, Json.Built Json.Sized v → Node.ofJson? v = some n → n.LinesKept :=
    fun _ _ built read => Node.linesKept_of_ofJsonWithin built read
  unfold Program.ofJson? at read
  split at read
  · simp only [Option.bind_eq_bind, Option.bind_eq_some_iff] at read
    obtain ⟨name, _, objects, found, last⟩ := read
    cases last
    exact nodes_kept built found each
  · obtain ⟨name, _, last⟩ := Option.map_eq_some_iff.mp read
    cases last
    intro n mem
    cases mem
  · next nameValue nodes =>
      simp only [Option.bind_eq_bind, Option.bind_eq_some_iff] at read
      obtain ⟨name, _, objects, list, last⟩ := read
      cases last
      intro n mem
      obtain ⟨items, rfl, origin⟩ := list?_eq_some list
      obtain ⟨w, item, reads⟩ := origin n mem
      have whole : Json.Built Json.Sized (.array items) := built_item built (by simp)
      exact each w n (built_item whole item) reads
  · cases read

/-- A program reads back from the text of its document, if lines and nesting are within the limits
of texts. -/
theorem Program.read?_write {p : Program} (kept : p.LinesKept)
    (fits : p.toJson.nesting < Json.nestLimit) : Program.read? (Json.write p.toJson) = some p := by
  have use : ∀ m ∈ [("name", Json.string p.name), ("objects", .array (Node.allToJson p.objects))],
      isProgramField m.1 = true := by
    intro m mem
    simp only [List.mem_cons, List.not_mem_nil, or_false] at mem
    rcases mem with rfl | rfl
    · rfl
    · rfl
  have document : Json.readDocument isProgramField (Json.write p.toJson) = some p.toJson :=
    Json.readDocument_write use (Program.toJson_built kept) fits
  rw [Program.read?, document]
  exact p.ofJson?_toJson

/-- Writing loses nothing of any program: reading its document gives the program, and so does
reading the text of the document where texts can be read so deep.  Hence a text that was accepted,
its program written and read again, gives the same program. -/
theorem Program.reads_back :
    (∀ p : Program, Program.ofJson? p.toJson = some p) ∧
      (∀ p : Program, p.LinesKept → p.toJson.nesting < Json.nestLimit →
        Program.read? (Json.write p.toJson) = some p) ∧
      ∀ (text : String) (p : Program), Program.read? text = some p →
        p.toJson.nesting < Json.nestLimit → Program.read? (Json.write p.toJson) = some p := by
  refine ⟨Program.ofJson?_toJson, fun p => Program.read?_write, ?_⟩
  intro text p accepted fits
  obtain ⟨v, document, read⟩ := Option.bind_eq_some_iff.mp accepted
  have kept : p.LinesKept :=
    Program.linesKept_of_ofJson? (Json.readDocument_sized document) read
  exact Program.read?_write kept fits

/-- A text that leaves out what has a default and writes a parameter as an array. -/
def Program.briefText : String :=
  "\x7b\"objects\":[\x7b\"kind\":\"abstraction\",\"params\":[[\"x\"]],\"name\":\"f\"\x7d]," ++
    "\"name\":\"p\"\x7d"

/-- The text of the same program with nothing left out. -/
def Program.fullText : String :=
  "\x7b\"name\":\"p\",\"objects\":[\x7b\"name\":\"f\",\"line\":0,\"kind\":\"abstraction\"," ++
    "\"params\":[\x7b\"name\":\"x\",\"vararg\":false\x7d],\"attrs\":[]\x7d]\x7d"

/-- The program of these texts. -/
def Program.brief : Program := ⟨"p", [.abstraction (some "f") 0 [⟨"x", false⟩] []]⟩

/-- The program is read from its text and from what is written of it, which shows the defaults. -/
theorem Program.brief_reads_back :
    Program.read? Program.briefText = some Program.brief ∧
      Program.brief.toJson.nesting < Json.nestLimit ∧
      Json.write Program.brief.toJson = Program.fullText ∧
      Program.read? (Json.write Program.brief.toJson) = some Program.brief := by
  have accepted : Program.read? Program.briefText = some Program.brief := by
    cbv
  have fits : Program.brief.toJson.nesting < Json.nestLimit := by
    decide
  have shown : Json.write Program.brief.toJson = Program.fullText := by
    cbv
  exact ⟨accepted, fits, shown, Program.reads_back.2.2 _ _ accepted fits⟩

end PhiCalculus
