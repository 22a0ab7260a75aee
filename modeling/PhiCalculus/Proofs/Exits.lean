import PhiCalculus.Proofs.Invocations
import PhiCalculus.Proofs.Soundness
import PhiCalculus.Proofs.WellFormed

/-!
# Exit codes

A command that succeeds leaves its result on the standard output, and any other leaves nothing
there.  The exit code tells a misuse of the tool from a program that is refused and from a run that
fails (`CheckEnds`, `RunEnds`).

Checking and running look at a file in the same order, up to where a run chooses its root.  So they
refuse the same files for the same reasons, apart from a root that is missing, and that reason is
told from all others by what is written (`refuses_alike`).  With how the words of a call are read,
this is what becomes of any call of the tool (`commandLine_ends`).
-/

set_option autoImplicit false

namespace PhiCalculus

/-! ## Files -/

/-- What reading the file gives, or that it cannot be read. -/
abbrev Content : Type := Except String String

namespace Content

/-- The file has that program in it. -/
def Holds (content : Content) (p : Program) : Prop :=
  ∃ text, content = .ok text ∧ Program.read? text = some p

/-- The file has a text in it that is no program. -/
def IsNoProgram (content : Content) : Prop :=
  ∃ text, content = .ok text ∧ Program.read? text = none

def IsUnreadable (content : Content) : Prop := ∃ message, content = .error message

variable {content : Content} {p p' : Program}

theorem Holds.unique (holds : content.Holds p) (holds' : content.Holds p') : p' = p := by
  obtain ⟨text, rfl, read⟩ := holds
  obtain ⟨_, ⟨⟩, read'⟩ := holds'
  exact Option.some.inj (read'.symm.trans read)

/-- What is in a file, where it is known. -/
theorem Holds.iff (holds : content.Holds p) : content.Holds p' ↔ p' = p := by
  constructor
  · exact holds.unique
  · rintro rfl
    exact holds

theorem Holds.isProgram (holds : content.Holds p) : ¬ content.IsNoProgram := by
  obtain ⟨text, rfl, read⟩ := holds
  rintro ⟨_, ⟨⟩, none⟩
  cases read.symm.trans none

theorem Holds.isReadable (holds : content.Holds p) : ¬ content.IsUnreadable := by
  obtain ⟨text, rfl, -⟩ := holds
  rintro ⟨_, ⟨⟩⟩

theorem IsNoProgram.isReadable (none : content.IsNoProgram) : ¬ content.IsUnreadable := by
  obtain ⟨text, rfl, -⟩ := none
  rintro ⟨_, ⟨⟩⟩

theorem IsNoProgram.not_holds (none : content.IsNoProgram) (p : Program) : ¬ content.Holds p :=
  fun holds => holds.isProgram none

theorem IsUnreadable.not_holds (unreadable : content.IsUnreadable) (p : Program) :
    ¬ content.Holds p :=
  fun holds => holds.isReadable unreadable

theorem IsUnreadable.not_isNoProgram (unreadable : content.IsUnreadable) :
    ¬ content.IsNoProgram :=
  fun none => none.isReadable unreadable

/-- What is read of a file, by what is in it. -/
theorem readProgram_cases (content : Content) :
    (content.IsUnreadable ∧ ∃ message, readProgram content = .error (.file message)) ∨
      (content.IsNoProgram ∧ readProgram content = .error .document) ∨
        ∃ p, content.Holds p ∧ readProgram content = .ok p := by
  cases content with
  | error message => exact .inl ⟨⟨message, rfl⟩, message, rfl⟩
  | ok text =>
      cases read : Program.read? text with
      | none => exact .inr (.inl ⟨⟨text, rfl, read⟩, by rw [readProgram, read]⟩)
      | some p => exact .inr (.inr ⟨p, ⟨text, rfl, read⟩, by rw [readProgram, read]⟩)

end Content

/-! ## Ends of commands -/

/-- The command ends, with that exit code and with that on the standard output. -/
def EndsWith (ended : Option Exit) (code : Nat) (out : List String) : Prop :=
  ∃ exit, ended = some exit ∧ exit.code = code ∧ exit.out = out

/-- What becomes of checking a file. -/
structure CheckEnds (content : Content) (ended : Option Exit) : Prop where
  succeeds : ∀ out, EndsWith ended 0 out ↔ ∃ p, content.Holds p ∧ p.check = .ok () ∧
    out = ["OK " ++ p.name ++ " (" ++ toString p.objects.length ++ " objects)"]
  refuses : ∀ out, EndsWith ended 65 out ↔
    out = [] ∧ (content.IsNoProgram ∨ ∃ p fault, content.Holds p ∧ p.check = .error fault)
  fails : ∀ out, EndsWith ended 70 out ↔ out = [] ∧ content.IsUnreadable
  ends : ∃ code ∈ [0, 65, 70], ∃ out, EndsWith ended code out

/-- What becomes of running the program in a file, where it may be said what its root is and whether
to trace the run.  Neither a run without an end has an exit nor one whose result has a term without
an end. -/
structure RunEnds (root : Option String) (tracing : Bool) (content : Content)
    (ended : Option Exit) : Prop where
  succeeds : ∀ out, EndsWith ended 0 out ↔ ∃ p v t term, content.Holds p ∧
    p.run root tracing = .ok (.answer v t) ∧ t.heap.valueTerm? v = some term ∧ out = [term]
  refuses : ∀ out, EndsWith ended 65 out ↔ out = [] ∧ (content.IsNoProgram ∨
    ∃ p fault, content.Holds p ∧
      (p.check = .error fault ∨ p.check = .ok () ∧ p.root root = .error fault))
  fails : ∀ out, EndsWith ended 70 out ↔ out = [] ∧ (content.IsUnreadable ∨
    ∃ p f t, content.Holds p ∧ p.run root tracing = .ok (.failure f t))
  ends : (∃ code ∈ [0, 65, 70], ∃ out, EndsWith ended code out) ∨
    ended = none ∧ ∃ p, content.Holds p ∧
      ((∃ t, p.run root tracing = .ok (@Outcome.unfinished _ t)) ∨
        ∃ v t, p.run root tracing = .ok (.answer v t) ∧ t.heap.valueTerm? v = none)

variable {log out : List String} {code : Nat} {f : CommandFault} {content : Content} {p : Program}

theorem endsWith_failed :
    EndsWith (some (.failed log f)) code out ↔ f.code = code ∧ out = [] := by
  simp [EndsWith, Exit.failed, eq_comm]

theorem endsWith_succeeded {result : String} :
    EndsWith (some (.succeeded log result)) code out ↔ code = 0 ∧ out = [result] := by
  simp [EndsWith, Exit.succeeded, eq_comm]

theorem not_endsWith_none : ¬ EndsWith none code out := by
  rintro ⟨exit, ⟨⟩, -⟩

/-! ## Checking -/

theorem checkEnds (settings : Settings) (file : String) (source : String → Content) :
    CheckEnds (source file) (perform ⟨.check file, settings⟩ source) := by
  simp only [perform]
  generalize source file = content
  rcases content.readProgram_cases with
    ⟨unreadable, message, read⟩ | ⟨none, read⟩ | ⟨p, holds, read⟩
  · constructor <;> simp [read, endsWith_failed, unreadable, unreadable.not_holds,
      unreadable.not_isNoProgram, CommandFault.code]
  · constructor <;> simp [read, endsWith_failed, none, none.not_holds, none.isReadable,
      CommandFault.code]
  · rw [read]
    dsimp only
    rw [checkProgram]
    cases checked : p.check with
    | error fault =>
        constructor <;> simp [endsWith_failed, holds.iff, holds.isProgram, holds.isReadable,
          checked, CommandFault.code]
    | ok _ =>
        constructor <;> simp [endsWith_succeeded, holds.iff, holds.isProgram, holds.isReadable,
          checked]

/-! ## Running -/

/-- A program that is refused does not run. -/
theorem Program.run_eq_error {root : Option String} {tracing : Bool} {fault : TreeFault} :
    p.run root tracing = .error fault ↔
      p.check = .error fault ∨ p.check = .ok () ∧ p.root root = .error fault := by
  cases checked : p.check with
  | error _ => simp [Program.run, Program.load, checked, bind, Except.bind]
  | ok _ =>
      rw [run_of_checked checked]
      cases p.root root <;> simp [Except.map]

/-- What comes of a program that was read, by how its run ends. -/
theorem runProgram_run (settings : Settings) (p : Program) :
    ∃ log, runProgram settings p =
      match p.run settings.root (isTracing (LogFilter.ofSettings settings)) with
      | .error fault => some (.failed log (.tree fault))
      | .ok (.answer v t) => (t.heap.valueTerm? v).map (.succeeded log)
      | .ok (.failure f _) => some (.failed log (.failure f))
      | .ok .unfinished => none := by
  rw [runProgram, Program.run]
  cases p.load with
  | error fault => exact ⟨[], rfl⟩
  | ok s =>
      cases p.root settings.root with
      | error fault => exact ⟨_, rfl⟩
      | ok name =>
          dsimp only [bind, Except.bind]
          cases dataizeGlobal name ⟨0, isTracing (LogFilter.ofSettings settings), []⟩ s with
          | answer v t => exact ⟨_, rfl⟩
          | failure f t => exact ⟨_, rfl⟩
          | unfinished => exact ⟨[], rfl⟩

theorem runEnds (settings : Settings) (file : String) (source : String → Content) :
    RunEnds settings.root (isTracing (LogFilter.ofSettings settings)) (source file)
      (perform ⟨.run file, settings⟩ source) := by
  simp only [perform]
  generalize source file = content
  rcases content.readProgram_cases with
    ⟨unreadable, message, read⟩ | ⟨none, read⟩ | ⟨p, holds, read⟩
  · constructor <;> simp [read, endsWith_failed, unreadable, unreadable.not_holds,
      unreadable.not_isNoProgram, CommandFault.code]
  · constructor <;> simp [read, endsWith_failed, none, none.not_holds, none.isReadable,
      CommandFault.code]
  · rw [read]
    dsimp only
    obtain ⟨log, ended⟩ := runProgram_run settings p
    have refused (fault : TreeFault) := @Program.run_eq_error p settings.root
      (isTracing (LogFilter.ofSettings settings)) fault
    rw [ended]
    cases runs : p.run settings.root (isTracing (LogFilter.ofSettings settings)) with
    | error fault =>
        constructor <;> simp [endsWith_failed, holds.iff, holds.isProgram, holds.isReadable, runs,
          CommandFault.code, ← refused]
    | ok outcome =>
        cases outcome with
        | answer v t =>
            cases rendered : t.heap.valueTerm? v with
            | none =>
                constructor <;> simp [not_endsWith_none, holds.iff, holds.isProgram,
                  holds.isReadable, runs, rendered, ← refused]
            | some term =>
                constructor <;> simp [endsWith_succeeded, holds.iff, holds.isProgram,
                  holds.isReadable, runs, rendered, ← refused]
        | failure f t =>
            constructor <;> simp [endsWith_failed, holds.iff, holds.isProgram, holds.isReadable,
              runs, CommandFault.code, ← refused]
        | unfinished =>
            constructor <;> simp [not_endsWith_none, holds.iff, holds.isProgram,
              holds.isReadable, runs, ← refused]

/-! ## Checking and running -/

/-- A missing root is told from other faults by what is written. -/
theorem TreeFault.missingRoot_of_message {fault : TreeFault} {name : String}
    (same : fault.message = (missingRoot name).message) : ∃ name', fault = missingRoot name' := by
  unfold message at same
  -- the texts differ in one of the first three letters
  have letters := congrArg String.toList same
  cases fault with
  | missingRoot name' => exact ⟨name', rfl⟩
  | _ =>
      simp only [String.toList_append] at letters
      simp at letters

theorem CommandFault.missingRoot_of_message {name : String} (refused : f.code = 65)
    (same : f.message = (tree (.missingRoot name)).message) :
    ∃ name', f = .tree (.missingRoot name') := by
  cases f with
  | tree fault =>
      have rest : fault.message = (TreeFault.missingRoot name).message := by
        simpa [message] using same
      obtain ⟨name', rfl⟩ := TreeFault.missingRoot_of_message rest
      exact ⟨name', rfl⟩
  | document =>
      have letters := congrArg String.toList same
      simp only [message, String.toList_append] at letters
      simp at letters
  | _ => cases refused

/-- The check of a program does not look for a root. -/
theorem Program.ne_missingRoot_of_check {fault : TreeFault} (wrong : p.check = .error fault)
    (name : String) : fault ≠ .missingRoot name := by
  have reports := p.check_reports
  rw [wrong] at reports
  obtain ⟨a, breaks, -⟩ := reports
  obtain ⟨l, line, -⟩ := breaks.line
  rintro rfl
  cases line

/-- The command refuses what is in its file, and not for want of a root. -/
structure IsRefused (ended : Option Exit) (f : CommandFault) : Prop where
  ended : ended = some (.failed [] f)
  code : f.code = 65
  other : ∀ name, f ≠ .tree (.missingRoot name)

/-- No end for want of a root is one for another reason. -/
theorem not_isRefused_missingRoot {name : String} :
    ¬ IsRefused (some (.failed log (.tree (.missingRoot name)))) f := by
  rintro ⟨ended, code, other⟩
  have written : log ++ ["Error: " ++ (CommandFault.tree (.missingRoot name)).message] =
      ["Error: " ++ f.message] := congrArg Exit.err (Option.some.inj ended)
  have there : "Error: " ++ (CommandFault.tree (.missingRoot name)).message ∈
      ["Error: " ++ f.message] := by
    rw [← written]
    exact List.mem_append_right log (List.mem_singleton_self _)
  have same : f.message = (CommandFault.tree (.missingRoot name)).message := by
    simpa [eq_comm] using there
  obtain ⟨name', is⟩ := CommandFault.missingRoot_of_message code same
  exact other name' is

theorem IsRefused.endsWith {ended : Option Exit} (refused : IsRefused ended f) :
    EndsWith ended 65 [] := by
  rw [refused.ended, endsWith_failed]
  exact ⟨refused.code, rfl⟩

/-- **Checking and running refuse the same files for the same reasons**, but for a root that is
missing. -/
theorem refuses_alike (settings settings' : Settings) (file : String) (source : String → Content) :
    IsRefused (perform ⟨.check file, settings⟩ source) f ↔
      IsRefused (perform ⟨.run file, settings'⟩ source) f := by
  simp only [perform]
  generalize source file = content
  rcases content.readProgram_cases with ⟨-, message, read⟩ | ⟨-, read⟩ | ⟨p, -, read⟩
  · rw [read]
  · rw [read]
  · rw [read]
    dsimp only
    cases checked : p.check with
    | error fault => rw [checkProgram, checked, runProgram, Program.load, checked]; rfl
    | ok _ =>
        have passes : ¬ IsRefused (some (checkProgram p)) f := by
          rw [checkProgram, checked]
          exact fun refused => by simpa [endsWith_succeeded] using refused.endsWith
        refine iff_of_false passes fun refused => ?_
        obtain ⟨log, ended⟩ := runProgram_run settings' p
        rw [ended, p.run_of_checked checked] at refused
        cases chosen : p.root settings'.root with
        | error fault =>
            obtain ⟨name, rfl⟩ := p.missingRoot_of_root chosen
            rw [chosen] at refused
            exact not_isRefused_missingRoot refused
        | ok name =>
            rw [chosen] at refused
            have stopped := refused.endsWith
            dsimp only [Except.map] at stopped
            generalize dataizeGlobal name _ _ = outcome at stopped
            cases outcome with
            | answer v t =>
                cases rendered : t.heap.valueTerm? v <;>
                  simp [rendered, endsWith_succeeded, not_endsWith_none] at stopped
            | failure f t => cases (endsWith_failed.mp stopped).1
            | unfinished => exact not_endsWith_none stopped

theorem check_refuses (settings : Settings) (file : String) (source : String → Content) :
    (∃ out, EndsWith (perform ⟨.check file, settings⟩ source) 65 out) ↔
      ∃ f, IsRefused (perform ⟨.check file, settings⟩ source) f := by
  constructor
  · rintro ⟨out, stopped⟩
    simp only [perform] at stopped ⊢
    generalize source file = content at stopped ⊢
    rcases content.readProgram_cases with ⟨-, message, read⟩ | ⟨-, read⟩ | ⟨p, -, read⟩
    · rw [read, endsWith_failed] at stopped
      cases stopped.1
    · exact ⟨.document, by rw [read], rfl, nofun⟩
    · rw [read] at stopped ⊢
      dsimp only at stopped ⊢
      rw [checkProgram] at stopped ⊢
      cases checked : p.check with
      | error fault =>
          refine ⟨.tree fault, rfl, rfl, ?_⟩
          intro name same
          cases same
          exact p.ne_missingRoot_of_check checked name rfl
      | ok _ =>
          rw [checked, endsWith_succeeded] at stopped
          cases stopped.1
  · rintro ⟨f, refused⟩
    exact ⟨[], refused.endsWith⟩

/-! ## Calls -/

/-- How a command ends. -/
def Command.Ends (settings : Settings) (source : String → Content) (ended : Option Exit) :
    Command → Prop
  | .help => ended = some { code := 0, err := usage }
  | .version => ended = some { code := 0, out := [PhiCalculus.version] }
  | .run file =>
    RunEnds settings.root (isTracing (LogFilter.ofSettings settings)) (source file) ended
  | .check file => CheckEnds (source file) ended

theorem Command.ends_perform (command : Command) (settings : Settings)
    (source : String → Content) :
    command.Ends settings source (perform ⟨command, settings⟩ source) := by
  cases command with
  | help => rfl
  | version => rfl
  | run file => exact runEnds settings file source
  | check file => exact checkEnds settings file source

/-- No command ends in the exit code of a misuse. -/
theorem Command.Ends.ne_usage {command : Command} {settings : Settings}
    {source : String → Content} {ended : Option Exit}
    (ends : command.Ends settings source ended) : ¬ EndsWith ended 64 out := by
  have apart {codes : List Nat} (other : 64 ∉ codes)
      (ends : ∃ code ∈ codes, ∃ out, EndsWith ended code out) : ¬ EndsWith ended 64 out := by
    rintro ⟨exit, rfl, code, -⟩
    obtain ⟨code', there, out', _, ⟨⟩, is, -⟩ := ends
    rw [← is, code] at there
    exact other there
  cases command with
  | help =>
      rw [Ends] at ends
      simp [ends, EndsWith]
  | version =>
      rw [Ends] at ends
      simp [ends, EndsWith]
  | run file =>
      rcases RunEnds.ends ends with stopped | ⟨none, -⟩
      · exact apart (by decide) stopped
      · rw [none]
        exact not_endsWith_none
  | check file => exact apart (by decide) (CheckEnds.ends ends)

open Argument in
/-- **What becomes of a call.**  It is a misuse, or arguments say what to do with which settings;
whichever command they ask for ends as it should, and checking a file is refused as running it is,
apart from a root that is missing.  What is written after a misuse names every word that begins an
argument and every variable that is read. -/
theorem commandLine_ends (args : List String) (lookup : String → Option String)
    (source : String → Content) :
    ((∃ out, EndsWith (commandLine args lookup source) 64 out) ↔ ∃ fault, Misused args fault) ∧
      (∀ fault, Misused args fault →
        commandLine args lookup source = some { code := 64, err := fault.message :: usage }) ∧
      ((∃ fault, Misused args fault) ∨
        ∃ given command, Written given args ∧ chosen given = some command) ∧
      (∀ given command, Written given args → chosen given = some command →
        ∃ settings, SettingsOf given lookup settings ∧
          commandLine args lookup source = perform ⟨command, settings⟩ source ∧
          command.Ends settings source (commandLine args lookup source)) ∧
      (∀ file settings settings',
        ((∃ out, EndsWith (perform ⟨.check file, settings⟩ source) 65 out) ↔
          ∃ f, IsRefused (perform ⟨.run file, settings'⟩ source) f) ∧
        ∀ f, IsRefused (perform ⟨.check file, settings⟩ source) f ↔
          IsRefused (perform ⟨.run file, settings'⟩ source) f) ∧
      UsageTells := by
  have misuse {fault : UsageFault} (misused : Misused args fault) :
      commandLine args lookup source = some { code := 64, err := fault.message :: usage } := by
    rw [commandLine, misused.readArguments_eq]
  have performs {given : List Argument} {command : Command} (written : Written given args)
      (asked : chosen given = some command) : ∃ settings, SettingsOf given lookup settings ∧
        commandLine args lookup source = perform ⟨command, settings⟩ source := by
    refine ⟨adjust (Settings.withEnvironment {} lookup) given, settingsOf_adjust given lookup, ?_⟩
    rw [commandLine, readArguments_chosen written, asked]
  refine ⟨⟨?_, ?_⟩, fun fault => misuse, misused_or_chosen args, ?_, ?_, usageTells⟩
  · rintro ⟨out, stopped⟩
    rcases misused_or_chosen args with misused | ⟨given, command, written, asked⟩
    · exact misused
    · obtain ⟨settings, -, performed⟩ := performs written asked
      rw [performed] at stopped
      exact absurd stopped (command.ends_perform settings source).ne_usage
  · rintro ⟨fault, misused⟩
    rw [misuse misused]
    exact ⟨[], _, rfl, rfl, rfl⟩
  · intro given command written asked
    obtain ⟨settings, are, performed⟩ := performs written asked
    refine ⟨settings, are, performed, ?_⟩
    rw [performed]
    exact command.ends_perform settings source
  · intro file settings settings'
    have alike (f : CommandFault) := @refuses_alike f settings settings' file source
    refine ⟨?_, alike⟩
    rw [check_refuses settings file source]
    exact exists_congr alike

open Argument in
/-- What looks like a flag or a command is taken for an operand where one is due: the file is called
`--trace` and the root `check`. -/
theorem operands_are_taken_as_they_are :
    commandLine ["--root"] (fun _ => none) (fun _ => .ok "") =
        some { code := 64, err := UsageFault.rootWithoutName.message :: usage } ∧
      EndsWith (commandLine ["run", "--trace", "--root", "check", "check", "--help"]
        (fun _ => none) (fun _ => .ok "\x7b\x7d")) 65 [] := by
  have nothing := commandLine_ends ["--root"] (fun _ => none) fun _ => .ok ""
  have calls := commandLine_ends ["run", "--trace", "--root", "check", "check", "--help"]
    (fun _ => none) fun _ => .ok "\x7b\x7d"
  have missing : Misused ["--root"] .rootWithoutName :=
    .misread (@Misread.withoutOperand _ _ _ "--root" .nil rfl (by decide))
  have written : Written [.run "--trace", .root "check", .check "--help"]
      ["run", "--trace", "--root", "check", "check", "--help"] :=
    .cons (.run "--trace") (.cons (.root "check") (.cons (.check "--help") .nil))
  obtain ⟨settings, -, -, ends⟩ := calls.2.2.2.1 _ (.run "--trace") written rfl
  refine ⟨nothing.2.1 _ missing, (RunEnds.refuses ends []).mpr ⟨rfl, .inl ⟨_, rfl, ?_⟩⟩⟩
  have none : (Program.read? "\x7b\x7d").isNone = true := by decide +kernel
  exact Option.isNone_iff_eq_none.mp none

end PhiCalculus
