import Mathlib.Data.List.Induction
import PhiCalculus.CommandLine
import PhiCalculus.Proofs.IntegerLiterals

/-!
# How the tool is called

An argument is one word or, with an operand, two of them; the operand may be any word at all
(`Argument.Spelled`).  The words of a call are arguments one after the other, or there is a first
word that cannot be read (`written_or_misread`).

What is read of the arguments depends on their order only through which one comes first or last.
The last wish for help or the version decides on the command if there is one, and otherwise the
first command does.  The last root goes before the one of the environment, and a trace that is
wanted anywhere is made.  Whatever cannot be read, or asks for no command, is a misuse
(`readArguments_written`, `Misused.readArguments_eq`).

Whoever misuses the tool is told how to use it.  All words that begin an argument, and all variables
that are read, are named there (`usageTells`).
-/

set_option autoImplicit false

namespace PhiCalculus

/-! ## Arguments -/

/-- What an argument says, along with its operand. -/
inductive Argument where
  | help
  | version
  | trace
  | root (name : String)
  | run (file : String)
  | check (file : String)
  deriving DecidableEq

namespace Argument

/-- The words that an argument is spelled with.  Operands are taken as they are. -/
inductive Spelled : Argument → List String → Prop where
  | help : Spelled .help ["--help"]
  | shortHelp : Spelled .help ["-h"]
  | version : Spelled .version ["--version"]
  | shortVersion : Spelled .version ["-V"]
  | trace : Spelled .trace ["--trace"]
  | root (name : String) : Spelled (.root name) ["--root", name]
  | run (file : String) : Spelled (.run file) ["run", file]
  | check (file : String) : Spelled (.check file) ["check", file]

/-- The words are those of the arguments, one after the other. -/
inductive Written : List Argument → List String → Prop where
  | nil : Written [] []
  | cons {a : Argument} {words rest : List String} {given : List Argument} : a.Spelled words →
      Written given rest → Written (a :: given) (words ++ rest)

/-- The words that are arguments of their own. -/
def alone : List String := ["--help", "-h", "--version", "-V", "--trace"]

/-- The words that take an operand. -/
def leading : List String := ["--root", "run", "check"]

/-- Why a word that takes an operand is refused where there is none. -/
def withoutOperand (word : String) : UsageFault :=
  if word = "--root" then .rootWithoutName else .withoutFile word

/-- Why a word that is no argument is refused. -/
def unknown (word : String) : UsageFault :=
  if word.toList.head? = some '-' then .unknownOption word else .unexpected word

/-- After some arguments there is a word that cannot be read. -/
inductive Misread (words : List String) : UsageFault → Prop where
  | unknown {given : List Argument} {before rest : List String} {word : String} :
      Written given before → words = before ++ word :: rest → word ∉ alone → word ∉ leading →
        Misread words (unknown word)
  | withoutOperand {given : List Argument} {before : List String} {word : String} :
      Written given before → words = before ++ [word] → word ∈ leading →
        Misread words (withoutOperand word)

theorem spelled_of_alone {word : String} (is : word ∈ alone) :
    ∃ a : Argument, a.Spelled [word] := by
  simp only [alone, List.mem_cons, List.not_mem_nil, or_false] at is
  rcases is with rfl | rfl | rfl | rfl | rfl
  · exact ⟨_, .help⟩
  · exact ⟨_, .shortHelp⟩
  · exact ⟨_, .version⟩
  · exact ⟨_, .shortVersion⟩
  · exact ⟨_, .trace⟩

theorem spelled_of_leading {word : String} (is : word ∈ leading) (operand : String) :
    ∃ a : Argument, a.Spelled [word, operand] := by
  simp only [leading, List.mem_cons, List.not_mem_nil, or_false] at is
  rcases is with rfl | rfl | rfl
  · exact ⟨_, .root operand⟩
  · exact ⟨_, .run operand⟩
  · exact ⟨_, .check operand⟩

/-- Words are arguments one after the other, unless one of them cannot be read. -/
theorem written_or_misread (words : List String) :
    (∃ given, Written given words) ∨ ∃ fault, Misread words fault := by
  have longer {a : Argument} {front rest : List String} (spelled : a.Spelled front)
      (read : (∃ given, Written given rest) ∨ ∃ fault, Misread rest fault) :
      (∃ given, Written given (front ++ rest)) ∨ ∃ fault, Misread (front ++ rest) fault := by
    rcases read with ⟨given, written⟩ | ⟨fault, misread⟩
    · exact .inl ⟨_, .cons spelled written⟩
    · refine .inr ⟨fault, ?_⟩
      cases misread with
      | unknown written is other other' =>
          exact .unknown (.cons spelled written) (by rw [is, List.append_assoc]) other other'
      | withoutOperand written is leads =>
          exact .withoutOperand (.cons spelled written) (by rw [is, List.append_assoc]) leads
  -- a word with an operand leaves what comes after the operand to be read
  induction words using List.twoStepInduction with
  | nil => exact .inl ⟨_, .nil⟩
  | singleton word =>
      by_cases stands : word ∈ alone
      · obtain ⟨a, spelled⟩ := spelled_of_alone stands
        exact longer spelled (.inl ⟨_, .nil⟩)
      · by_cases leads : word ∈ leading
        · exact .inr ⟨_, .withoutOperand .nil rfl leads⟩
        · exact .inr ⟨_, .unknown .nil rfl stands leads⟩
  | cons_cons word next rest ih ih' =>
      by_cases stands : word ∈ alone
      · obtain ⟨a, spelled⟩ := spelled_of_alone stands
        exact longer spelled (ih' next)
      · by_cases leads : word ∈ leading
        · obtain ⟨a, spelled⟩ := spelled_of_leading leads next
          exact longer spelled ih
        · exact .inr ⟨_, .unknown .nil rfl stands leads⟩

/-! ## What they ask for -/

/-- The command that an argument asks for before all others. -/
def notice? : Argument → Option Command
  | help => some .help
  | version => some .version
  | _ => none

/-- The command that an argument names. -/
def command? : Argument → Option Command
  | run file => some (.run file)
  | check file => some (.check file)
  | _ => none

/-- The root that an argument names. -/
def root? : Argument → Option String
  | root name => some name
  | _ => none

/-- The command that arguments ask for: the last notice, or else the first command. -/
def chosen (given : List Argument) : Option Command :=
  (given.filterMap notice?).getLast?.or (given.filterMap command?).head?

/-- The last root that arguments name. -/
def lastRoot (given : List Argument) : Option String := (given.filterMap root?).getLast?

/-- The settings that arguments leave of those before them. -/
def adjust (s : Settings) (given : List Argument) : Settings where
  root := (lastRoot given).or s.root
  trace := given.contains .trace || s.trace
  log := s.log

variable {given : List Argument} {words rest : List String} {command : Option Command}
  {settings : Settings}

theorem getLast?_or {α : Type} (a : α) (l : List α) (b : Option α) :
    (a :: l).getLast?.or b = l.getLast?.or (some a) := by
  rw [List.getLast?_cons]
  cases l.getLast? <;> rfl

/-- **Reading one argument.** -/
theorem readArguments_spelled {a : Argument} (spelled : a.Spelled words) :
    readArguments command settings (words ++ rest) =
      readArguments (a.notice?.or (command.or a.command?)) (adjust settings [a]) rest := by
  cases spelled with
  | run file => cases command <;> rfl
  | check file => cases command <;> rfl
  | _ => cases command <;> rfl

/-- **Reading arguments.**  What is read of some of them matters to the rest through the command so
far and the settings so far. -/
theorem readArguments_written (written : Written given words) :
    readArguments command settings (words ++ rest) =
      readArguments ((given.filterMap notice?).getLast?.or
        (command.or (given.filterMap command?).head?)) (adjust settings given) rest := by
  induction written generalizing command settings with
  | nil => simp [adjust, lastRoot]
  | @cons a words more given spelled _ ih =>
      have settled : adjust (adjust settings [a]) given = adjust settings (a :: given) := by
        cases a <;> simp [adjust, lastRoot, root?, getLast?_or]
      rw [List.append_assoc, readArguments_spelled spelled, ih, settled]
      congr 1
      cases a <;> cases command <;> simp only [List.filterMap_cons, notice?, command?, getLast?_or,
        Option.none_or, Option.some_or, Option.or_none, List.head?_cons]

theorem readArguments_unknown {word : String} (other : word ∉ alone) (other' : word ∉ leading) :
    readArguments command settings (word :: rest) = .error (unknown word) := by
  simp only [alone, leading, List.mem_cons, List.not_mem_nil, or_false, not_or] at other other'
  rw [unknown, apply_ite Except.error]
  rw [readArguments] <;> simp_all

theorem readArguments_withoutOperand {word : String} (leads : word ∈ leading) :
    readArguments command settings [word] = .error (withoutOperand word) := by
  simp only [leading, List.mem_cons, List.not_mem_nil, or_false] at leads
  rcases leads with rfl | rfl | rfl <;> rfl

/-! ## Misuse -/

/-- The tool is called with a word that cannot be read, or with no command. -/
inductive Misused (words : List String) : UsageFault → Prop where
  | misread {fault : UsageFault} : Misread words fault → Misused words fault
  | noCommand {given : List Argument} : Written given words →
      (∀ a ∈ given, a.notice? = none ∧ a.command? = none) → Misused words .noCommand

theorem chosen_eq_none :
    chosen given = none ↔ ∀ a ∈ given, a.notice? = none ∧ a.command? = none := by
  rw [chosen, Option.or_eq_none_iff, List.getLast?_eq_none_iff, List.head?_eq_none_iff,
    List.filterMap_eq_nil_iff, List.filterMap_eq_nil_iff]
  exact ⟨fun none a there => ⟨none.1 a there, none.2 a there⟩,
    fun none => ⟨fun a there => (none a there).1, fun a there => (none a there).2⟩⟩

theorem readArguments_chosen (written : Written given words) :
    readArguments none settings words = match chosen given with
      | some c => .ok ⟨c, adjust settings given⟩
      | none => .error .noCommand := by
  have read := @readArguments_written given words [] none settings written
  rw [List.append_nil, Option.none_or] at read
  rw [read]
  show readArguments (chosen given) _ [] = _
  cases chosen given <;> rfl

theorem Misused.readArguments_eq {fault : UsageFault} (misused : Misused words fault) :
    readArguments none settings words = .error fault := by
  cases misused with
  | misread misread =>
      cases misread with
      | unknown written is other other' =>
          rw [is, readArguments_written written, readArguments_unknown other other']
      | withoutOperand written is leads =>
          rw [is, readArguments_written written, readArguments_withoutOperand leads]
  | noCommand written nothing =>
      rw [readArguments_chosen written, chosen_eq_none.mpr nothing]

/-- **A call is a misuse, or it asks for a command.** -/
theorem misused_or_chosen (words : List String) :
    (∃ fault, Misused words fault) ∨
      ∃ given command, Written given words ∧ chosen given = some command := by
  rcases written_or_misread words with ⟨given, written⟩ | ⟨fault, misread⟩
  · cases asked : chosen given with
    | none => exact .inl ⟨_, .noCommand written (chosen_eq_none.mp asked)⟩
    | some command => exact .inr ⟨given, command, written, asked⟩
  · exact .inl ⟨fault, .misread misread⟩

end Argument

/-! ## The environment -/

/-- The text is one of the words that switch something on, in letters of either case and with
blanks around it. -/
def Truthy (text : String) : Prop :=
  ∃ core, Text.Surrounds text.toList core ∧
    String.ofList (core.map Char.toLower) ∈ ["1", "true", "yes", "on"]

/-- No blank is a capital letter. -/
theorem toLower_of_isBlank {c : Char} (blank : Text.isBlank c = true) : c.toLower = c := by
  refine dif_neg ?_
  simp only [Text.isBlank, Bool.or_eq_true, Bool.and_eq_true, decide_eq_true_eq, beq_iff_eq]
    at blank
  rintro ⟨low, high⟩
  have low : 65 ≤ c.toNat := low
  have high : c.toNat ≤ 90 := high
  omega

theorem isTruthy_iff {text : String} : Settings.isTruthy text = true ↔ Truthy text := by
  have word : Settings.isTruthy text = true ↔
      String.ofList ((Text.trim text.toList).map Char.toLower) ∈ ["1", "true", "yes", "on"] := by
    simp [Settings.isTruthy, or_assoc]
  rw [word]
  constructor
  · exact fun is => ⟨_, Text.surrounds_trim text.toList, is⟩
  · rintro ⟨core, around, is⟩
    -- the words have no blanks in them, so nothing more is trimmed off
    have solid : ∀ w ∈ ["1", "true", "yes", "on"],
        (w.toList.all fun c => !Text.isBlank c) = true := by
      decide
    have inner {c : Char} (there : c ∈ core) : Text.isBlank c = false := by
      have plain : Text.isBlank c.toLower = false := by
        have all := List.all_eq_true.mp (solid _ is) c.toLower (by simpa using ⟨c, there, rfl⟩)
        simpa using all
      cases blank : Text.isBlank c with
      | false => rfl
      | true => rw [toLower_of_isBlank blank, blank] at plain; exact plain
    rwa [around.trim_eq (fun c first => inner (List.mem_of_mem_head? first))
      fun c last => inner (List.mem_of_mem_getLast? last)]

/-- What the settings are for arguments and an environment. -/
structure Argument.SettingsOf (given : List Argument) (lookup : String → Option String)
    (s : Settings) : Prop where
  root : s.root = (lastRoot given).or ((lookup "PHIC_ROOT").filter (· != ""))
  trace : s.trace = true ↔
    .trace ∈ given ∨ ∃ text, lookup "PHIC_TRACE" = some text ∧ Truthy text
  log : s.log = (lookup "PHIC_LOG").filter (· != "")

/-- **The settings for arguments and an environment.** -/
theorem Argument.settingsOf_adjust (given : List Argument) (lookup : String → Option String) :
    SettingsOf given lookup (adjust (Settings.withEnvironment {} lookup) given) where
  root := by simp [adjust, Settings.withEnvironment, Settings.nonempty?]
  trace := by
    simp only [adjust, Settings.withEnvironment, Bool.or_eq_true, List.contains_iff_mem]
    refine or_congr Iff.rfl ?_
    cases lookup "PHIC_TRACE" with
    | none => simp
    | some text => simp [isTruthy_iff]
  log := by simp [adjust, Settings.withEnvironment, Settings.nonempty?]

/-! ## How the tool is used -/

/-- The words of the text on how the tool is used; blanks, commas and brackets set them apart. -/
def usageWords : List String :=
  usage.flatMap fun line => (line.toList.splitOnP " ,[]".toList.contains).map String.ofList

/-- The text on how the tool is used names what can be said to the tool, and nothing that cannot. -/
structure UsageTells : Prop where
  arguments : ∀ {a : Argument} {word rest}, a.Spelled (word :: rest) → word ∈ usageWords
  /-- What looks like an option is one; a dash alone does not. -/
  options : ∀ word ∈ usageWords, word.toList.head? = some '-' → word ≠ "-" →
    ∃ (a : Argument) (rest : List String), a.Spelled (word :: rest)
  /-- No other variables of the environment are read. -/
  environment : ∀ {lookup lookup' : String → Option String},
    (∀ word ∈ usageWords, lookup word = lookup' word) →
      ∀ args source, commandLine args lookup source = commandLine args lookup' source

/-- The variables of the environment that are read. -/
def environment : List String := ["PHIC_ROOT", "PHIC_TRACE", "PHIC_LOG"]

/-- What has to be looked up in the text, which is taken apart only once. -/
theorem usageWords_spec :
    (∀ word ∈ Argument.alone ++ Argument.leading ++ environment, word ∈ usageWords) ∧
      ∀ word ∈ usageWords, word.toList.head? = some '-' →
        word = "-" ∨ word ∈ Argument.alone ++ Argument.leading := by
  decide +kernel

theorem usageTells : UsageTells where
  arguments spelled := by
    cases spelled <;> exact usageWords_spec.1 _ (by decide)
  options word named dash more := by
    have begins := (usageWords_spec.2 word named dash).resolve_left more
    rcases List.mem_append.mp begins with stands | leads
    · obtain ⟨a, spelled⟩ := Argument.spelled_of_alone stands
      exact ⟨a, _, spelled⟩
    · obtain ⟨a, spelled⟩ := Argument.spelled_of_leading leads ""
      exact ⟨a, _, spelled⟩
  environment {lookup lookup'} agree args source := by
    have same (name : String) (read : name ∈ environment) : lookup name = lookup' name :=
      agree name (usageWords_spec.1 name (List.mem_append_right _ read))
    have settings : Settings.withEnvironment {} lookup = Settings.withEnvironment {} lookup' := by
      rw [Settings.withEnvironment, Settings.withEnvironment, same "PHIC_ROOT" (by decide),
        same "PHIC_TRACE" (by decide), same "PHIC_LOG" (by decide)]
    rw [commandLine, commandLine, settings]

end PhiCalculus
