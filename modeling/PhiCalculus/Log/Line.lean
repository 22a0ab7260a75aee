/-!
# Lines of a log

A line of a log has a level and a message, and comes from some target within the program.  What
could steer a terminal is spelled out in a message, so that showing a log changes nothing but what
is seen.
-/

set_option autoImplicit false

namespace PhiCalculus

/-! ## Levels -/

/-- How much of the log is shown, from nothing to everything. -/
inductive LogLevel where
  | off
  | error
  | warn
  | info
  | debug
  | trace
  deriving Repr, DecidableEq

namespace LogLevel

def rank : LogLevel → Nat
  | off => 0
  | error => 1
  | warn => 2
  | info => 3
  | debug => 4
  | trace => 5

/-- The level with that rank. -/
def ofRank? : Nat → Option LogLevel
  | 0 => some off
  | 1 => some error
  | 2 => some warn
  | 3 => some info
  | 4 => some debug
  | 5 => some trace
  | _ => none

/-- The level with that name, in letters of either case. -/
def ofName? (name : String) : Option LogLevel :=
  match String.ofList (name.toList.map Char.toLower) with
  | "off" => some off
  | "error" => some error
  | "warn" => some warn
  | "info" => some info
  | "debug" => some debug
  | "trace" => some trace
  | _ => none

end LogLevel

/-! ## Where lines come from -/

/-- A place in the program that writes lines.  A place that only asks whether lines are wanted does
not know what they will tell. -/
structure LogSource where
  target : String
  level : LogLevel
  /-- What the lines tell, by name. -/
  fields : Option (List String)
  deriving Repr, DecidableEq

/-! ## Messages -/

/-- A character as it stands in a message. -/
def messageChar (c : Char) : List Char :=
  match c with
  | '\x1b' => "\\x1b".toList
  | '\x07' => "\\x07".toList
  | '\x08' => "\\x08".toList
  | '\x0c' => "\\x0c".toList
  | '\x7f' => "\\x7f".toList
  | _ =>
    if 0x80 ≤ c.toNat && c.toNat ≤ 0x9F then
      "\\u\x7b".toList ++ Nat.toDigits 16 c.toNat ++ ['\x7d']
    else [c]

/-- A message with what could steer a terminal spelled out. -/
def messageText (message : String) : String :=
  String.ofList (message.toList.flatMap messageChar)

end PhiCalculus
