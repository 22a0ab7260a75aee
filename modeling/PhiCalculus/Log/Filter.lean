import PhiCalculus.Log.Directive
import PhiCalculus.Settings

/-!
# Log filters

A filter is a list of directives with commas between them.  Only directives that ask for no span
and for no value decide about lines outside of all spans.  Of those that apply to a line, the most
particular one decides: the one with the longest target, and among these one that asks for a field.
-/

set_option autoImplicit false

namespace PhiCalculus

namespace LogDirective

/-- Whether the directive can decide about lines outside of all spans. -/
def isStatic (d : LogDirective) : Bool :=
  d.span.isNone && (d.field.bind LogField.value).isNone

/-- The name of the field that is asked for, if there is one. -/
def fieldName (d : LogDirective) : Option String := d.field.map LogField.name

/-- Whether the directive is about a source.  Of a source that does not know its fields, none is
missed. -/
def applies (d : LogDirective) (source : LogSource) : Bool :=
  d.target.toList.isPrefixOf source.target.toList &&
    match source.fields, d.fieldName with
    | some fields, some name => fields.contains name
    | _, _ => true

/-- Whether a directive goes before another one that applies to the same source.  Of two that ask
for a field each, the one whose field has the greater name goes first. -/
def outranks (a b : LogDirective) : Bool :=
  if a.target.utf8ByteSize == b.target.utf8ByteSize then
    match a.fieldName, b.fieldName with
    | some m, some n => n < m
    | some _, none => true
    | none, _ => false
  else b.target.utf8ByteSize < a.target.utf8ByteSize

end LogDirective

/-- What is shown of the log. -/
abbrev LogFilter := List LogDirective

namespace LogFilter

/-- Reads a filter; every directive must be readable.  A filter without directives shows errors. -/
def ofText? (text : String) : Option LogFilter :=
  match ((text.splitOn ",").filter (· != "")).mapM LogDirective.ofText? with
  | some [] => some [{ level := .error }]
  | filter? => filter?

/-- The filter of the settings, or the default one if it cannot be read. -/
def ofSettings (s : Settings) : LogFilter :=
  (ofText? s.logFilter).getD [{ level := .warn }]

/-- The directive that goes first, or the later one of two equals. -/
def stronger (a b : LogDirective) : LogDirective :=
  if a.outranks b then a else b

/-- Whether the lines of a source are shown. -/
def shows (f : LogFilter) (source : LogSource) : Bool :=
  match f.filter fun d => d.isStatic && d.applies source with
  | [] => false
  | d :: rest => source.level.rank ≤ (rest.foldl stronger d).level.rank

end LogFilter

end PhiCalculus
