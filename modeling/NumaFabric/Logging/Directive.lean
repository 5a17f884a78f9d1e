import NumaFabric.Logging.Pattern
import NumaFabric.Text.Slice
/-!
Log directives: how much is logged of the events of a target. A directive names a target, perhaps a
span and fields in brackets, and a level; a lone level holds for all targets, and a lone target is
logged in full. A directive is read without the blanks around it, but its words are cut out of the
whole text at the places that they have without the blanks.
-/

namespace NumaFabric.Logging

open NumaFabric.Text

inductive Verbosity where
  | off
  | error
  | warn
  | info
  | debug
  | trace
deriving DecidableEq

namespace Verbosity

def rank : Verbosity → Nat
  | off => 0
  | error => 1
  | warn => 2
  | info => 3
  | debug => 4
  | trace => 5

def levels : List Verbosity := [error, warn, info, debug, trace]

def text : Verbosity → String
  | off => "OFF"
  | error => "ERROR"
  | warn => "WARN"
  | info => "INFO"
  | debug => "DEBUG"
  | trace => "TRACE"

/-- An event of a level is logged. -/
def Allows (v level : Verbosity) : Prop := level.rank ≤ v.rank

instance (v level : Verbosity) : Decidable (v.Allows level) := inferInstanceAs (Decidable (_ ≤ _))

def ofRank? (n : Nat) : Option Verbosity := (off :: levels).find? fun v => v.rank == n

def parse? (s : List Char) : Option Verbosity :=
  match unsigned? UInt64.size s with
  | some n => ofRank? n
  | none =>
    (off :: levels).find? fun v => v.text.toList == s.map Char.toUpper

end Verbosity

structure FieldMatch where
  name : String
  hasValue : Bool
deriving DecidableEq

structure Directive where
  /-- Targets that begin so; all targets if there is none. -/
  target : Option String
  /-- Only within a span of some name. -/
  inSpan : Bool
  fields : List FieldMatch
  level : Verbosity
deriving DecidableEq

namespace Directive

/-- Whether events can be judged without knowing spans and values. -/
def isStatic (d : Directive) : Bool := !d.inSpan && d.fields.all fun f => !f.hasValue

def everything : Directive := ⟨none, false, [], .trace⟩

inductive Fault where
  | malformed
  /-- The text is cut inside a character, and nothing more is read at all. -/
  | split (cut : SplitCharacter)
deriving DecidableEq

/-- Where the reading of a directive stands. The places are those where words begin. -/
inductive Stage where
  | start
  | levelOrTarget (first : Nat)
  | span (first : Nat)
  | field (first : Nat)
  | afterFields
  | afterBrackets
  | level (first : Nat)
  | complete
deriving DecidableEq

structure Draft where
  stage : Stage
  directive : Directive

def words (text : List Char) (first last : Nat) : Except Fault (List Char) :=
  (slice text first last).mapError Fault.split

def withLevelOrTarget (d : Directive) (s : List Char) : Directive :=
  match Verbosity.parse? s with
  | some level => { d with level, target := none }
  | none => { d with level := .trace, target := some (String.ofList s) }

/-- The level after an equals sign; everything if there is none. -/
def levelOf (s : List Char) : Except Fault Verbosity :=
  if s.isEmpty then .ok .trace
  else
    match Verbosity.parse? s with
    | some level => .ok level
    | none => .error .malformed

/-- A name, or a name and a value that is a number or a pattern; a second equals sign ends the
value. -/
def fieldMatch (s : List Char) : Except Fault FieldMatch :=
  match splitAll '=' s with
  | name :: value :: _ =>
    if isReal value || Pattern.isPattern value then .ok ⟨String.ofList name, true⟩
    else .error .malformed
  | _ => if s.isEmpty then .error .malformed else .ok ⟨String.ofList s, false⟩

def isStart (c : Char) : Bool := isLetterOrNumber c || c == '-' || c == ':' || c == '_'

def step (text : List Char) (r : Draft) (place : Nat) (c : Char) : Except Fault Draft := do
  let d := r.directive
  match r.stage with
  | .start =>
    if c == '[' then return ⟨.span (place + 1), d⟩
    else if isStart c then return ⟨.levelOrTarget place, d⟩
    else throw .malformed
  | .levelOrTarget first =>
    if c == '=' || c == '[' then
      let target := some (String.ofList (← words text first place))
      return ⟨if c == '=' then .level (place + 1) else .span (place + 1), { d with target }⟩
    else if c == ',' then
      return ⟨.complete, d.withLevelOrTarget (← words text first (byteSize text))⟩
    else return r
  | .span first =>
    if c == ']' || c == '\x7b' then
      let name ← words text first place
      if c == ']' then return ⟨.afterBrackets, { d with inSpan := true }⟩
      else return ⟨.field (place + 1), { d with inSpan := !name.isEmpty }⟩
    else return r
  | .field first =>
    if c == '\x7d' || c == ',' then
      let field ← fieldMatch (← words text first place)
      return ⟨if c == ',' then .field (place + 1) else .afterFields,
        { d with fields := d.fields ++ [field] }⟩
    else return r
  | .afterFields => if c == ']' then return ⟨.afterBrackets, d⟩ else throw .malformed
  | .afterBrackets => if c == '=' then return ⟨.level (place + 1), d⟩ else throw .malformed
  | .level first =>
    if c == ',' then return ⟨.complete, { d with level := ← levelOf (← words text first place) }⟩
    else return r
  | .complete => throw .malformed

def run (text : List Char) (r : Draft) (place : Nat) : List Char → Except Fault Draft
  | [] => .ok r
  | c :: rest => do run text (← step text r place c) (place + c.utf8Size) rest

def finish (text : List Char) (r : Draft) : Except Fault Directive := do
  match r.stage with
  | .levelOrTarget first =>
    return r.directive.withLevelOrTarget (← words text first (byteSize text))
  | .level first =>
    return { r.directive with level := ← levelOf (← words text first (byteSize text)) }
  | .afterBrackets | .complete => return r.directive
  | _ => throw .malformed

def parse (text : List Char) : Except Fault Directive := do
  finish text (← run text ⟨.start, everything⟩ 0 (trim text))

/-- The same where a text without a directive is passed over. -/
def parse? (text : List Char) : Except SplitCharacter (Option Directive) :=
  match parse text with
  | .ok d => .ok (some d)
  | .error .malformed => .ok none
  | .error (.split cut) => .error cut

end Directive

end NumaFabric.Logging
