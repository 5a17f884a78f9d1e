import NumaFabric.Logging.Directive
import NumaFabric.Settings.Reader
import NumaFabric.Settings.Switch
import NumaFabric.Settings.Toml.Document
/-!
Log filters. A filter holds one directive for each target with its fields; of those that an event
fits, the one with the longest target and then the most fields decides whether it is logged.
Directives come from a variable, or a level holds for all targets if it gives none, and then from the
settings, where a later one for the same target and fields replaces the earlier.
-/

namespace NumaFabric.Logging

open NumaFabric.Settings NumaFabric.Text

/-- A directive that looks at targets and names of fields only. -/
structure Rule where
  target : Option String
  fields : List String
  level : Verbosity
deriving DecidableEq

namespace Rule

def ofDirective? (d : Directive) : Option Rule :=
  if d.isStatic then some ⟨d.target, d.fields.map (·.name), d.level⟩ else none

def sameKey (a b : Rule) : Bool := a.target == b.target && a.fields == b.fields

def applies (r : Rule) (target : String) (fields : List String) : Bool :=
  (r.target.all fun t => t.toList.isPrefixOf target.toList) &&
    r.fields.all fun f => fields.contains f

/-- The order of rules, from what says least about the events it is for: by the length of the target,
then by the number of fields, and of rules that say as much by the names. -/
def rank : Rule → Rule → Ordering :=
  compareLex (compareOn fun r => r.target.map (·.utf8ByteSize)) <|
    compareLex (compareOn (·.fields.length)) <| compareLex (compareOn (·.target)) (compareOn (·.fields))

def prefer : Option Rule → Rule → Option Rule
  | none, r => some r
  | some best, r => if best.rank r = .lt then some r else some best

end Rule

structure Filter where
  rules : List Rule
  /-- Some directive looks at spans or at values. -/
  hasDynamic : Bool

namespace Filter

def empty : Filter := ⟨[], false⟩

/-- Puts a rule in the place of the one about the same events, or after all others. -/
def putRule (rule : Rule) : List Rule → List Rule
  | [] => [rule]
  | r :: rest => if r.sameKey rule then rule :: rest else r :: putRule rule rest

def add (f : Filter) (d : Directive) : Filter :=
  match Rule.ofDirective? d with
  | some rule => { f with rules := putRule rule f.rules }
  | none => { f with hasDynamic := true }

/-- A directive with fields looks at spans too, even where it looks at no values. -/
def looksAtSpans (d : Directive) : Bool := d.inSpan || !d.fields.isEmpty

def pieces (text : String) : List (List Char) :=
  (splitAll ',' text.toList).filter fun piece => !piece.isEmpty

/-- The filter of some directives; `fallback` holds for everything if there is none. -/
def ofDirectives (fallback : Directive) (ds : List Directive) : Filter :=
  let f := ds.foldl add empty
  let f := { f with hasDynamic := ds.any looksAtSpans }
  if f.rules.isEmpty && !f.hasDynamic then f.add fallback else f

def ruleFor? (f : Filter) (target : String) (fields : List String) : Option Rule :=
  (f.rules.filter fun r => r.applies target fields).foldl Rule.prefer none

/-- Whether an event outside of spans is logged. -/
def enabled (f : Filter) (target : String) (level : Verbosity) (fields : List String) : Bool :=
  match f.ruleFor? target fields with
  | some r => decide (r.level.Allows level)
  | none => false

end Filter

structure FilterSetup where
  filter : Filter
  /-- What is no directive in the variable. -/
  rejected : List (List Char)
  /-- What is no directive in the settings. -/
  badFilters : List (String × String)

namespace FilterSetup

/-- The lines that tell what is no directive, without the first line about each setting: each text
is told as it stands, on as many lines as it has. -/
def noticeLines (s : FilterSetup) : Nat :=
  s.rejected.length + s.rejected.flatten.count '\n' +
    (s.badFilters.flatMap fun e => e.1.toList ++ e.2.toList).count '\n'

end FilterSetup

structure LogConfig where
  level : String
  filters : List (String × String)

namespace LogConfig

def built : Fields :=
  [("log_level", .text "info"),
    ("log_filters", .table [("tokio_util", .text "error"), ("mio", .text "error")])]

def readFilters : Read (List (String × String))
  | .table fields => fields.mapM fun f => do return (f.1, ← under f.1 string f.2)
  | _ => .error []

def read (fields : Fields) : Except KeyPath LogConfig := do
  let filters ← fields.required "log_filters" readFilters
  let level ← fields.required "log_level" string
  return ⟨level, filters⟩

def load (file : Option String) : Except KeyPath LogConfig :=
  match file.map Toml.parse? with
  | none => read built
  | some (some fields) => read (Fields.over built fields)
  | some none => .error []

def fallback (c : LogConfig) : Except SplitCharacter Directive :=
  (Directive.parse? c.level.toList).map fun d =>
    d.getD { Directive.everything with level := .info }

def entryText (entry : String × String) : List Char := entry.1.toList ++ '=' :: entry.2.toList

/-- The filter of a process with this text in its variable. Texts that are no directives are passed
over and told. -/
def filter (c : LogConfig) (text : String) : Except SplitCharacter FilterSetup := do
  let fallback ← c.fallback
  let pieces := Filter.pieces text
  let fromVariable ← pieces.mapM Directive.parse?
  let fromSettings ← c.filters.mapM fun e => Directive.parse? (entryText e)
  let rejected {α : Type} (l : List α) (ds : List (Option Directive)) : List α :=
    (l.zip ds).filterMap fun p => if p.2.isNone then some p.1 else none
  return ⟨(fromSettings.filterMap id).foldl Filter.add
      (Filter.ofDirectives fallback (fromVariable.filterMap id)),
    rejected pieces fromVariable, rejected c.filters fromSettings⟩

end LogConfig

def fileVariable : String := "AIT_LOGGING_CONFIG_PATH"

def filterVariable : String := "AIT_LOG"

def jsonLinesVariable : String := "AIT_LOGGING_JSONL"

def plainVariable : String := "AIT_LOG_DISABLE_ANSI"

inductive LineFormat where
  | jsonLines
  | compact (colours : Bool)
deriving DecidableEq

def lineFormat (vars : Variables) : LineFormat :=
  if vars.isOn jsonLinesVariable then .jsonLines else .compact !vars.isOn plainVariable

end NumaFabric.Logging
