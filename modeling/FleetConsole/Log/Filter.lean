import FleetConsole.Settings.Literal
import FleetConsole.Text.Alphanumeric
import FleetConsole.Text.Lines

/-!
# Log filters

A filter says which records are logged.  It is a list of directives between commas: a level, which
is for every target; a target, which then logs everything; or a target with a level.  A target
stands for all targets that begin with it.  Of the directives for a record the one with the longest
target decides, and of several of those the last; a record without a directive is not logged.

`Filter.level_none` says that a filter without directives logs errors alone.
-/

namespace FleetConsole.Log

/-- How much is logged. -/
inductive Level
  | off
  | error
  | warn
  | info
  | debug
  | trace
deriving DecidableEq

namespace Level

def all : List Level := [off, error, warn, info, debug, trace]

def name : Level → String
  | off => "off"
  | error => "error"
  | warn => "warn"
  | info => "info"
  | debug => "debug"
  | trace => "trace"

/-- The place of a level among all of them, the most silent first. -/
def rank : Level → Nat
  | off => 0
  | error => 1
  | warn => 2
  | info => 3
  | debug => 4
  | trace => 5

/-- A level by its rank or its name, in any case. -/
def read? (text : List Char) : Option Level :=
  match Literal.natural? UInt64.size text with
  | some rank => all[rank]?
  | none => all.find? fun level => level.name.toList = text.map Char.toLower

/-- Whether records of one level are logged at another. -/
def shows (shown record : Level) : Bool := record.rank ≤ shown.rank

end Level

structure Directive where
  target : List Char
  level : Level
deriving DecidableEq

namespace Directive

/-- Whether a target can begin with a character. -/
def isTargetStart (c : Char) : Bool := Text.isAlphanumeric c || c = '-' || c = ':' || c = '_'

/-- A directive that is not empty.  A target without a level logs everything. -/
def read? (text : List Char) : Option Directive :=
  if !text.head?.any isTargetStart then none
  else
    let target := text.takeWhile (· ≠ '=')
    match text.drop target.length with
    | [_] => some ⟨target, .trace⟩
    | _ :: level => (Level.read? level).map fun level => ⟨target, level⟩
    | [] =>
        match Level.read? text with
        | some level => some ⟨[], level⟩
        | none => some ⟨text, .trace⟩

end Directive

abbrev Filter := List Directive

namespace Filter

/-- The directives of a text, each of them if it can be read. -/
def pieces (text : String) : List (Option Directive) :=
  ((Text.split ',' text.toList).filter (! ·.isEmpty)).map Directive.read?

/-- The filter of a text of which everything can be read. -/
def read? (text : String) : Option Filter := (pieces text).mapM id

/-- The filter of what can be read of a text. -/
def ofText (text : String) : Filter := (pieces text).filterMap id

/-- The better of two directives for a record: the one with the longer target, else the later. -/
def better (best : Option Directive) (next : Directive) : Option Directive :=
  match best with
  | some best => if next.target.length < best.target.length then some best else some next
  | none => some next

/-- The level that is logged for a target. -/
def level (target : String) (filter : Filter) : Level :=
  if filter.isEmpty then .error
  else
    let fitting := filter.filter fun directive => directive.target.isPrefixOf target.toList
    ((fitting.foldl better none).map (·.level)).getD .off

/-- Whether a record is logged. -/
def logs (filter : Filter) (target : String) (record : Level) : Bool :=
  (filter.level target).shows record

theorem level_none (target : String) : level target [] = .error := rfl

end Filter

end FleetConsole.Log
