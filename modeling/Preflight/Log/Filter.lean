import Preflight.Log
import Preflight.Text.Blank
import Preflight.Text.Split

/-!
Which log lines are shown. A filter is written as directives with commas between them: the front of
a topic, a level, or both with an equals sign between them. Of the directives that match the topic
of a line, the one with the longest front decides up to which level lines are shown. What follows a
slash has to occur in the message.
-/

namespace Preflight.Log

/-! ## 1. Thresholds -/

/-- The levels up to which lines are shown. -/
inductive Threshold where
  | off
  | error
  | warn
  | info
  | debug
  | trace
  deriving DecidableEq, Repr

-- the threshold that a word names, in any case of its letters
def Threshold.read? (word : List Char) : Option Threshold :=
  match String.ofList (word.map Char.toLower) with
  | "off" => some .off
  | "error" => some .error
  | "warn" => some .warn
  | "info" => some .info
  | "debug" => some .debug
  | "trace" => some .trace
  | _ => none

def Threshold.admits : Threshold → Level → Bool
  | .off, _ => false
  | .error, _ => false
  | .warn, level => level == .warn
  | .info, level => level == .warn || level == .info
  | .debug, _ => true
  | .trace, _ => true

/-! ## 2. Filters -/

/-- How lines are filtered whose topic has a certain front; without one, all lines are meant. -/
structure Directive where
  front : Option (List Char)
  threshold : Threshold
  deriving DecidableEq, Repr

structure Filter where
  directives : List Directive
  -- what has to occur in every message
  fragment : Option (List Char) := none
  deriving DecidableEq, Repr

def occursIn (part : List Char) : List Char → Bool
  | [] => part.isEmpty
  | c :: cs => part.isPrefixOf (c :: cs) || occursIn part cs

namespace Directive

def matchesTopic (d : Directive) (topic : String) : Bool :=
  d.front.all (·.isPrefixOf topic.toList)

-- the length of the front
def reach (d : Directive) : Nat := (d.front.map fun f => (String.ofList f).utf8ByteSize).getD 0

end Directive

namespace Filter

/-- The directive that decides about a topic: of those with the longest front the last. -/
def deciding (f : Filter) (topic : String) : Option Directive :=
  f.directives.foldl (fun best d =>
    if !d.matchesTopic topic then best
    else
      match best with
      | none => some d
      | some b => if b.reach ≤ d.reach then some d else some b) none

def shows (f : Filter) (e : Entry) : Bool :=
  (f.deciding e.topic).any (·.threshold.admits e.level)
    && f.fragment.all fun part => occursIn part e.message.toList

/-! ## 3. Reading -/

-- what is said about a part of a filter that cannot be read
def badPart (part : List Char) : String := s!"invalid logging spec '{String.ofList part}'"

def readDirective (part : List Char) : Except String Directive :=
  match Text.splitAt '=' part with
  | [word] =>
    match Threshold.read? word with
    | some threshold => .ok ⟨none, threshold⟩
    | none => .ok ⟨some word, .trace⟩
  | [front, word] =>
    let word := Text.trim word
    if word.isEmpty then .ok ⟨some front, .trace⟩
    else
      match Threshold.read? word with
      | some threshold => .ok ⟨some front, threshold⟩
      | none => .error (badPart word)
  | _ => .error (badPart part)

/-- Puts a directive in the place of the one with the same front, or at the end. -/
def insert (d : Directive) : List Directive → List Directive
  | [] => [d]
  | e :: es => if e.front = d.front then d :: es else e :: insert d es

/-- Reads directives in order, and collects what is said about those that cannot be read. -/
def readDirectives (parts : List (List Char)) : List Directive × List String :=
  parts.foldl (fun (ds, warnings) part =>
    match readDirective part with
    | .ok d => (insert d ds, warnings)
    | .error warning => (ds, warnings ++ [warning])) ([], [])

-- without directives only errors are shown
def ofDirectives (ds : List Directive) (fragment : Option (List Char)) : Filter where
  directives := if ds.isEmpty then [⟨none, .error⟩] else ds
  fragment

/-- Reads a filter, and collects what is said about the parts that cannot be read. -/
def ofText (cs : List Char) : Filter × List String :=
  match Text.splitAt '/' cs with
  | front :: rest =>
    if 1 < rest.length then (ofDirectives [] none, [badPart cs ++ " (too many '/'s)"])
    else
      let parts := ((Text.splitAt ',' front).map Text.trim).filter fun part => !part.isEmpty
      let (ds, warnings) := readDirectives parts
      (ofDirectives ds rest.head?, warnings)
  | [] => (ofDirectives [] none, [])

/-- The filter where none is asked for: the lines of the program from the level INFO on. -/
def standard : Filter where
  directives := [⟨some Log.mainTopic.toList, .info⟩]

end Filter

end Preflight.Log
