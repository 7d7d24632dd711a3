/-!
# Patterns

A pattern is a regular expression without captures: all that is asked of it is whether it occurs
in a text.  A set of characters and a condition on a place are predicates, so that a pattern
says what it means whatever way it was written.

`Pattern.ends` follows a pattern from a set of places of a text to the places where it can end,
and `Pattern.isMatch` asks whether it can end anywhere when it may start anywhere.
-/

namespace WorkflowGraph

/-- A regular expression. -/
inductive Pattern where
  | empty
  /-- One character; `weight` tells how much room the set takes when it is written out. -/
  | character (accepts : Char → Bool) (weight : Nat)
  /-- A place between the character before it and the one after it. -/
  | place (holds : Option Char → Option Char → Bool)
  | sequence (first second : Pattern)
  | either (first second : Pattern)
  | repeated (inner : Pattern) (least : Nat) (most : Option Nat)

namespace Pattern

/-- Takes a step exactly so many times; a step that changes nothing ends it. -/
def exactly (step : List Nat → List Nat) : Nat → List Nat → List Nat
  | 0, places => places
  | count + 1, places =>
    let next := step places
    if next = places then places else exactly step count next

/-- The places that are reached in at most so many steps: those seen, and those that steps from
the newest ones reach. -/
def atMost (step : List Nat → List Nat) : Nat → List Nat → List Nat → List Nat
  | 0, seen, _ => seen
  | count + 1, seen, newest =>
    let fresh := (step newest).filter fun place => !seen.contains place
    if fresh.isEmpty then seen else atMost step count (seen ++ fresh) fresh

/-- The character before a place. -/
def before (text : Array Char) (place : Nat) : Option Char :=
  if place = 0 then none else text[place - 1]?

/-- The places where a pattern can end that starts at one of the given places. -/
def ends (text : Array Char) : Pattern → List Nat → List Nat
  | empty, places => places
  | character accepts _, places =>
    (places.filter fun place =>
      match text[place]? with
      | some c => accepts c
      | none => false).map (· + 1)
  | .place holds, places => places.filter fun place => holds (before text place) text[place]?
  | sequence first second, places => ends text second (ends text first places)
  | either first second, places => (ends text first places ++ ends text second places).eraseDups
  | repeated inner least most, places =>
    let start := exactly (ends text inner) least places
    let more := match most with
      | none => text.size + 1
      | some most => most - least
    atMost (ends text inner) more start start

/-- Whether the pattern occurs in a text. -/
def isMatch (pattern : Pattern) (text : String) : Bool :=
  let chars := text.toList.toArray
  !(pattern.ends chars (List.range (chars.size + 1))).isEmpty

/-- How much room a pattern takes when its repetitions are written out. -/
def weight : Pattern → Nat
  | empty => 1
  | character _ weight => weight
  | place _ => 1
  | sequence first second => first.weight + second.weight
  | either first second => first.weight + second.weight + 1
  | repeated inner least most => inner.weight * max 1 (max least (most.getD 0)) + 2

end Pattern

end WorkflowGraph
