/-!
# Filters

A filter selects names.  It lets everything pass, or what matches a pattern, or nothing.  What
patterns there are and what they match is up to the reader of patterns.
-/

namespace WorkflowGraph

/-- A way to read patterns: which texts a pattern matches, and none for what is no pattern. -/
abbrev PatternReader := String → Option (String → Bool)

/-- Which names pass. -/
inductive Filter where
  | any
  | pattern (isMatch : String → Bool)
  | nothing

namespace Filter

/-- Whether a name passes. -/
def accepts : Filter → String → Bool
  | any, _ => true
  | pattern isMatch, name => isMatch name
  | nothing, _ => false

/-- The filter of the text of a pattern.  Without a text everything passes; a text that is no
pattern lets nothing pass. -/
def ofText (read : PatternReader) : Option String → Filter
  | none => any
  | some text =>
    if text.isEmpty then any
    else
      match read text with
      | some isMatch => pattern isMatch
      | none => nothing

end Filter

end WorkflowGraph
