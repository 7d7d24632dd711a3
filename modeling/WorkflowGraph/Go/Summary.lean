import WorkflowGraph.Go.Node
import WorkflowGraph.Text.Blank
import WorkflowGraph.Text.Split

/-!
# Summaries of declarations

The comments directly above a declaration, each ending on the line before the next thing
starts, are its description; the summary is the first sentence of it.
-/

namespace WorkflowGraph.Go

/-- The text of a comment without its marks and blanks around. -/
def commentText (text : String) : String :=
  let opened := Text.dropPrefixes ['/', '*'] (Text.dropPrefixes ['/', '/'] text.toList)
  String.ofList (Text.trim (Text.dropSuffixes ['*', '/'] opened))

/-- The comments that stand one above the other and end right above `row`, the lowest first;
`above` lists what stands before, the nearest first. -/
def commentsAbove (row : Nat) : List Node → List String
  | [] => []
  | node :: above =>
    if node.kind = .comment && node.label.lastRow + 1 == row then
      commentText node.text :: commentsAbove node.label.firstRow above
    else []

/-- The first sentence: up to the first point that a space follows. -/
def firstSentence : List Char → List Char
  | '.' :: ' ' :: _ => ['.']
  | c :: rest => c :: firstSentence rest
  | [] => []

/-- The summary of a declaration among the children of `root`. -/
def summary? (root declaration : Node) : Option String :=
  let above := (root.children.takeWhile fun node => node.id != declaration.id).reverse
  let lines := (commentsAbove declaration.label.firstRow above).reverse
  let description := Text.joinWith " " (lines.filter fun line => line != "")
  let sentence := firstSentence description.toList
  if sentence.isEmpty then none else some (String.ofList sentence)

end WorkflowGraph.Go
