/-!
# Verse — layout

Every document is a list of paragraphs, and a paragraph is a list of
lines. Paragraphs are separated by one empty line, every line ends in a
newline, and nothing follows the last line. Documents are put together
as paragraphs; they become text here and nowhere else.
-/

namespace Storefront.Verse

/-- Consecutive lines without an empty line between them. -/
abbrev Paragraph := List String

/-- The lines of a document: its paragraphs with an empty line between
each two. -/
def layout (paragraphs : List Paragraph) : List String :=
  [""].intercalate paragraphs

/-- Lines as a text in which every line ends in a newline. -/
def unlines (lines : List String) : String :=
  String.join (lines.map fun l => l ++ "\n")

/-- The text of a document. -/
def documentText (paragraphs : List Paragraph) : String :=
  unlines (layout paragraphs)

/-- A line with a number of levels of indentation, four blanks each. -/
def indent (levels : Nat) (line : String) : String :=
  String.ofList (List.replicate (4 * levels) ' ') ++ line

end Storefront.Verse
