/-!
# CSV — written records

A record is a line of fields with commas between them. A field that
holds a comma, a quotation mark or the end of a line stands between
quotation marks, and a quotation mark inside it is written twice.
-/

namespace Storefront.Csv

/-- A character that a plain field cannot hold. -/
def isSpecial (c : Char) : Bool :=
  c == ',' || c == '"' || c == '\r' || c == '\n'

/-- The characters of a quoted field. -/
def doubled : List Char → List Char
  | [] => []
  | c :: cs => if c == '"' then '"' :: '"' :: doubled cs else c :: doubled cs

/-- A field in its written form. -/
def field (s : String) : List Char :=
  let cs := s.toList
  if cs.any isSpecial then '"' :: doubled cs ++ ['"'] else cs

/-- A record in its written form. -/
def record (fields : List String) : List Char :=
  [','].intercalate (fields.map field) ++ ['\n']

/-- Records in their written form. -/
def text (records : List (List String)) : String :=
  String.ofList (records.flatMap record)

end Storefront.Csv
