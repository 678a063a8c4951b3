/-!
# Text — styles

Colours and weights of a text on a terminal. A colour ends with the
default colour, a weight with all attributes off, so a bold red text has
the red inside the bold.
-/

namespace Storefront.Text

/-- The colours in use. -/
inductive Color where
  | red
  | green
  | yellow
  | blue
  | cyan
  deriving DecidableEq, Repr

/-- The number of a colour. -/
def Color.code : Color → String
  | red => "31"
  | green => "32"
  | yellow => "33"
  | blue => "34"
  | cyan => "36"

/-- A text in a colour. -/
def colored (c : Color) (s : String) : String :=
  "\x1b[" ++ c.code ++ "m" ++ s ++ "\x1b[39m"

/-- A text in bold. -/
def bold (s : String) : String := "\x1b[1m" ++ s ++ "\x1b[0m"

/-- A text in a faint weight. -/
def dimmed (s : String) : String := "\x1b[2m" ++ s ++ "\x1b[0m"

end Storefront.Text
