import Storefront.CommandLine.Interface
import Storefront.Settings.Basic
import Storefront.Text.Style
/-!
# Commands — presentation

How a command shows what it has to say. A status line is kept back if
the user wants quiet, and coloured if a person reads it. Documents and
reports are shown as they are, whatever the presentation.
-/

namespace Storefront

/-- How output is shown. -/
structure Presentation where
  format : OutputFormat
  quiet : Bool
  colored : Bool
  deriving DecidableEq, Repr

namespace Presentation

/-- A letter without its case. The long s and the sign for kelvin are
letters too. -/
def foldCase (c : Char) : Char :=
  if c == '\u017f' then 's' else if c == '\u212a' then 'k' else c.toLower

/-- The format that a setting names, in either case of letter. -/
def namedFormat (s : String) : OutputFormat :=
  (OutputFormat.ofName? (s.map foldCase)).getD .auto

/-- The format to use: that of the command line, else that of the
settings, and plain text if neither decides, because output that is not
shown on a terminal is plain. -/
def chosenFormat (options : GlobalOptions) (settings : Settings) : OutputFormat :=
  let requested :=
    if options.format == .auto then namedFormat settings.format else options.format
  if requested == .auto then .plain else requested

/-- The presentation that a user wants. -/
def choose (options : GlobalOptions) (settings : Settings) : Presentation :=
  let format := chosenFormat options settings
  { format
    quiet := options.quiet
    colored := format == .human && !options.noColor && !settings.noColor }

/-- Whether reports are JSON. -/
def isJson (p : Presentation) : Bool := p.format == .json

/-- A status line in two forms, plainly and in colours. -/
def statusLine (p : Presentation) (plain colored : String) : String :=
  if p.quiet then "" else (if p.colored then colored else plain) ++ "\n"

/-- A line about something. -/
def remark (p : Presentation) (text : String) : String :=
  p.statusLine text text

/-- A line over other lines. -/
def heading (p : Presentation) (text : String) : String :=
  p.statusLine text (Text.bold (Text.colored .cyan text))

/-- A line behind a sign. -/
def signed (p : Presentation) (color : Text.Color) (sign text : String) : String :=
  p.statusLine (sign ++ " " ++ text)
    (Text.bold (Text.colored color sign) ++ " " ++ Text.colored color text)

/-- A line that reports success. -/
def success (p : Presentation) (text : String) : String := p.signed .green "✓" text

/-- A line that warns. -/
def warning (p : Presentation) (text : String) : String := p.signed .yellow "⚠" text

end Presentation

end Storefront
