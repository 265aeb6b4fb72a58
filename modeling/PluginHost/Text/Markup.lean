/-
# Text inside markup

Lines of the plugin log are rich text.  The four characters that markup is made of are
written as entities, so that no text can bring in markup of its own.
-/

namespace PluginHost.Markup

/-- A character inside markup. -/
def escapeChar (c : Char) : List Char :=
  if c = '&' then ['&', 'a', 'm', 'p', ';']
  else if c = '<' then ['&', 'l', 't', ';']
  else if c = '>' then ['&', 'g', 't', ';']
  else if c = '"' then ['&', 'q', 'u', 'o', 't', ';']
  else [c]

/-- Characters inside markup. -/
def escapeChars (cs : List Char) : List Char := cs.flatMap escapeChar

/-- A text inside markup. -/
def escape (s : String) : String := String.ofList (escapeChars s.toList)

/-- The line that a message of the plugin called `name` makes in the log: the name in bold,
then the message. -/
def logLine (name message : String) : String :=
  "<b>" ++ escape name ++ ":</b> " ++ escape message

end PluginHost.Markup
