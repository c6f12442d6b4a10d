import ResourceHealth.Error
import ResourceHealth.Host
import ResourceHealth.Text.Blank

/-!
# Text of sources

The kernel's figures are files of text.  A source that is not there is told apart from
one that cannot be read, and the blanks at the ends of its text do not count.

Main definitions:

- `Host.sourceText`: the text of a source.
-/

namespace ResourceHealth

/-- The text of a source without the blanks at its ends. -/
def Host.sourceText (host : Host) (path : Path) : Except MonitorError (List Char) :=
  if host.present path then
    match host.text path with
    | .ok text => .ok (trim text)
    | .error refusal => .error (.unreadable path refusal)
  else .error (.unavailable path)

end ResourceHealth
