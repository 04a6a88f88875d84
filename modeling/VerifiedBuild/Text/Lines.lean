/-!
# Message lines

A captured text is cut into the messages it holds: one per line, line ends `\n` or `\r\n`, blank
lines dropped.
-/

namespace VerifiedBuild.Text

def stripReturn (line : List Char) : List Char :=
  if line.getLast? = some '\r' then line.dropLast else line

def messageLines (text : String) : List String :=
  (((text.toList.splitOn '\n').map stripReturn).filter (· ≠ [])).map String.ofList

end VerifiedBuild.Text
