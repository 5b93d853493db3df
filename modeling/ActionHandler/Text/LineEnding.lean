/-! # Line endings

A line may end with a line feed, a carriage return, or a carriage return and a
line feed together. Reading a text file turns each of the three into one line
feed and leaves every other character alone.
-/

namespace ActionHandler.Text

/-- Turns each line ending into a line feed. `afterReturn` says that a carriage
return has just been read, so that a line feed belongs to it. -/
def unifyLineEndingsFrom (afterReturn : Bool) : List Char → List Char
  | [] => []
  | char :: rest =>
      if char = '\r' then '\n' :: unifyLineEndingsFrom true rest
      else if char = '\n' ∧ afterReturn then unifyLineEndingsFrom false rest
      else char :: unifyLineEndingsFrom false rest

/-- Turns each line ending of a text into a line feed. -/
def unifyLineEndings (text : List Char) : List Char :=
  unifyLineEndingsFrom false text

/-- Lines put together, each with a line feed at its end. -/
def unlines (lines : List String) : String :=
  String.join (lines.map (· ++ "\n"))

end ActionHandler.Text
