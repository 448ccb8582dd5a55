import TextScan.Arithmetic

/-!
# Command line

Prints the tokens of the arithmetic expression given by the words of the command line.
-/

/-- Prints one token a line, and complains about a character where no token starts. -/
def main (words : List String) : IO UInt32 := do
  let (printed, stop) := TextScan.Arithmetic.report words
  IO.print printed
  match stop with
  | none => return 0
  | some u =>
    IO.eprintln ("SyntaxError: " ++ u.message)
    return 1
