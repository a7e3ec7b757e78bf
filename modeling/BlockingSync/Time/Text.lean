import BlockingSync.Time.Timeout
import BlockingSync.Text.Tree

namespace BlockingSync

namespace Duration

def decimals (fraction places : Nat) : List Char :=
  let digits := Nat.toDigits 10 fraction
  let padded := List.replicate (places - digits.length) '0' ++ digits
  (padded.reverse.dropWhile (· == '0')).reverse

def decimal (whole fraction places : Nat) : String :=
  match decimals fraction places with
  | [] => toString whole
  | ds => toString whole ++ "." ++ String.ofList ds

def text (d : Duration) : String :=
  if 0 < d.secs then decimal d.secs d.nanos 9 ++ "s"
  else if 1000000 ≤ d.nanos then decimal (d.nanos / 1000000) (d.nanos % 1000000) 6 ++ "ms"
  else if 1000 ≤ d.nanos then decimal (d.nanos / 1000) (d.nanos % 1000) 3 ++ "µs"
  else decimal d.nanos 0 0 ++ "ns"

end Duration

def Timeout.tree (timeout : Timeout) (now : Instant) : Text.Tree :=
  match timeout.remaining now with
  | none => .text "Timeout(infinite)"
  | some d => .word ("Timeout(" ++ d.text ++ " remaining)")

end BlockingSync
