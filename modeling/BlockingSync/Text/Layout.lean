namespace BlockingSync.Text

inductive Align
  | left
  | centre
  | right
deriving DecidableEq, Repr

structure Layout where
  width : Nat := 0
  /-- The greatest number of characters of a text; numbers are never cut. -/
  limit : Option Nat := none
  fill : Char := ' '
  align : Option Align := none
  zeros : Bool := false
deriving DecidableEq, Repr

namespace Layout

def plain : Layout := {}

/-- The number of fill characters before a text, out of `missing`. In the centre an odd one goes
behind the text. -/
def leading (missing : Nat) : Align → Nat
  | .left => 0
  | .centre => missing / 2
  | .right => missing

def pad (layout : Layout) (default : Align) (s : String) : String :=
  let missing := layout.width - s.length
  let before := leading missing (layout.align.getD default)
  "".pushn layout.fill before ++ s ++ "".pushn layout.fill (missing - before)

def text (layout : Layout) (s : String) : String :=
  layout.pad .left <| match layout.limit with
    | some n => String.ofList (s.toList.take n)
    | none => s

def number (layout : Layout) (n : Int) : String :=
  if layout.zeros then
    let sign := if n < 0 then "-" else ""
    let digits := toString n.natAbs
    sign ++ "".pushn '0' (layout.width - sign.length - digits.length) ++ digits
  else layout.pad .right (toString n)

end Layout

end BlockingSync.Text
