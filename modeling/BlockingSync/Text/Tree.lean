import BlockingSync.Text.Layout

namespace BlockingSync.Text

inductive Tree
  | word (s : String)
  | text (s : String)
  | number (n : Int)
  | record (name : String) (fields : List (String × Tree))
  | wrapped (name : String) (part : Tree)
  | table (entries : List (Tree × Tree))

namespace Tree

def truth (b : Bool) : Tree := .text (if b then "true" else "false")

def count (n : Nat) : Tree := .number n

def option : Option Tree → Tree
  | none => .word "None"
  | some t => .wrapped "Some" t

mutual

def inline (layout : Layout) : Tree → String
  | .word s => s
  | .text s => layout.text s
  | .number n => layout.number n
  | .record name fields =>
    name ++ " \x7b " ++ ", ".intercalate (inlineFields layout fields) ++ " \x7d"
  | .wrapped name part => name ++ "(" ++ inline layout part ++ ")"
  | .table entries => "\x7b" ++ ", ".intercalate (inlineEntries layout entries) ++ "\x7d"

def inlineFields (layout : Layout) : List (String × Tree) → List String
  | [] => []
  | (name, t) :: rest => (name ++ ": " ++ inline layout t) :: inlineFields layout rest

def inlineEntries (layout : Layout) : List (Tree × Tree) → List String
  | [] => []
  | (k, t) :: rest => (inline layout k ++ ": " ++ inline layout t) :: inlineEntries layout rest

end

def indent (depth : Nat) : String := "".pushn ' ' (4 * depth)

def enclosed (depth : Nat) (opening : String) (lines : List String) (closing : String) : String :=
  opening ++ "\n" ++ String.join (lines.map fun l => indent (depth + 1) ++ l ++ ",\n") ++
    indent depth ++ closing

mutual

/-- The tree with one part a line, its first line already indented by `depth` steps. -/
def blockAt (depth : Nat) : Tree → String
  | .word s => s
  | .text s => s
  | .number n => toString n
  | .record name fields => enclosed depth (name ++ " \x7b") (blockFields (depth + 1) fields) "\x7d"
  | .wrapped name part => enclosed depth (name ++ "(") [blockAt (depth + 1) part] ")"
  | .table [] => "\x7b\x7d"
  | .table (e :: rest) => enclosed depth "\x7b" (blockEntries (depth + 1) (e :: rest)) "\x7d"

def blockFields (depth : Nat) : List (String × Tree) → List String
  | [] => []
  | (name, t) :: rest => (name ++ ": " ++ blockAt depth t) :: blockFields depth rest

def blockEntries (depth : Nat) : List (Tree × Tree) → List String
  | [] => []
  | (k, t) :: rest => (blockAt depth k ++ ": " ++ blockAt depth t) :: blockEntries depth rest

end

def block (t : Tree) : String := t.blockAt 0

def line (t : Tree) : String := t.inline .plain

def render (pretty : Bool) (t : Tree) : String := if pretty then t.block else t.line

end Tree

end BlockingSync.Text
