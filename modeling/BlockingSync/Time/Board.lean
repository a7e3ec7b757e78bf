import BlockingSync.Time.Text

namespace BlockingSync

structure Board where
  now : Instant
  timeouts : List (String × Timeout) := []

namespace Board

structure View where
  remaining : Option Duration
  expired : Bool
  infinite : Bool
  deadline : Option Instant
  text : String
  equal : List String

def view (board : Board) (timeout : Timeout) : View where
  remaining := timeout.remaining board.now
  expired := timeout.isExpired board.now
  infinite := timeout.isInfinite
  deadline := timeout.deadline
  text := (timeout.tree board.now).line
  equal := ((board.timeouts.filter (·.2 = timeout)).map (·.1)).mergeSort

inductive Step
  | make (name : String) (limit : Limit)
  | look (name : String)
  | advance (d : Duration)

inductive Reply
  | seen (view : View)
  | unknown (name : String)
  | moved

def put (board : Board) (name : String) (timeout : Timeout) : Board :=
  { board with timeouts := (name, timeout) :: board.timeouts.filter (·.1 ≠ name) }

def step (board : Board) : Step → Board × Reply
  | .make name limit =>
    let timeout := limit.start board.now
    let board := board.put name timeout
    (board, .seen (board.view timeout))
  | .look name =>
    match board.timeouts.lookup name with
    | some timeout => (board, .seen (board.view timeout))
    | none => (board, .unknown name)
  | .advance d => ({ board with now := board.now.advance d }, .moved)

def run (board : Board) : List Step → List Reply
  | [] => []
  | s :: rest =>
    let (board, reply) := board.step s
    reply :: board.run rest

end Board

end BlockingSync
