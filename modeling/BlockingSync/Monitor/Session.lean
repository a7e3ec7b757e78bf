import BlockingSync.Monitor.Room

namespace BlockingSync

inductive Action (γ : Type)
  | request (request : γ)
  | advance (d : Duration)
  | wake (task : Nat)
  | run (task : Nat)
  | rest
deriving DecidableEq, Repr

structure Step (γ : Type) where
  action : Action γ
  hold : Bool
deriving DecidableEq, Repr

def Step.holds {γ : Type} (step : Step γ) : Bool :=
  match step.action with
  | .run _ => true
  | _ => step.hold

/-- What a request comes to in a room: a call, an answer on the spot, or a refusal because of calls
that have not returned. -/
inductive Plan (α β : Type)
  | call (call : α)
  | answer (answer : β)
  | busy
deriving DecidableEq, Repr

inductive Reply (β ρ : Type)
  | answer (answer : β)
  | ran (outcome : Outcome ρ)
  | busy
  | notParked
  | notReady
  | done
deriving DecidableEq, Repr

structure StepAnswer (α β ρ : Type) where
  reply : Reply β ρ
  ran : List (Report α ρ)
deriving DecidableEq, Repr

namespace Monitor

variable {σ α κ χ ρ γ β : Type} [DecidableEq χ]

def act (m : Monitor σ α κ χ ρ) (plan : Room σ α κ → γ → Plan α β) (room : Room σ α κ) :
    Action γ → Room σ α κ × StepAnswer α β ρ
  | .request request =>
    match plan room request with
    | .answer a => ((m.step room .skip).1, ⟨.answer a, []⟩)
    | .busy => ((m.step room .skip).1, ⟨.busy, []⟩)
    | .call call =>
      match m.step room (.start call) with
      | (room, some report) => (room, ⟨.ran report.outcome, []⟩)
      | (room, none) => (room, ⟨.busy, []⟩)
  | .advance d => ((m.exec room [.skip, .advance d]).1, ⟨.done, []⟩)
  | .wake task =>
    let reply := if room.isParked task then .done else .notParked
    ((m.exec room [.skip, .wake task]).1, ⟨reply, []⟩)
  | .run task =>
    let reply := if room.isReady task then .done else .notReady
    let (room, reports) := m.exec room [.skip, .run task]
    (room, ⟨reply, reports⟩)
  | .rest => ((m.step room .skip).1, ⟨.done, []⟩)

def perform (m : Monitor σ α κ χ ρ) (plan : Room σ α κ → γ → Plan α β) (room : Room σ α κ)
    (step : Step γ) : Room σ α κ × StepAnswer α β ρ :=
  let (room, answer) := m.act plan room step.action
  if step.holds then (room, answer)
  else
    let (room, reports) := m.settle room
    (room, { answer with ran := answer.ran ++ reports })

/-- The answers to the steps of a session, each with the room after the step. Each step has a
number, whether or not it starts a call, and after it the ready calls run until none is left, unless
it holds them back. -/
def session (m : Monitor σ α κ χ ρ) (plan : Room σ α κ → γ → Plan α β) (room : Room σ α κ) :
    List (Step γ) → List (StepAnswer α β ρ × Room σ α κ)
  | [] => []
  | step :: rest =>
    let (room, answer) := m.perform plan room step
    (answer, room) :: m.session plan room rest

end Monitor

end BlockingSync
