/-
What a host asks for over time.

Requests come one after the other, and `serveEach` is what they leave; the processors that
had to step on the way are `stepped`.  A console can be asked for everything that its
processor can be asked for, for a frame, and to go on under another clock.

Each request to a console has an answer: a frame tells how many instructions it completed
or which fault cut it short, a step tells its instruction or its fault, and a key that
does not exist is refused.  The answers together with the consoles in between are all that
a host can see of a console (`trajectory`).
-/
import Chip8.Console
import Chip8.Proofs.Reachable

namespace Chip8

/-! ### What was said last -/

/--
Whether something holds after a number of events, if each of them says that it does, or that it
does not, or nothing: then what was said last is so.
-/
theorem foldl_told {State Event : Type} (after : State → Event → State) (holds : State → Bool)
    (tells : Event → Option Bool) (h : ∀ s e, holds (after s e) = (tells e).getD (holds s))
    {s : State} {past : List Event} (hs : holds s = (past.filterMap tells).getLast?.getD false)
    (events : List Event) :
    holds (events.foldl after s) = ((past ++ events).filterMap tells).getLast?.getD false := by
  induction events generalizing s past with
  | nil => simpa using hs
  | cons event rest ih =>
      have hnext : holds (after s event)
          = ((past ++ [event]).filterMap tells).getLast?.getD false := by
        rw [h, hs, List.filterMap_append, List.getLast?_append]
        cases htold : tells event with
        | none => simp [htold]
        | some value => simp [htold]
      rw [List.foldl_cons, ih hnext, List.append_assoc, List.singleton_append]

namespace Processor

theorem serve_step (p : Processor) : p.serve .step = p.step.2 := rfl

/-- The processor after several requests. -/
def serveEach (p : Processor) (requests : List Request) : Processor := requests.foldl serve p

@[simp] theorem serveEach_nil (p : Processor) : p.serveEach [] = p := rfl

@[simp] theorem serveEach_cons (p : Processor) (request : Request) (rest : List Request) :
    p.serveEach (request :: rest) = (p.serve request).serveEach rest := rfl

theorem serveEach_append (p : Processor) (requests more : List Request) :
    p.serveEach (requests ++ more) = (p.serveEach requests).serveEach more :=
  List.foldl_append

theorem Reachable.serveEach {setup : Setup} {p : Processor} (h : Reachable setup p)
    (requests : List Request) : Reachable setup (p.serveEach requests) := by
  induction requests generalizing p with
  | nil => exact h
  | cons request rest ih => exact ih (h.serve request)

/-! ### The processors that had to step -/

/-- The processor, if a request asks it to step. -/
def asked (p : Processor) : Request → List Processor
  | .step => [p]
  | .tick | .press _ _ | .acknowledge => []

/-- The processors that had to step, each just before its step. -/
def stepped (p : Processor) : List Request → List Processor
  | [] => []
  | request :: rest => p.asked request ++ (p.serve request).stepped rest

theorem Reachable.of_mem_stepped {setup : Setup} {p q : Processor} {requests : List Request}
    (h : Reachable setup p) (hq : q ∈ p.stepped requests) : Reachable setup q := by
  induction requests generalizing p with
  | nil => cases hq
  | cons request rest ih =>
      rw [stepped] at hq
      rcases List.mem_append.mp hq with hnow | hlater
      · cases request with
        | step =>
          rw [List.mem_singleton.mp hnow]
          exact h
        | tick | press | acknowledge => cases hnow
      · exact ih (h.serve request) hlater

end Processor

namespace Console

/-- What the host can ask of a console. -/
inductive Request where
  | frame
  /-- A request to the processor alone. -/
  | ask (request : Processor.Request)
  /-- The host changes the clock; a frame rate of zero would make no frames. -/
  | retime (clock : Clock) (h : clock.frameRate ≠ 0)

/-- The console after a request. -/
def serve (c : Console) : Request → Console
  | .frame => c.runFrame.console
  | .ask request => { c with processor := c.processor.serve request }
  | .retime clock _ => { c with clock }

theorem serve_frame (c : Console) : c.serve .frame = c.runFrame.console := rfl

theorem serve_retime (c : Console) (clock : Clock) (h : clock.frameRate ≠ 0) :
    c.serve (.retime clock h) = { c with clock } := rfl

/-- The console after several requests. -/
def serveEach (c : Console) (requests : List Request) : Console := requests.foldl serve c

@[simp] theorem serveEach_nil (c : Console) : c.serveEach [] = c := rfl

@[simp] theorem serveEach_cons (c : Console) (request : Request) (rest : List Request) :
    c.serveEach (request :: rest) = (c.serve request).serveEach rest := rfl

theorem recorded_nil (c : Console) : c.recorded #[] = c.history := by
  cases h : c.history with
  | none => rw [recorded, h, Option.map_none]
  | some history =>
      rw [recorded, h, Option.map_some]
      exact congrArg some history.append_nil

/-- What the host is told. -/
inductive Answer where
  | done
  /-- The instruction that a step completed, or its fault. -/
  | step (result : Except Fault Decoded)
  /-- The number of instructions that a frame completed, or the fault that cut it short. -/
  | frame (result : Except Fault Nat)
  | noSuchKey (error : Keypad.NoSuchKey)

/-- The answer to a request. -/
def answer (c : Console) : Request → Answer
  | .frame => .frame c.runFrame.outcome
  | .ask .step => .step c.processor.step.1.toExcept
  | .ask (.press index down) =>
    match c.processor.press index down with
    | .ok _ => .done
    | .error e => .noSuchKey e
  | .ask .tick | .ask .acknowledge | .retime _ _ => .done

/-- The answer to each request and the console after it. -/
def trajectory (c : Console) : List Request → List (Answer × Console)
  | [] => []
  | request :: rest => (c.answer request, c.serve request) :: (c.serve request).trajectory rest

end Console

end Chip8
