/-
Diagnostics only watch.

The line of a step is due between decoding and execution, so it is printed for an instruction
that then faults, and not for a fetch that fails, an opcode that is none or a processor that has
stopped.  Steps are told here with their line in its place (`stepWatched`), and
`stepWatched_eq` says that printing it afterwards comes to the same.

Whatever is printed never reaches a processor or a console (`trajectoryLogged_fst`).
-/
import Chip8.Monitor
import Chip8.Proofs.Commuting
import Chip8.Proofs.Tracing
import Mathlib.Algebra.Group.Nat.Defs

namespace Chip8

/-! ### Digits -/

/-- The lowest digits of a number in base sixteen, so many of them, in small letters. -/
def hexDigits : Nat → Nat → List Char
  | 0, _ => []
  | width + 1, n => hexDigits width (n / 16) ++ [Nat.digitChar (n % 16)]

theorem hexDigits_zero (width : Nat) : hexDigits width 0 = List.replicate width '0' := by
  induction width with
  | zero => rfl
  | succ width ih =>
      rw [hexDigits, Nat.zero_div, ih, List.replicate_succ']
      rfl

/-- Filling up with zeros gives a number as many digits as it has room for. -/
theorem replicate_append_toDigits {width n : Nat} (hwidth : 0 < width) (h : n < 16 ^ width) :
    List.replicate (width - (Nat.toDigits 16 n).length) '0' ++ Nat.toDigits 16 n
      = hexDigits width n := by
  induction width generalizing n with
  | zero => omega
  | succ width ih =>
      rw [hexDigits]
      by_cases hn : n < 16
      · rw [Nat.toDigits_of_lt_base hn, Nat.div_eq_of_lt hn, Nat.mod_eq_of_lt hn, hexDigits_zero]
        rfl
      · rw [Nat.pow_succ] at h
        have hquotient : n / 16 < 16 ^ width := Nat.div_lt_of_lt_mul (by omega)
        have hwidth : 0 < width := by
          refine Nat.pos_of_ne_zero ?_
          rintro rfl
          omega
        rw [Nat.toDigits_of_base_le (by decide) (by omega), ← ih hwidth hquotient,
          List.length_append, List.length_singleton, Nat.add_sub_add_right, List.append_assoc]

theorem write_style {n : Nat} (h : n < 0x10000) :
    StepRecord.style.write n = String.ofList (hexDigits 4 n) := by
  have hlead : StepRecord.style.lead n = [] := by
    rw [HexStyle.lead, if_neg (by omega)]
    rfl
  have hdigits : StepRecord.style.digits (n : Int).natAbs = Nat.toDigits 16 n := rfl
  rw [HexStyle.write, HexStyle.chars, hlead, hdigits, List.length_nil, Nat.zero_add,
    List.nil_append, ← replicate_append_toDigits (by decide) h]
  rfl

/-! ### The line of a step -/

namespace Diagnostics

/-- The template of the line. -/
def stepTemplate : String := "pc=%04x opcode=%04x %s"

/-- The place of a number of four digits in it. -/
def fourDigits : Place := ⟨false, false, false, false, true, 4, none, .hexadecimal false⟩

/-- The place of the mnemonic in it. -/
def anyText : Place := ⟨false, false, false, false, false, 0, none, .text⟩

theorem parts_stepTemplate : Template.parts? stepTemplate.toList
    = some (("pc=".toList.map .char) ++ .place fourDigits :: (" opcode=".toList.map .char)
      ++ [.place fourDigits, .char ' ', .place anyText]) := rfl

theorem fillPlace?_fourDigits (n : Int) :
    Template.fillPlace? fourDigits (.number n) = some (StepRecord.style.chars n) := by
  have hlead : Template.lead fourDigits n ['0', 'x'] = StepRecord.style.lead n := by
    rw [Template.lead, HexStyle.lead]
    rfl
  have hprecision : fourDigits.precision.getD 0 - (Nat.toDigits 16 n.natAbs).length = 0 :=
    Nat.zero_sub _
  show some (Template.padNumber fourDigits (Template.lead fourDigits n ['0', 'x'])
    (Nat.toDigits 16 n.natAbs)) = _
  rw [hlead, Template.padNumber, hprecision, HexStyle.chars]
  rfl

theorem fillPlace?_anyText (text : String) :
    Template.fillPlace? anyText (.text text) = some text.toList := by
  have hwidth : anyText.width - text.toList.length = 0 := Nat.zero_sub _
  show some (Template.pad anyText text.toList) = _
  rw [Template.pad, hwidth]
  rfl

/-- Filled with what a step has before it is executed, it gives the notice of the step. -/
theorem fill?_stepTemplate (r : StepRecord) (decoded : Decoded) :
    Template.fill? stepTemplate [.number r.before.pc, .number decoded.opcode,
      .text decoded.instruction.mnemonic] = some (r.notice decoded) := by
  rw [Template.fill?, parts_stepTemplate]
  simp [Template.fillParts?, fillPlace?_fourDigits, fillPlace?_anyText, StepRecord.notice,
    HexStyle.write, ← String.toList_inj]

/-- The diagnostics after the line of a decoded instruction was offered. -/
def announce (d : Diagnostics) (before : Core) (decoded : Decoded) : Diagnostics :=
  let (enabled, d) := d.ask (some "cpu")
  if enabled then
    d.logFilled "cpu" stepTemplate [.number before.pc, .number decoded.opcode,
      .text decoded.instruction.mnemonic]
  else d

variable {d : Diagnostics} {r : StepRecord} {decoded : Decoded}

theorem announce_eq (d : Diagnostics) (r : StepRecord) (decoded : Decoded) :
    d.announce r.before decoded
      = if d.enabled (some "cpu") then d.consulted.log "cpu" (r.notice decoded)
        else d.consulted := by
  have hline : d.consulted.logFilled "cpu" stepTemplate [.number r.before.pc,
      .number decoded.opcode, .text decoded.instruction.mnemonic]
        = d.consulted.log "cpu" (r.notice decoded) := by
    rw [logFilled, if_neg (by simp), filled, fill?_stepTemplate]
    rfl
  rw [← hline]
  rfl

theorem logStep_of_decoded (h : r.outcome.decoded? = some decoded) :
    d.logStep r = d.announce r.before decoded := by
  rw [logStep, h, announce_eq]
  rfl

theorem logStep_of_none (h : r.outcome.decoded? = none) : d.logStep r = d := by
  rw [logStep, h]

theorem log_of_enabled {category message : String} (h : d.enabled (some category) = true) :
    d.log category message
      = { d.consulted with printed := d.printed.push (line category message) } := by
  rw [log]
  exact if_pos h

theorem log_of_disabled {category message : String} (h : d.enabled (some category) = false) :
    d.log category message = d.consulted := by
  rw [log]
  exact if_neg (Bool.eq_false_iff.mp h)

/-- The categories that hold are those that held before, and none but them. -/
theorem active_log (d : Diagnostics) (category message : String) :
    (d.log category message).active = d.active := by
  cases h : d.enabled (some category) with
  | true => rw [log_of_enabled h]; rfl
  | false => rw [log_of_disabled h]; rfl

theorem active_logStep (d : Diagnostics) (r : StepRecord) : (d.logStep r).active = d.active := by
  cases h : r.outcome.decoded? with
  | none => rw [logStep_of_none h]
  | some decoded =>
      rw [logStep_of_decoded h, announce_eq]
      by_cases hcpu : d.enabled (some "cpu") = true
      · rw [if_pos hcpu, active_log]
        rfl
      · rw [if_neg hcpu]
        rfl

/-- What a step has printed while its category is printed. -/
theorem printed_logStep (r : StepRecord) (hcpu : d.enabled (some "cpu") = true) :
    (d.logStep r).printed.toList = d.printed.toList
      ++ (r.outcome.decoded?.map fun decoded => line "cpu" (r.notice decoded)).toList := by
  cases h : r.outcome.decoded? with
  | none =>
      rw [logStep_of_none h]
      exact (List.append_nil _).symm
  | some decoded =>
      have hcpu' : d.consulted.enabled (some "cpu") = true := hcpu
      rw [logStep_of_decoded h, announce_eq, if_pos hcpu, log_of_enabled hcpu']
      exact Array.toList_push

theorem logSteps_append (d : Diagnostics) (records more : Array StepRecord) :
    d.logSteps (records ++ more) = (d.logSteps records).logSteps more := Array.foldl_append

theorem logSteps_singleton (d : Diagnostics) (r : StepRecord) :
    d.logSteps #[r] = d.logStep r := rfl

end Diagnostics

namespace Processor

variable {p : Processor} {d : Diagnostics}

/-- Carries out one instruction, and offers its line when it is decoded. -/
def stepWatched (p : Processor) (d : Diagnostics) : (StepOutcome × Processor) × Diagnostics :=
  if p.halted then ((.failed .halted none, p), d)
  else
    match p.memory.readWord p.core.pc with
    | .error e => ((.failed (.access e) none, p.halt), d)
    | .ok word =>
      match p.table.lookup word with
      | none => ((.failed (.illegal word p.core.pc) none, p.passed.halt), d)
      | some instruction =>
        let decoded : Decoded := ⟨word, instruction⟩
        let d := d.announce p.core decoded
        match p.passed.execute decoded with
        | ⟨p, none⟩ => ((.completed decoded, { p with completed := p.completed + 1 }), d)
        | ⟨p, some fault⟩ => ((.failed fault (some decoded), p.halt), d)

/-- **A line that is printed after its step comes to the same**, whatever became of the step. -/
theorem stepWatched_eq (p : Processor) (d : Diagnostics) : p.stepWatched d = p.stepLogged d := by
  rw [stepLogged, Diagnostics.logSteps_singleton, stepWatched, step]
  cases p.halted with
  | true => rfl
  | false =>
      cases p.memory.readWord p.core.pc with
      | error e => rfl
      | ok word =>
          dsimp only
          cases p.table.lookup word with
          | none => rfl
          | some instruction =>
              dsimp only
              rcases p.passed.execute ⟨word, instruction⟩ with ⟨q, _ | fault⟩
              · dsimp only
                rw [Diagnostics.logStep_of_decoded (d := d) rfl]
                rfl
              · dsimp only
                rw [Diagnostics.logStep_of_decoded (d := d) rfl]
                rfl

/-- What a step decodes, whatever becomes of it. -/
theorem decoded?_step (p : Processor) : p.step.1.decoded? =
    if p.halted = false ∧ p.Fetches then (p.table.lookup p.opcode).map (Decoded.mk p.opcode)
    else none := by
  cases hn : p.halted with
  | true =>
      rw [step_of_halted hn, if_neg (by simp)]
      rfl
  | false =>
      have hsteps := steps_of_running hn
      generalize p.step = stepped at hsteps ⊢
      obtain ⟨outcome, q⟩ := stepped
      cases hsteps with
      | unfetched h =>
          have hf : ¬ p.Fetches := by
            intro hf
            rw [readWord_of_fetches hf] at h
            cases h
          rw [if_neg (fun hboth => hf hboth.2)]
          rfl
      | illegal hf hl | unknown hf hl hr | cut hf hl hr hc | completed hf hl hr hp =>
        rw [if_pos ⟨rfl, hf⟩, hl]
        rfl

/-! ### Requests under diagnostics -/

/-- What a request is answered and leaves, and what was printed meanwhile. -/
def serveLogged (p : Processor) (d : Diagnostics) :
    Request → (Console.Answer × Processor) × Diagnostics
  | .step =>
    let ((outcome, q), d) := p.stepWatched d
    ((.step outcome.toExcept, q), d)
  | .tick => ((.done, p.tick), d)
  | .press index down =>
    match p.pressLogged index down d with
    | .ok (q, d) => ((.done, q), d)
    | .error e => ((.noSuchKey e, p), d)
  | .acknowledge => ((.done, p.acknowledge), d)

/-- The answers to several requests, the processor after each, and what was printed. -/
def trajectoryLogged (p : Processor) (d : Diagnostics) :
    List Request → List (Console.Answer × Processor) × Diagnostics
  | [] => ([], d)
  | request :: rest =>
    let (seen, d) := p.serveLogged d request
    let (later, d) := seen.2.trajectoryLogged d rest
    (seen :: later, d)

theorem serveLogged_step (p : Processor) (d : Diagnostics) : p.serveLogged d .step
    = ((p.answer .step, p.serve .step), d.logStep ⟨p.core, p.step.1⟩) := by
  rw [serveLogged, stepWatched_eq]
  rfl

/-- Keys have a line of their own. -/
theorem serveLogged_press (p : Processor) (d : Diagnostics) (index : Int) (down : Bool) :
    p.serveLogged d (.press index down)
      = ((p.answer (.press index down), p.serve (.press index down)),
        ((Keypad.key? index).map fun key => d.logKey key down).getD d) := by
  rw [serveLogged, pressLogged, answer, serve, press]
  cases Keypad.key? index with
  | none => rfl
  | some key => rfl

theorem serveLogged_fst (p : Processor) (d : Diagnostics) (request : Request) :
    (p.serveLogged d request).1 = (p.answer request, p.serve request) := by
  cases request with
  | step => rw [serveLogged_step]
  | press index down => rw [serveLogged_press]
  | tick | acknowledge => rfl

/-- **What is printed never reaches a processor.** -/
theorem trajectoryLogged_fst (p : Processor) (d : Diagnostics) (requests : List Request) :
    (p.trajectoryLogged d requests).1 = p.trajectory requests := by
  induction requests generalizing p d with
  | nil => rfl
  | cons request rest ih =>
      rw [trajectoryLogged, trajectory]
      dsimp only
      rw [ih, serveLogged_fst]

/-! ### The lines of steps -/

/-- The line of a step that fetches and decodes an instruction: the program counter before it, the
word there and the mnemonic. -/
def line? (p : Processor) : Option String :=
  if p.halted = false ∧ p.Fetches then
    (p.table.lookup p.opcode).map fun i =>
      "[CHIP8][cpu] pc=" ++ String.ofList (hexDigits 4 p.core.pc.toNat)
        ++ " opcode=" ++ String.ofList (hexDigits 4 p.opcode.toNat) ++ " " ++ i.mnemonic
  else none

/-- The lines that are due for a request. -/
def linesFor (p : Processor) : Request → List String
  | .step => p.line?.toList
  | .tick | .press _ _ | .acknowledge => []

/-- The lines that are due for several requests. -/
def lines (p : Processor) : List Request → List String
  | [] => []
  | request :: rest => p.linesFor request ++ (p.serve request).lines rest

/-- The line is what the step is noticed by, as long as its program counter has four digits. -/
theorem line?_eq (hb : p.Bounded) : p.line? = p.step.1.decoded?.map fun decoded =>
    Diagnostics.line "cpu" ((⟨p.core, p.step.1⟩ : StepRecord).notice decoded) := by
  have hpc := hb.core.pc_nonneg
  have hpc' := hb.core.pc_le
  have hword := p.opcode_nonneg
  have hword' : p.opcode.toNat < 0x10000 := (Int.toNat_lt hword).mpr p.opcode_lt
  have hpcText :
      StepRecord.style.write p.core.pc = String.ofList (hexDigits 4 p.core.pc.toNat) := by
    rw [← write_style (by omega), Int.toNat_of_nonneg hpc]
  have hwordText :
      StepRecord.style.write p.opcode = String.ofList (hexDigits 4 p.opcode.toNat) := by
    rw [← write_style hword', Int.toNat_of_nonneg hword]
  rw [line?, decoded?_step]
  by_cases h : p.halted = false ∧ p.Fetches
  · rw [if_pos h, if_pos h, Option.map_map]
    refine congrArg (Option.map · (p.table.lookup p.opcode)) (funext fun i => ?_)
    rw [Function.comp_apply, StepRecord.notice, hpcText, hwordText, Diagnostics.line]
    simp only [String.append_assoc]
    rfl
  · rw [if_neg h, if_neg h]
    rfl

/-- **While steps are printed and keys are not, there is a line for each step that decodes an
instruction**, in order, and no other. -/
theorem printed_trajectoryLogged {setup : Setup} (h : Reachable setup p)
    (hcpu : d.enabled (some "cpu") = true) (hinput : d.enabled (some "input") = false)
    (requests : List Request) :
    (p.trajectoryLogged d requests).2.printed.toList = d.printed.toList ++ p.lines requests := by
  induction requests generalizing p d with
  | nil => exact (List.append_nil _).symm
  | cons request rest ih =>
      have hnext := h.serve request
      rw [trajectoryLogged]
      dsimp only
      cases request with
      | step =>
        have hactive := Diagnostics.active_logStep d ⟨p.core, p.step.1⟩
        have hprinted := Diagnostics.printed_logStep ⟨p.core, p.step.1⟩ hcpu
        rw [serveLogged_step, lines, linesFor, line?_eq h.bounded, ← List.append_assoc, ← hprinted]
        refine ih hnext ?_ ?_
        · rw [Diagnostics.enabled, hactive]
          exact hcpu
        · rw [Diagnostics.enabled, hactive]
          exact hinput
      | press index down =>
        rw [serveLogged_press, lines, linesFor, List.nil_append]
        cases Keypad.key? index with
        | none => exact ih hnext hcpu hinput
        | some key =>
            rw [Option.map_some, Option.getD_some, Diagnostics.logKey,
              Diagnostics.log_of_disabled hinput]
            exact ih hnext hcpu hinput
      | tick => exact ih hnext hcpu hinput
      | acknowledge => exact ih hnext hcpu hinput

end Processor

namespace Console

/-! ### Consoles under diagnostics -/

variable {c : Console} {d : Diagnostics}

/-- So many turns of a frame, each with its line when its instruction is decoded. -/
def turnsWatched (executed : Nat) :
    Nat → Console → Diagnostics → (Except Fault Nat × Console) × Diagnostics
  | 0, c, d => ((.ok executed, c.finish), d)
  | count + 1, c, d =>
    let d := (c.processor.stepWatched d).2
    match c.turn with
    | (.completed _, c) => turnsWatched (executed + 1) count c d
    | (.failed fault _, c) => ((.error fault, c), d)

theorem turnsWatched_eq (executed count : Nat) (c : Console) (d : Diagnostics) :
    turnsWatched executed count c d
      = (turns executed count c, d.logSteps (c.processor.run count).records) := by
  induction count generalizing executed c d with
  | zero => rfl
  | succ count ih =>
      rw [turnsWatched, turns, turn_eq, Processor.stepWatched_eq, Processor.stepLogged]
      rcases hstep : c.processor.step with ⟨decoded | ⟨fault, reached⟩, q⟩
      · rw [Processor.run_succ_of_completed hstep]
        dsimp only
        rw [ih, Diagnostics.logSteps_append]
      · rw [Processor.run_succ_of_failed hstep]

theorem records_runFrame_eq_run (c : Console) :
    c.runFrame.records = (c.processor.run c.clock.perFrame).records := by
  rw [runFrame]
  cases (c.processor.run c.clock.perFrame).fault with
  | none => rfl
  | some fault => rfl

/-- **A frame whose lines are printed at its end comes to the same.** -/
theorem runFrameLogged_eq (c : Console) (d : Diagnostics) :
    ((c.runFrameLogged d).1.result, (c.runFrameLogged d).2)
      = turnsWatched 0 c.clock.perFrame c d := by
  rw [turnsWatched_eq, ← runFrame_eq_turns, ← records_runFrame_eq_run]
  rfl

/-- What a request is answered and leaves, and what was printed meanwhile. -/
def serveLogged (c : Console) (d : Diagnostics) : Request → (Answer × Console) × Diagnostics
  | .frame =>
    let ((outcome, c), d) := turnsWatched 0 c.clock.perFrame c d
    ((.frame outcome, c), d)
  | .ask request =>
    let served := c.processor.serveLogged d request
    ((served.1.1, { c with processor := served.1.2 }), served.2)
  | .retime clock _ => ((.done, { c with clock }), d)

/-- The answers to several requests, the console after each, and what was printed. -/
def trajectoryLogged (c : Console) (d : Diagnostics) :
    List Request → List (Answer × Console) × Diagnostics
  | [] => ([], d)
  | request :: rest =>
    let (seen, d) := c.serveLogged d request
    let (later, d) := seen.2.trajectoryLogged d rest
    (seen :: later, d)

theorem serveLogged_fst (c : Console) (d : Diagnostics) (request : Request) :
    (c.serveLogged d request).1 = (c.answer request, c.serve request) := by
  cases request with
  | frame =>
    rw [serveLogged, ← runFrameLogged_eq]
    rfl
  | ask request =>
    rw [serveLogged, Processor.serveLogged_fst, Processor.answer_ask]
    rfl
  | retime clock h => rfl

/-- **What is printed never reaches a console.** -/
theorem trajectoryLogged_fst (c : Console) (d : Diagnostics) (requests : List Request) :
    (c.trajectoryLogged d requests).1 = c.trajectory requests := by
  induction requests generalizing c d with
  | nil => rfl
  | cons request rest ih =>
      rw [trajectoryLogged, trajectory]
      dsimp only
      rw [ih, serveLogged_fst]

end Console

end Chip8
