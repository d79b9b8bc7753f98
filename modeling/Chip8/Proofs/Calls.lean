/-
Subroutine calls and their returns.

Only two operations touch the call stack.  A call puts one address on top of it and a
return takes the top one off, so whatever lies below the top is out of reach
(`StackChange`).

A call that is open is followed by requests that keep the stack longer than it was before
the call (`Inside`).  The invariant of all of them is that the stack still ends in the
return address and what lay below it.  When the stack gets as short as it was, its last
change took off the return address itself; it cannot have been anything else, for the
stack never loses more than one address at a time.
-/
import Chip8.Proofs.Footprint

namespace Chip8.Processor

variable {p q : Processor} {op : Operation} {opcode : Opcode}

/-! ### What becomes of the call stack -/

/-- How a request changes the call stack. -/
inductive StackChange (p : Processor) (request : Request) (q : Processor) : Prop
  | keep (h : q.core.stack = p.core.stack)
  | push (address : Int) (h : q.core.stack = address :: p.core.stack)
  /-- Only a return that is completed takes an address off, and goes there. -/
  | pop (hstep : request = .step) (hd : ∃ decoded, p.step.1 = .completed decoded)
      (hat : p.At .returnFromCall) (h : p.core.stack = q.core.pc :: q.core.stack)

theorem stack_of_return (hp : p.perform .returnFromCall opcode = ⟨q, none⟩) :
    p.core.stack = q.core.pc :: q.core.stack := by
  rw [perform, leave] at hp
  cases hs : p.core.stack with
  | nil =>
      rw [hs] at hp
      cases hp
  | cons top rest =>
      rw [hs] at hp
      cases hp
      rfl

theorem stack_of_call (hp : p.perform .call opcode = ⟨q, none⟩) :
    q.core.stack = p.core.pc :: p.core.stack := by
  rw [perform, enter] at hp
  cases hp
  rfl

variable {setup : Setup}

theorem Reachable.stackChange_step (h : Reachable setup p) (ht : setup.table = .standard) :
    StackChange p .step p.step.2 := by
  cases hn : p.halted with
  | true =>
      rw [step_of_halted hn]
      exact .keep rfl
  | false =>
      cases hout : p.step.1 with
      | failed fault reached =>
          have hres := h.residue_of_failed ht hn hout
          have hstack := congrArg (fun q : Processor => q.core.stack) hres.frame
          exact .keep hstack
      | completed decoded =>
          have hd : ∃ decoded, p.step.1 = .completed decoded := ⟨decoded, hout⟩
          obtain ⟨-, op, q, hat, hp, hq⟩ := performed_of_completed (h.table.trans ht) hout
          rw [hq]
          by_cases hmem : op ∈ [.returnFromCall, .call]
          · simp only [List.mem_cons, List.not_mem_nil, or_false] at hmem
            rcases hmem with rfl | rfl
            · have hstack := stack_of_return hp
              exact .pop rfl hd hat hstack
            · have hstack := stack_of_call hp
              exact .push _ hstack
          · have hstack := ((h.bounded.passed hat.1).framed_perform hp).core.stack hmem
            exact .keep hstack

theorem Reachable.stackChange_serve (h : Reachable setup p) (ht : setup.table = .standard)
    (request : Request) : StackChange p request (p.serve request) := by
  cases request with
  | step => exact h.stackChange_step ht
  | press index down =>
    rw [serve_press]
    exact .keep rfl
  | tick | acknowledge => exact .keep rfl

/-! ### Open calls -/

/-- What requests make of a processor while its call stack is longer than some depth. -/
inductive Inside (p : Processor) (depth : Nat) : Processor → Prop
  | enter (h : depth < p.core.stack.length) : Inside p depth p
  | serve {q : Processor} (h : Inside p depth q) (request : Request)
      (hlt : depth < (q.serve request).core.stack.length) : Inside p depth (q.serve request)

theorem Inside.reachable {depth : Nat} (h : Inside p depth q) (hp : Reachable setup p) :
    Reachable setup q := by
  induction h with
  | enter => exact hp
  | serve _ request _ ih => exact ih.serve request

/-- **An open call keeps its return address and what lies below it.** -/
theorem Inside.suffix {frame : List Int} {depth : Nat} (h : Inside p depth q)
    (hp : Reachable setup p) (ht : setup.table = .standard)
    (hlen : frame.length = depth + 1) (hframe : frame <:+ p.core.stack) :
    frame <:+ q.core.stack := by
  induction h with
  | enter => exact hframe
  | @serve q hin request hlt ih =>
      cases (hin.reachable hp).stackChange_serve ht request with
      | keep hstack =>
          rw [hstack]
          exact ih
      | push address hstack =>
          rw [hstack]
          exact List.suffix_cons_iff.mpr (.inr ih)
      | pop _ _ _ hstack =>
          rw [hstack] at ih
          rcases List.suffix_cons_iff.mp ih with heq | hsuffix
          · -- The address taken off would be the return address, and the call closed.
            rw [heq, List.length_cons] at hlen
            omega
          · exact hsuffix

/-- **An open call is closed by a return to its return address.** -/
theorem Reachable.pop_of_length_le {address : Int} {below : List Int} {request : Request}
    (h : Reachable setup q) (ht : setup.table = .standard)
    (hframe : address :: below <:+ q.core.stack)
    (hle : (q.serve request).core.stack.length ≤ below.length) :
    request = .step ∧ (∃ decoded, q.step.1 = .completed decoded) ∧ q.At .returnFromCall ∧
      (q.serve request).core.stack = below ∧ (q.serve request).core.pc = address := by
  have hlong := hframe.length_le
  rw [List.length_cons] at hlong
  cases h.stackChange_serve ht request with
  | keep hstack =>
      rw [hstack] at hle
      omega
  | push address' hstack =>
      rw [hstack, List.length_cons] at hle
      omega
  | pop hstep hd hat hstack =>
      rw [hstack] at hframe hlong
      have heq : address :: below = _ := hframe.eq_of_length (by
        rw [List.length_cons] at hlong ⊢
        rw [List.length_cons]
        omega)
      rw [List.cons_eq_cons] at heq
      exact ⟨hstep, hd, hat, heq.2.symm, heq.1.symm⟩

/-! ### A call and its return -/

theorem Bounded.step_of_call (h : p.Bounded) (ht : p.table = .standard) (hn : p.halted = false)
    (hat : p.At .call) :
    ∃ i, p.step = (.completed ⟨p.opcode, i⟩, { p with
      core := { p.core with pc := p.opcode.nnn, stack := (p.core.pc + 2) :: p.core.stack }
      completed := p.completed + 1 }) := by
  have hpc := (h.pc_passed hat.1).1
  obtain ⟨i, hstep⟩ := step_of_at ht hn hat (q := { p.passed with
    core := { p.passed.core with
      stack := p.passed.core.pc :: p.passed.core.stack, pc := p.opcode.nnn } }) rfl
  rw [hpc] at hstep
  exact ⟨i, hstep⟩

/--
**A call returns to the instruction behind it.**  However deep calls are nested, a call is
completed; while the call stack stays longer than before it, the stack ends in the return
address and the addresses that were there, whatever the host asks for; and when the stack
is no longer so, the last request was a step that completed a return, the stack is the one
before the call and the program goes on behind the call.
-/
theorem call_returns (h : Reachable setup p) (ht : setup.table = .standard)
    (hn : p.halted = false) (hc : p.At .call) :
    (∃ decoded, p.step.1 = .completed decoded) ∧
    p.step.2.core.stack = (p.core.pc + 2) :: p.core.stack ∧
    p.step.2.core.pc = p.opcode.nnn ∧
    ∀ q, Inside p.step.2 p.core.stack.length q →
      (p.core.pc + 2) :: p.core.stack <:+ q.core.stack ∧
      ∀ request, (q.serve request).core.stack.length ≤ p.core.stack.length →
        request = .step ∧ (∃ decoded, q.step.1 = .completed decoded) ∧ q.opcode = 0x00EE ∧
        (q.serve request).core.stack = p.core.stack ∧
        (q.serve request).core.pc = p.core.pc + 2 := by
  obtain ⟨i, hstep⟩ := h.bounded.step_of_call (h.table.trans ht) hn hc
  have hcalled : Reachable setup p.step.2 := h.serve .step
  have hstack : p.step.2.core.stack = (p.core.pc + 2) :: p.core.stack := by rw [hstep]
  refine ⟨⟨_, by rw [hstep]⟩, hstack, by rw [hstep], ?_⟩
  intro q hin
  have hq := hin.reachable hcalled
  have hbegin : (p.core.pc + 2) :: p.core.stack <:+ p.step.2.core.stack := by rw [hstack]
  have hframe := hin.suffix hcalled ht List.length_cons hbegin
  refine ⟨hframe, ?_⟩
  intro request hle
  obtain ⟨hrequest, hd, hat, hbelow, hpc⟩ := hq.pop_of_length_le ht hframe hle
  have hopcode : q.opcode % 0x10000 = 0x00EE := hat.2
  rw [opcode_emod] at hopcode
  exact ⟨hrequest, hd, hopcode, hbelow, hpc⟩

/-- A program that calls a subroutine, which returns at once. -/
def callAndReturn : Array UInt8 := #[0x22, 0x06, 0x12, 0x02, 0x00, 0x00, 0x00, 0xEE]

theorem fits_callAndReturn : FitsProgramSpace callAndReturn := by decide

/-- The processor that is about to call it. -/
def caller : Processor := loaded callAndReturn plainSetup

/-- The processor in the subroutine. -/
def called : Processor :=
  { caller with core := { Core.initial with pc := 0x206, stack := [0x202] }, completed := 1 }

theorem at_caller : caller.At .call :=
  at_of_image fits_callAndReturn rfl (k := 0) rfl (by decide) rfl (by decide)

theorem serve_caller : caller.serve .step = called := by
  have hb : caller.Bounded := bounded_loaded fits_callAndReturn plainSetup
  have hopcode : caller.opcode = 0x2206 :=
    opcode_of_image fits_callAndReturn rfl (k := 0) rfl (by decide)
  obtain ⟨i, hstep⟩ := hb.step_of_call rfl rfl at_caller
  rw [Processor.serve, hstep, hopcode]
  rfl

theorem stack_serve_called : (called.serve .step).core.stack = [] := by
  have hat : called.At .returnFromCall :=
    at_of_image fits_callAndReturn rfl (k := 6) rfl (by decide) rfl (by decide)
  obtain ⟨i, hstep⟩ := step_of_at rfl rfl hat (q := { called.passed with
    core := { called.passed.core with stack := [], pc := 0x202 } }) rfl
  rw [Processor.serve, hstep]

/-- The subroutine returns behind its call. -/
theorem call_returns_caller :
    caller.At .call ∧ (caller.serveEach [.step, .step]).core.stack = [] ∧
      (caller.serveEach [.step, .step]).core.pc = 0x202 := by
  have hreach : Reachable plainSetup caller := reachable_loaded fits_callAndReturn
  obtain ⟨-, hstack, -, hopen⟩ := call_returns hreach rfl rfl at_caller
  rw [← serve_step, serve_caller] at hopen hstack
  have hin : Inside called caller.core.stack.length called := by
    refine .enter ?_
    rw [hstack]
    exact Nat.lt_succ_self _
  have hle : (called.serve .step).core.stack.length ≤ caller.core.stack.length := by
    rw [stack_serve_called]
    exact Nat.zero_le _
  obtain ⟨-, -, -, hbelow, hpc⟩ := (hopen called hin).2 .step hle
  rw [serveEach_cons, serveEach_cons, serveEach_nil, serve_caller]
  exact ⟨at_caller, hbelow, hpc⟩

end Chip8.Processor
