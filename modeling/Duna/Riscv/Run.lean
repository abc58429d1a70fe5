import Duna.Riscv.Program
import Duna.State.Syscall

/-! The loop of `RiscVProgram::run` as a step relation that `run` refines (`run_sound`,
`run_of_steps`), and what whole runs of it do. -/

namespace Duna

variable {R : Type} [DecidableEq R] [IRegister R] {w : Nat}

namespace ProgramState

variable {conv : SyscallConvention R w} {state next : ProgramState R w}

theorem dispatchSyscall_ok {change : PrivStateChange w} (ok : state.dispatchSyscall conv = .ok change) :
    ∃ fd buf len, change = .FileWrite fd buf len := by
  simp only [dispatchSyscall] at ok
  split at ok
  · exact ⟨_, _, _, (Except.ok.inj ok).symm⟩
  · cases ok

/-- What a successful `apply_diff` did: a user diff, or a file write followed by one. -/
theorem applyDiff_ok_cases {result : InstResult R w} (ok : state.applyDiff conv result = .ok next) :
    (∃ diff, result = .UserStateChange diff ∧
        next = { state with userState := state.userState.applyDiff diff }) ∨
      ∃ fd buf len bytes, result = .Trap .Ecall ∧
        state.dispatchSyscall conv = .ok (.FileWrite fd buf len) ∧
        PrivProgState.fileWriteBytes state.userState.memory buf len = .ok bytes ∧
        next = ⟨⟨state.privState.stdout ++ bytes⟩,
          state.userState.applyDiff (UserDiff.regWritePcP4 state.userState conv.returnReg len)⟩ := by
  cases result with
  | UserStateChange diff => exact .inl ⟨diff, rfl, (Except.ok.inj ok).symm⟩
  | Trap kind =>
    cases kind
    case PageFault | IntOverflow => cases ok
    case Ecall =>
      cases dispatch : state.dispatchSyscall conv with
      | error msg => simp only [applyDiff, handleTrap, dispatch, error_bind] at ok; cases ok
      | ok change =>
        obtain ⟨fd, buf, len, rfl⟩ := dispatchSyscall_ok dispatch
        cases gathered : PrivProgState.fileWriteBytes state.userState.memory buf len with
        | error msg =>
          simp only [applyDiff, handleTrap, dispatch, PrivProgState.applyDiff, gathered, ok_bind,
            error_bind] at ok
          cases ok
        | ok bytes =>
          simp only [applyDiff, handleTrap, dispatch, PrivProgState.applyDiff, gathered, ok_bind] at ok
          exact .inr ⟨fd, buf, len, bytes, rfl, rfl, gathered, (Except.ok.inj ok).symm⟩

theorem stdout_prefix_applyDiff {result : InstResult R w} (ok : state.applyDiff conv result = .ok next) :
    state.privState.stdout <+: next.privState.stdout := by
  rcases applyDiff_ok_cases ok with ⟨diff, -, rfl⟩ | ⟨fd, buf, len, bytes, -, -, -, rfl⟩
  · exact List.prefix_refl _
  · exact List.prefix_append _ _

theorem pc_applyDiff_trap {kind : TrapKind} (ok : state.applyDiff conv (.Trap kind) = .ok next) :
    next.userState.pc = plus4 state.userState.pc := by
  rcases applyDiff_ok_cases ok with ⟨diff, unexpected, -⟩ | ⟨fd, buf, len, bytes, -, -, -, rfl⟩
  · cases unexpected
  · rfl

end ProgramState

namespace RiscVProgram

/-- One pass of the loop of `run`: the instruction fetched at the pc applies to the state. -/
inductive Step (conv : SyscallConvention RiscVRegister 32) : RiscVProgram → RiscVProgram → Prop
  | fetched {program : RiscVProgram} {inst : RiscVInst} {state : ProgramState RiscVRegister 32} :
      fetch program.insts program.state.userState.pc = some inst →
      program.state.applyInst conv inst = .ok state → Step conv program { program with state }

inductive Steps (conv : SyscallConvention RiscVRegister 32) : Nat → RiscVProgram → RiscVProgram → Prop
  | done (program : RiscVProgram) : Steps conv 0 program program
  | step {n : Nat} {program next final : RiscVProgram} :
      Step conv program next → Steps conv n next final → Steps conv (n + 1) program final

variable {conv : SyscallConvention RiscVRegister 32} {program next final : RiscVProgram}

theorem run_of_halted (fuel : Nat) (halted : fetch program.insts program.state.userState.pc = none) :
    run conv (fuel + 1) program =
      some (.ok (program.state.userState.regfile.read RiscVRegister.A0).toInt) := by
  simp only [run, halted]

theorem run_of_step (fuel : Nat) (step : Step conv program next) :
    run conv (fuel + 1) program = run conv fuel next := by
  cases step with
  | fetched fetched applied => simp only [run, fetched, applied]

theorem run_of_failed (fuel : Nat) {inst : RiscVInst} {msg : String}
    (fetched : fetch program.insts program.state.userState.pc = some inst)
    (failed : program.state.applyInst conv inst = .error msg) :
    run conv (fuel + 1) program = some (.error msg) := by
  simp only [run, fetched, failed]

theorem fetch_textStart_add {insts : List RiscVInst} {k : Nat} (noWrap : 4 * k < 2 ^ 32) :
    fetch insts (textStart32 + BitVec.ofNat 32 (4 * k)) = insts[k]? := by
  rw [fetch, add_sub_cancel_left, toWordAddress, BitVec.toNat_ofNat, Nat.mod_eq_of_lt noWrap,
    Nat.mul_div_cancel_left k (by decide)]

/-- Passes that end with nothing to fetch give `run` its result, whatever fuel is left. -/
theorem run_of_steps {n : Nat} (steps : Steps conv n program final)
    (halted : fetch final.insts final.state.userState.pc = none) (extra : Nat) :
    run conv (n + 1 + extra) program =
      some (.ok (final.state.userState.regfile.read RiscVRegister.A0).toInt) := by
  induction steps with
  | done => rw [Nat.zero_add, Nat.add_comm]; exact run_of_halted extra halted
  | @step n _ _ _ step _ ih =>
    rw [show n + 1 + 1 + extra = n + 1 + extra + 1 by omega, run_of_step _ step, ih halted]

/-- Whatever `run` returns was reached by passes of the loop. -/
theorem run_sound {fuel : Nat} {result : Except String Int}
    (finished : run conv fuel program = some result) :
    ∃ n final, n < fuel ∧ Steps conv n program final ∧
      ((fetch final.insts final.state.userState.pc = none ∧
          result = .ok (final.state.userState.regfile.read RiscVRegister.A0).toInt) ∨
        ∃ inst msg, fetch final.insts final.state.userState.pc = some inst ∧
          final.state.applyInst conv inst = .error msg ∧ result = .error msg) := by
  induction fuel generalizing program with
  | zero => cases finished
  | succ fuel ih =>
    cases fetched : fetch program.insts program.state.userState.pc with
    | none =>
      rw [run_of_halted fuel fetched] at finished
      exact ⟨0, program, fuel.succ_pos, .done program, .inl ⟨fetched, (Option.some.inj finished).symm⟩⟩
    | some inst =>
      cases applied : program.state.applyInst conv inst with
      | error msg =>
        rw [run_of_failed fuel fetched applied] at finished
        exact ⟨0, program, fuel.succ_pos, .done program,
          .inr ⟨inst, msg, fetched, applied, (Option.some.inj finished).symm⟩⟩
      | ok state =>
        have step : Step conv program { program with state } := .fetched fetched applied
        rw [run_of_step fuel step] at finished
        obtain ⟨n, final, bound, steps, stop⟩ := ih finished
        exact ⟨n + 1, final, by omega, .step step steps, stop⟩

theorem Step.stdout_prefix (step : Step conv program next) :
    program.state.privState.stdout <+: next.state.privState.stdout := by
  cases step with
  | fetched _ applied => exact ProgramState.stdout_prefix_applyDiff applied

/-- Over any number of passes, stdout is only appended to. -/
theorem Steps.stdout_appendOnly {n : Nat} (steps : Steps conv n program final) :
    program.state.privState.stdout <+: final.state.privState.stdout := by
  induction steps with
  | done => exact List.prefix_refl _
  | step step _ ih => exact step.stdout_prefix.trans ih

theorem stdout_appendOnly_li :
    let li : RiscVInst :=
      ⟨fun state => .UserStateChange (UserDiff.regWritePcP4 state.userState RiscVRegister.A0 7),
        0x00700513⟩
    ∃ final, Steps sampleConvention 1 (new [li] ⟨[], []⟩) final ∧
      (new [li] ⟨[], []⟩).state.privState.stdout <+: final.state.privState.stdout := by
  intro li
  have fetched : fetch [li] (textStart32 + BitVec.ofNat 32 (4 * 0)) = some li :=
    fetch_textStart_add (by decide)
  rw [Nat.mul_zero, BitVec.add_zero] at fetched
  have steps : Steps sampleConvention 1 (new [li] ⟨[], []⟩) _ :=
    .step (@Step.fetched _ (new [li] ⟨[], []⟩) li _ fetched (by rfl)) (.done _)
  exact ⟨_, steps, Steps.stdout_appendOnly steps⟩

theorem plus4_textStart_add (k : Nat) :
    plus4 (textStart32 + BitVec.ofNat 32 (4 * k)) = textStart32 + BitVec.ofNat 32 (4 * (k + 1)) := by
  rw [plus4, BitVec.add_assoc, Nat.mul_succ, ← BitVec.ofNat_add_ofNat]
  rfl

/-- `inst` moves the pc to the next word whenever it applies: it neither jumps nor branches. -/
def Advances (conv : SyscallConvention RiscVRegister 32) (inst : RiscVInst) : Prop :=
  ∀ state next : ProgramState RiscVRegister 32, state.applyInst conv inst = .ok next →
    next.userState.pc = plus4 state.userState.pc

theorem advances_of_eval {inst : RiscVInst}
    (nextWord : ∀ state, (∃ kind, inst.eval state = .Trap kind) ∨
      ∃ diff : UserDiff RiscVRegister 32, inst.eval state = .UserStateChange diff ∧
        diff.pc.newPc = plus4 state.userState.pc) :
    Advances conv inst := by
  intro state next applied
  rcases nextWord state with ⟨kind, trap⟩ | ⟨diff, change, newPc⟩
  · exact ProgramState.pc_applyDiff_trap (show state.applyDiff conv (.Trap kind) = _ from trap ▸ applied)
  · rw [ProgramState.applyInst, show ConcreteInst.apply inst state = _ from change] at applied
    obtain rfl := (Except.ok.inj applied).symm
    exact newPc

theorem run_from_word {insts : List RiscVInst} (advances : ∀ inst ∈ insts, Advances conv inst)
    (noWrap : 4 * insts.length < 2 ^ 32) (extra : Nat) :
    ∀ m k (state : ProgramState RiscVRegister 32), k + m = insts.length →
      state.userState.pc = textStart32 + BitVec.ofNat 32 (4 * k) →
      run conv (m + 1 + extra) ⟨insts, state⟩ =
        some ((fun final => (final.userState.regfile.read RiscVRegister.A0).toInt) <$>
          (insts.drop k).foldlM (fun state inst => state.applyInst conv inst) state)
  | 0, k, state, length, pc => by
    obtain rfl : k = insts.length := length
    have halted : fetch insts state.userState.pc = none := by
      rw [pc, fetch_textStart_add noWrap]
      exact List.getElem?_eq_none (Nat.le_refl _)
    rw [Nat.zero_add, Nat.add_comm, @run_of_halted conv ⟨insts, state⟩ extra halted,
      List.drop_length]
    rfl
  | m + 1, k, state, length, pc => by
    have inRange : k < insts.length := length ▸ Nat.lt_add_of_pos_right m.succ_pos
    have fetched : fetch insts state.userState.pc = some insts[k] := by
      rw [pc, fetch_textStart_add (by omega), List.getElem?_eq_getElem inRange]
    rw [List.drop_eq_getElem_cons inRange, List.foldlM_cons, Nat.add_right_comm _ 1 extra]
    cases applied : state.applyInst conv insts[k] with
    | error msg => rw [@run_of_failed conv ⟨insts, state⟩ _ _ _ fetched applied]; rfl
    | ok next =>
      rw [run_of_step _ (@Step.fetched conv ⟨insts, state⟩ _ _ fetched applied)]
      have moved := advances _ (List.getElem_mem inRange) state next applied
      exact run_from_word advances noWrap extra m (k + 1) next
        ((Nat.add_right_comm k 1 m).trans length) (by rw [moved, pc, plus4_textStart_add])

/-- A loaded program whose instructions all advance runs each once, in order, and returns `a0`. -/
theorem run_new_of_advances (insts : List RiscVInst) (sections : SectionStore)
    (advances : ∀ inst ∈ insts, Advances conv inst) (noWrap : 4 * insts.length < 2 ^ 32)
    (extra : Nat) :
    run conv (insts.length + 1 + extra) (new insts sections) =
      some ((fun final => (final.userState.regfile.read RiscVRegister.A0).toInt) <$>
        insts.foldlM (fun state inst => state.applyInst conv inst) (new insts sections).state) :=
  run_from_word advances noWrap extra insts.length 0 _ (Nat.zero_add _)
    (by rw [Nat.mul_zero, BitVec.add_zero])

theorem run_new_of_advances_li :
    let li : RiscVInst :=
      ⟨fun state => .UserStateChange (UserDiff.regWritePcP4 state.userState RiscVRegister.A0 7),
        0x00700513⟩
    (∀ inst ∈ [li], Advances sampleConvention inst) ∧ 4 * [li].length < 2 ^ 32 ∧
      run sampleConvention ([li].length + 1 + 0) (new [li] ⟨[], []⟩) = some (.ok 7) := by
  intro li
  have advances : ∀ inst ∈ [li], Advances sampleConvention inst := by
    simp only [List.mem_singleton, forall_eq]
    exact advances_of_eval fun state => .inr ⟨_, rfl, rfl⟩
  exact ⟨advances, by decide, by rw [run_new_of_advances _ _ advances (by decide) 0]; rfl⟩

end RiscVProgram

end Duna
