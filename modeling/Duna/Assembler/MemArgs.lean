import Duna.Assembler.Safety

/-! The arguments of a memory operation, read by `consume_mem_args`. -/

namespace Duna.Assembler

/-- What follows the first register and its optional comma, with `rest` after it. -/
inductive MemTail (imm second : Token) : List Token → List Token → Prop
  | bare (rest : List Token) : MemTail imm second (imm :: second :: rest) rest
  | paren (lp rp : Location) (rest : List Token) :
      MemTail imm second (imm :: ⟨.LParen, lp⟩ :: second :: ⟨.RParen, rp⟩ :: rest) rest

namespace InstParser

variable {Inst : Type} (self : InstParser Inst)

theorem tryNextTok_ok {n k : Nat} {ts st : List Token} {tok : Token}
    (ok : self.tryNextTok n k ts = .ok (tok, st)) : ts = tok :: st := by
  rcases ts with _ | ⟨t, ts⟩
  · cases ok
  · cases ok; rfl

theorem tryPeekTok_ok {n k : Nat} {ts st : List Token} {tok : Token}
    (ok : self.tryPeekTok n k ts = .ok (tok, st)) : st = ts ∧ ∃ rest, ts = tok :: rest := by
  rcases ts with _ | ⟨t, ts⟩
  · cases ok
  · cases ok; exact ⟨rfl, ts, rfl⟩

theorem name_of_tryParseReg_ok {tok : Token} {reg : RiscVRegister}
    (ok : self.tryParseReg tok = .ok reg) : ∃ name, tok.data = .Name name := by
  rcases tok with ⟨_ | _ | _ | _ | _ | _ | _ | _, loc⟩ <;> first | exact ⟨_, rfl⟩ | cases ok

theorem commaStep {γ : Type} (tok : Token) (rest : List Token) (k : PUnit → InstParserM γ) :
    (if tok.data = .Comma then modify List.tail >>= k else pure PUnit.unit >>= k) (tok :: rest) =
      k () (skipComma (tok :: rest)) := by
  rcases tok with ⟨_ | _ | _ | _ | _ | _ | _ | _, loc⟩ <;> rfl

theorem parenStep {γ : Type} (tok : Token) (rest : List Token) (k : Bool → InstParserM γ) :
    (if tok.data = TokenType.LParen then do modify List.tail; let y ← pure true; k y
      else do let y ← pure false; k y) (tok :: rest) =
      if tok.data = .LParen then k true rest else k false (tok :: rest) := by
  by_cases lparen : tok.data = .LParen <;> simp only [lparen, if_true, if_false] <;> rfl

theorem consumeMemArgs_sound {ts st : List Token} {args : MemArgs}
    (ok : self.consumeMemArgs ts = .ok (args, st)) :
    ∃ first rest1 imm second rest, ts = first :: rest1 ∧ MemTail imm second (skipComma rest1) rest ∧
      LineEnd rest ∧ self.tryParseReg first = .ok args.firstReg ∧ tryParseImm 12 imm = .ok args.imm ∧
      self.tryParseReg second = .ok args.secondReg := by
  unfold consumeMemArgs at ok
  obtain ⟨first, rest1, next1, afterFirst⟩ := stateT_bind_ok ok
  obtain ⟨r1, s1, regStep1, afterReg⟩ := stateT_bind_ok afterFirst
  obtain ⟨comma, s2, peeked, afterPeek⟩ := stateT_bind_ok afterReg
  obtain ⟨reg1, rfl⟩ := stateT_liftM_ok regStep1
  obtain ⟨rfl, rest1, rfl⟩ := self.tryPeekTok_ok peeked
  obtain rfl := self.tryNextTok_ok next1
  lift_lets at afterPeek
  extract_lets afterComma at afterPeek
  rw [commaStep] at afterPeek
  generalize tailEq : skipComma (comma :: rest1) = tail at afterPeek
  simp -zeta only [afterComma] at afterPeek
  obtain ⟨immTok, s3, next2, afterImmTok⟩ := stateT_bind_ok afterPeek
  obtain ⟨imm, s4, immStep, afterImm⟩ := stateT_bind_ok afterImmTok
  lift_lets at afterImm
  extract_lets afterParen at afterImm
  obtain ⟨paren, s5, peeked2, afterPeek2⟩ := stateT_bind_ok afterImm
  obtain ⟨immOk, rfl⟩ := stateT_liftM_ok immStep
  obtain ⟨rfl, rest2, rfl⟩ := self.tryPeekTok_ok peeked2
  obtain rfl := self.tryNextTok_ok next2
  have closeOk : ∀ {r2 : RiscVRegister} {s : List Token},
      (self.checkNoMoreArgs 3 >>= fun _ => pure ⟨r1, r2, imm⟩ : InstParserM MemArgs) s = .ok (args, st) →
      LineEnd s ∧ args = ⟨r1, r2, imm⟩ := by
    intro r2 s closed
    obtain ⟨_, s', checked, done⟩ := stateT_bind_ok closed
    cases done
    exact ⟨(self.checkNoMoreArgs_ok_iff 3 s).mp ⟨_, checked⟩, rfl⟩
  rw [parenStep] at afterPeek2
  split at afterPeek2
  case isTrue lparen =>
    simp -zeta only [afterParen] at afterPeek2
    obtain ⟨reg2Tok, s6, next3, afterReg2Tok⟩ := stateT_bind_ok afterPeek2
    obtain ⟨r2, s7, regStep2, afterReg2⟩ := stateT_bind_ok afterReg2Tok
    lift_lets at afterReg2
    extract_lets close at afterReg2
    rw [if_pos trivial] at afterReg2
    obtain ⟨rparen, s8, next4, afterRparen⟩ := stateT_bind_ok afterReg2
    obtain ⟨reg2, rfl⟩ := stateT_liftM_ok regStep2
    obtain rfl := self.tryNextTok_ok next3
    obtain rfl := self.tryNextTok_ok next4
    split at afterRparen
    · obtain ⟨_, _, unclosed, -⟩ := stateT_bind_ok afterRparen
      cases unclosed
    case isFalse closing =>
      obtain ⟨_, s9, unit, closed⟩ := stateT_bind_ok afterRparen
      cases unit
      obtain ⟨lineEnd, rfl⟩ := closeOk closed
      obtain ⟨_, lp⟩ := paren
      obtain ⟨_, rp⟩ := rparen
      obtain rfl : _ = TokenType.LParen := lparen
      obtain rfl : _ = TokenType.RParen := not_not.mp closing
      exact ⟨first, comma :: rest1, immTok, reg2Tok, _, rfl, tailEq ▸ .paren lp rp _, lineEnd, reg1,
        immOk, reg2⟩
  case isFalse bare =>
    simp -zeta only [afterParen] at afterPeek2
    obtain ⟨reg2Tok, s6, next3, afterReg2Tok⟩ := stateT_bind_ok afterPeek2
    obtain ⟨r2, s7, regStep2, afterReg2⟩ := stateT_bind_ok afterReg2Tok
    lift_lets at afterReg2
    extract_lets close at afterReg2
    rw [if_neg Bool.false_ne_true] at afterReg2
    obtain ⟨_, s9, unit, closed⟩ := stateT_bind_ok afterReg2
    cases unit
    obtain ⟨reg2, rfl⟩ := stateT_liftM_ok regStep2
    obtain ⟨lineEnd, rfl⟩ := closeOk closed
    obtain ⟨rfl, rfl⟩ := List.cons_eq_cons.mp (self.tryNextTok_ok next3)
    exact ⟨first, comma :: rest1, immTok, paren, _, rfl, tailEq ▸ .bare _, lineEnd, reg1, immOk, reg2⟩

theorem consumeMemArgs_complete {first imm second : Token} {rest1 rest : List Token}
    {r1 r2 : RiscVRegister} {immVal : DataWord} (tail : MemTail imm second (skipComma rest1) rest)
    (lineEnd : LineEnd rest) (reg1 : self.tryParseReg first = .ok r1)
    (immOk : tryParseImm 12 imm = .ok immVal) (reg2 : self.tryParseReg second = .ok r2) :
    ∃ st, self.consumeMemArgs (first :: rest1) = .ok (⟨r1, r2, immVal⟩, st) := by
  obtain ⟨st, checked⟩ := (self.checkNoMoreArgs_ok_iff 3 rest).mpr lineEnd
  refine ⟨st, ?_⟩
  rcases rest1 with _ | ⟨comma, rest1⟩
  · cases tail
  unfold consumeMemArgs
  rw [stateT_bind_of_ok (rfl : self.tryNextTok 3 0 (first :: comma :: rest1) = _),
    stateT_bind_of_ok (stateT_liftM_of_ok reg1)]
  lift_lets
  intro afterComma
  rw [stateT_bind_of_ok (rfl : self.tryPeekTok 3 1 (comma :: rest1) = _), commaStep]
  generalize skipComma (comma :: rest1) = tailList at tail
  simp -zeta only [afterComma]
  have close : ∀ r2 : RiscVRegister,
      (self.checkNoMoreArgs 3 >>= fun _ => pure ⟨r1, r2, immVal⟩ : InstParserM MemArgs) rest =
        .ok (⟨r1, r2, immVal⟩, st) := fun _ => by rw [stateT_bind_of_ok checked]; rfl
  cases tail with
  | bare =>
    obtain ⟨name, named⟩ := self.name_of_tryParseReg_ok reg2
    rw [stateT_bind_of_ok (rfl : self.tryNextTok 3 1 (imm :: second :: rest) = _),
      stateT_bind_of_ok (stateT_liftM_of_ok immOk),
      stateT_bind_of_ok (rfl : self.tryPeekTok 3 2 (second :: rest) = _),
      if_neg (by rw [named]; nofun), stateT_bind_of_ok rfl]
    beta_reduce
    rw [stateT_bind_of_ok (rfl : self.tryNextTok 3 2 (second :: rest) = _),
      stateT_bind_of_ok (stateT_liftM_of_ok reg2), if_neg Bool.false_ne_true, stateT_bind_of_ok rfl]
    exact close r2
  | paren lp rp =>
    rw [stateT_bind_of_ok (rfl : self.tryNextTok 3 1 (imm :: _) = _),
      stateT_bind_of_ok (stateT_liftM_of_ok immOk),
      stateT_bind_of_ok (rfl : self.tryPeekTok 3 2 (⟨.LParen, lp⟩ :: _) = _), if_pos rfl,
      stateT_bind_of_ok rfl, stateT_bind_of_ok rfl]
    beta_reduce
    rw [List.tail_cons, stateT_bind_of_ok (rfl : self.tryNextTok 3 2 (second :: _) = _),
      stateT_bind_of_ok (stateT_liftM_of_ok reg2), if_pos rfl,
      stateT_bind_of_ok (rfl : self.tryNextTok 3 2 (⟨.RParen, rp⟩ :: rest) = _),
      if_neg (by simp), stateT_bind_of_ok rfl]
    exact close r2

/-- `consume_mem_args` accepts exactly `first imm second` or `first imm ( second )` after at most
one comma, then a line end; a comma after the immediate is refused, with or without the first. -/
theorem consumeMemArgs_ok_iff :
    (∀ (ts : List Token) (args : MemArgs), (∃ st, self.consumeMemArgs ts = .ok (args, st)) ↔
      ∃ first rest1 imm second rest, ts = first :: rest1 ∧
        MemTail imm second (skipComma rest1) rest ∧ LineEnd rest ∧
        self.tryParseReg first = .ok args.firstReg ∧ tryParseImm 12 imm = .ok args.imm ∧
        self.tryParseReg second = .ok args.secondReg) ∧
    ∀ (first imm second : Token) (comma : Option Location) (loc : Location) (rest : List Token),
      ∃ e, self.consumeMemArgs (first :: ((comma.toList.map fun commaLoc => ⟨.Comma, commaLoc⟩) ++
        imm :: ⟨.Comma, loc⟩ :: second :: rest)) = .error (.error e) := by
  refine ⟨fun ts args => ⟨fun ⟨_, ok⟩ => self.consumeMemArgs_sound ok, ?_⟩, ?_⟩
  · rintro ⟨first, rest1, imm, second, rest, rfl, tail, lineEnd, reg1, immOk, reg2⟩
    exact self.consumeMemArgs_complete tail lineEnd reg1 immOk reg2
  · intro first imm second comma loc rest
    cases run : self.consumeMemArgs _ with
    | error failure =>
      cases failure with
      | error e => exact ⟨e, rfl⟩
      | panic msg => exact absurd run ((self.consumeMemArgs_safe _).1 msg)
    | ok result =>
      obtain ⟨_, _, _, _, _, same, tail, -, -, immOk, reg2⟩ := self.consumeMemArgs_sound run
      obtain ⟨-, rfl⟩ := List.cons_eq_cons.mp same
      obtain ⟨name, named⟩ := self.name_of_tryParseReg_ok reg2
      rcases comma with _ | commaLoc
      · rcases imm with ⟨_ | _ | _ | _ | _ | _ | _ | _, immLoc⟩ <;> cases tail <;>
          first | cases named | cases immOk
      · cases tail
        cases named

end InstParser

end Duna.Assembler
