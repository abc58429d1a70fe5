import Duna.Assembler.MemArgs
import Duna.Assembler.Labels

/-! What each rule of the assembler may emit, and the blocks the line loop gathers. -/

namespace Duna.Assembler

variable {Inst : Type}

/-- An immediate that `try_parse_imm(n, _)` takes for `1 ≤ n ≤ 31`. -/
def ImmFits (n : Nat) (imm : DataWord) : Prop :=
  -2 ^ (n - 1) ≤ imm.toInt ∧ imm.toInt ≤ 2 ^ n - 1

instance (n : Nat) (imm : DataWord) : Decidable (ImmFits n imm) :=
  inferInstanceAs (Decidable (_ ∧ _))

open PartialInst in
/-- The instructions one line of a rule may become. -/
inductive Emits (data : ParserData Inst) : ParseType Inst → List (PartialInst Inst) → Prop
  | r {new} (rd rs1 rs2 : RiscVRegister) : Emits data (.R new) [newComplete (new rd rs1 rs2)]
  | arith {new} (rd rs1 : RiscVRegister) {imm : DataWord} :
      ImmFits 12 imm → Emits data (.Arith new) [newComplete (new rd rs1 imm)]
  | env {new} : Emits data (.Env new) [newComplete (new ())]
  | memL {new} (rd rs1 : RiscVRegister) {imm : DataWord} :
      ImmFits 12 imm → Emits data (.MemL new) [newComplete (new rd rs1 imm)]
  | memS {new} (rs1 rs2 : RiscVRegister) {imm : DataWord} :
      ImmFits 12 imm → Emits data (.MemS new) [newComplete (new rs1 rs2 imm)]
  | bImm {new} (rs1 rs2 : RiscVRegister) {imm : DataWord} :
      ImmFits 13 imm → imm &&& 1 = 0 → Emits data (.B new) [newComplete (new rs1 rs2 imm)]
  | bLabel {new} (rs1 rs2 : RiscVRegister) (target : Label) :
      Emits data (.B new) [newTwoRegNeedsLabel new rs1 rs2 target]
  | jalImm {imm : DataWord} :
      ImmFits 20 imm → Emits data .Jal [newComplete (data.jalPseudoExpand imm)]
  | jalLabel (target : Label) : Emits data .Jal [newNoRegNeedsLabel data.jalPseudoExpand target]
  | jalRdImm (rd : RiscVRegister) {imm : DataWord} :
      ImmFits 20 imm → Emits data .Jal [newComplete (data.jalNew rd imm)]
  | jalRdLabel (rd : RiscVRegister) (target : Label) :
      Emits data .Jal [newOneRegNeedsLabel data.jalNew rd target]
  | jalrPseudo (rs : RiscVRegister) : Emits data .Jalr [newComplete (data.jalrPseudoExpand rs)]
  | jalr (rd rs1 : RiscVRegister) {imm : DataWord} :
      ImmFits 12 imm → Emits data .Jalr [newComplete (data.jalrNew rd rs1 imm)]
  | u {new} (rd : RiscVRegister) {imm : DataWord} :
      ImmFits 20 imm → Emits data (.U new) [newComplete (new rd imm)]
  | li (rd : RiscVRegister) (imm : DataWord) :
      Emits data .Li ((data.liExpand rd imm).map newComplete)
  | regReg {expand} (rd rs : RiscVRegister) : Emits data (.RegReg expand) [newComplete (expand rd rs)]
  | noArgs {expand} : Emits data (.NoArgs expand) [newComplete (expand ())]
  | oneReg {expand} (rs : RiscVRegister) : Emits data (.OneReg expand) [newComplete (expand rs)]
  | likeJImm {expand} {imm : DataWord} :
      ImmFits 20 imm → Emits data (.LikeJ expand) [newComplete (expand imm)]
  | likeJLabel {expand} (target : Label) :
      Emits data (.LikeJ expand) [newNoRegNeedsLabel expand target]

namespace InstParser

variable (self : InstParser Inst)

theorem tryParseImm_fits {n : Nat} (positive : 1 ≤ n) (below : n ≤ 31) (token : Token) :
    Safe (ImmFits n) (tryParseImm n token) := by
  refine ⟨(tryParseImm_safe positive (by omega) token).1, fun imm ok => ?_⟩
  rcases token with ⟨_ | _ | _ | _ | _ | ⟨val, radix⟩ | _ | _, loc⟩
  case mk.Immediate =>
    rw [tryParseImm_immediate n val radix loc positive below] at ok
    split_ifs at ok with fits
    · cases ok
      exact fits
    · cases ok
  all_goals cases ok

theorem popImm_fits {args : List Token} {n k : Nat} (positive : 1 ≤ n) (below : n ≤ 31)
    (length : args.length = k + 1) :
    Safe (fun r => r.2.length = k ∧ ImmFits n r.1) (popImm n args) :=
  Safe.bind (remove0_safe length) fun r rest =>
    Safe.bind (tryParseImm_fits positive below r.1) fun _ fits => Safe.ok ⟨rest, fits⟩

theorem tryParseImmOrLabelRef_fits {n : Nat} (positive : 1 ≤ n) (below : n ≤ 31) (token : Token) :
    Safe (fun r => ∀ imm, r = .Imm imm → ImmFits n imm) (tryParseImmOrLabelRef n token) := by
  unfold tryParseImmOrLabelRef
  split
  · exact Safe.ok nofun
  · exact Safe.bind (tryParseImm_fits positive below token) fun _ fits =>
      Safe.ok fun _ same => by cases same; exact fits

theorem popImmOrLabel_fits {args : List Token} {n k : Nat} (positive : 1 ≤ n) (below : n ≤ 31)
    (length : args.length = k + 1) :
    Safe (fun r => r.2.length = k ∧ ∀ imm, r.1 = .Imm imm → ImmFits n imm)
      (popImmOrLabel n args) :=
  Safe.bind (remove0_safe length) fun r rest =>
    Safe.bind (tryParseImmOrLabelRef_fits positive below r.1) fun _ fits => Safe.ok ⟨rest, fits⟩

theorem consumeMemArgs_fits : SafeStep (fun args => ImmFits 12 args.imm) self.consumeMemArgs :=
  fun _ => ⟨(self.consumeMemArgs_safe _).1, fun ⟨_, _⟩ ok => by
    obtain ⟨_, _, _, _, _, _, _, _, _, immOk, _⟩ := self.consumeMemArgs_sound ok
    exact (tryParseImm_fits (by decide) (by decide) _).2 _ immOk⟩

/-- Every rule emits what `Emits` allows it, and none panics. -/
theorem tryExpandFoundInst_emits (parseType : ParseType Inst) :
    SafeStep (Emits self.data parseType) (self.tryExpandFoundInst parseType) := by
  cases parseType <;> unfold tryExpandFoundInst
  case R instNew =>
    refine .bind (self.consumeCommasepArgs_safe 3) fun args length => ?_
    refine .bind (.lift (self.popReg_safe length)) fun ⟨rd, args⟩ length => ?_
    refine .bind (.lift (self.popReg_safe length)) fun ⟨rs1, args⟩ length => ?_
    exact .bind (.lift (self.popReg_safe length)) fun ⟨rs2, _⟩ _ => .pure (.r rd rs1 rs2)
  case Arith instNew =>
    refine .bind (self.consumeCommasepArgs_safe 3) fun args length => ?_
    refine .bind (.lift (self.popReg_safe length)) fun ⟨rd, args⟩ length => ?_
    refine .bind (.lift (self.popReg_safe length)) fun ⟨rs1, args⟩ length => ?_
    exact .bind (.lift (popImm_fits (by decide) (by decide) length)) fun _ ⟨_, fits⟩ =>
      .pure (.arith rd rs1 fits)
  case Env instNew =>
    exact .bind (self.consumeCommasepArgs_safe 0) fun _ _ => .pure .env
  case NoArgs instExpand =>
    exact .bind (self.consumeCommasepArgs_safe 0) fun _ _ => .pure .noArgs
  case MemL instNew =>
    exact .bind self.consumeMemArgs_fits fun args fits => .pure (.memL _ _ fits)
  case MemS instNew =>
    exact .bind self.consumeMemArgs_fits fun args fits => .pure (.memS _ _ fits)
  case B instNew =>
    refine .bind (self.consumeCommasepArgs_safe 3) fun args length => ?_
    refine .bind (.lift (self.popReg_safe length)) fun ⟨rs1, args⟩ length => ?_
    refine .bind (.lift (self.popReg_safe length)) fun ⟨rs2, args⟩ length => ?_
    refine .bind (.lift (popImmOrLabel_fits (by decide) (by decide) length))
      fun ⟨lastArg, _⟩ ⟨_, fits⟩ => ?_
    cases lastArg with
    | Imm imm =>
      dsimp only
      split
      · exact .error _
      · exact .pure (.bImm rs1 rs2 (fits imm rfl) (not_not.mp ‹_›))
    | Label target => exact .pure (.bLabel rs1 rs2 target)
  case Jal =>
    refine .bind consumeUnboundedCommasepArgs_safe fun args _ => ?_
    dsimp only
    split
    case h_1 one =>
      refine .bind (.lift (popImmOrLabel_fits (by decide) (by decide) one))
        fun ⟨lastArg, _⟩ ⟨_, fits⟩ => ?_
      cases lastArg with
      | Imm imm => exact .pure (.jalImm (fits imm rfl))
      | Label target => exact .pure (.jalLabel target)
    case h_2 two =>
      refine .bind (.lift (self.popReg_safe two)) fun ⟨rd, args⟩ length => ?_
      refine .bind (.lift (popImmOrLabel_fits (by decide) (by decide) length))
        fun ⟨lastArg, _⟩ ⟨_, fits⟩ => ?_
      cases lastArg with
      | Imm imm => exact .pure (.jalRdImm rd (fits imm rfl))
      | Label target => exact .pure (.jalRdLabel rd target)
    case h_3 => exact .error _
  case Jalr =>
    refine .bind consumeUnboundedCommasepArgs_safe fun args _ => ?_
    dsimp only
    split
    case h_1 one =>
      exact .bind (.lift (self.popReg_safe one)) fun ⟨rs, _⟩ _ => .pure (.jalrPseudo rs)
    case h_2 three =>
      refine .bind (.lift (self.popReg_safe three)) fun ⟨rd, args⟩ length => ?_
      refine .bind (.lift (self.popReg_safe length)) fun ⟨rs1, args⟩ length => ?_
      exact .bind (.lift (popImm_fits (by decide) (by decide) length)) fun _ ⟨_, fits⟩ =>
        .pure (.jalr rd rs1 fits)
    case h_3 => exact .error _
  case U instNew =>
    refine .bind (self.consumeCommasepArgs_safe 2) fun args length => ?_
    refine .bind (.lift (self.popReg_safe length)) fun ⟨rd, args⟩ length => ?_
    exact .bind (.lift (popImm_fits (by decide) (by decide) length)) fun _ ⟨_, fits⟩ =>
      .pure (.u rd fits)
  case Li =>
    refine .bind (self.consumeCommasepArgs_safe 2) fun args length => ?_
    refine .bind (.lift (self.popReg_safe length)) fun ⟨rd, args⟩ length => ?_
    exact .bind (.lift (popImm_safe (by decide) (by decide) length)) fun ⟨imm, _⟩ _ =>
      .pure (.li rd imm)
  case RegReg instExpand =>
    refine .bind (self.consumeCommasepArgs_safe 2) fun args length => ?_
    refine .bind (.lift (self.popReg_safe length)) fun ⟨rd, args⟩ length => ?_
    exact .bind (.lift (self.popReg_safe length)) fun ⟨rs, _⟩ _ => .pure (.regReg rd rs)
  case LikeJ instExpand =>
    refine .bind (self.consumeCommasepArgs_safe 1) fun args length => ?_
    refine .bind (.lift (popImmOrLabel_fits (by decide) (by decide) length))
      fun ⟨lastArg, _⟩ ⟨_, fits⟩ => ?_
    cases lastArg with
    | Imm imm => exact .pure (.likeJImm (fits imm rfl))
    | Label target => exact .pure (.likeJLabel target)
  case OneReg instExpand =>
    refine .bind (self.consumeCommasepArgs_safe 1) fun args length => ?_
    exact .bind (.lift (self.popReg_safe length)) fun ⟨rs, _⟩ _ => .pure (.oneReg rs)

theorem tryExpandInst_emits :
    SafeStep (fun ps => ∃ rule, self.data.instExpansionTable self.instName = some rule ∧
      Emits self.data rule ps) self.tryExpandInst := by
  unfold tryExpandInst
  split
  case h_1 rule found =>
    intro ts
    exact ⟨(self.tryExpandFoundInst_emits rule ts).1, fun r ok =>
      ⟨rule, found, (self.tryExpandFoundInst_emits rule ts).2 r ok⟩⟩
  case h_2 => exact SafeStep.error _

end InstParser

/-- The instruction name of a line, after a label defined at its head. -/
def headName : List Token → Option String
  | ⟨.LabelDef _, _⟩ :: ⟨.Name name, _⟩ :: _ => some name
  | ⟨.Name name, _⟩ :: _ => some name
  | _ => none

/-- A block of a line's own instructions: nothing, or what the rule of its head name emits. -/
def BlockOf (data : ParserData Inst) (line : List Token) (out : List (PartialInst Inst)) : Prop :=
  out = [] ∨ ∃ name rule, headName line = some name ∧
    data.instExpansionTable name = some rule ∧ Emits data rule out

/-- The blocks of the line loop, one a line in line order, from the label `waits` waiting at the
first line: a line adds its own instructions, or nothing when it is reported for its own error
or for a label defined while another waits. -/
inductive LinesEmit (data : ParserData Inst) :
    Option Label → List (List Token) → List (List (PartialInst Inst)) → Prop
  | nil (waits : Option Label) : LinesEmit data waits [] []
  | own {waits : Option Label} {line : List Token} {lines : List (List Token)}
      {out : List (PartialInst Inst)} {outs : List (List (PartialInst Inst))} :
      (waits = none ∨ lineLabel line = none) → lineInsts data line = .ok out →
      BlockOf data line out →
      LinesEmit data (if out.isEmpty then waits.or (lineLabel line) else none) lines outs →
      LinesEmit data waits (line :: lines) (out :: outs)
  | ownError {waits : Option Label} {line : List Token} {lines : List (List Token)}
      {outs : List (List (PartialInst Inst))} (e : ParseError) :
      lineInsts data line = .error (.error e) → LinesEmit data waits lines outs →
      LinesEmit data waits (line :: lines) ([] :: outs)
  | clash {l : Label} {line : List Token} {lines : List (List Token)}
      {outs : List (List (PartialInst Inst))} :
      lineLabel line ≠ none → LinesEmit data (some l) lines outs →
      LinesEmit data (some l) (line :: lines) ([] :: outs)

/-- The blocks `LinesEmit` gives are determined by the lines. -/
theorem LinesEmit.unique {data : ParserData Inst} {waits : Option Label}
    {lines : List (List Token)} {outs outs' : List (List (PartialInst Inst))}
    (spec : LinesEmit data waits lines outs) (spec' : LinesEmit data waits lines outs') :
    outs = outs' := by
  induction spec generalizing outs' with
  | nil => cases spec'; rfl
  | own noClash own _ _ ih =>
    cases spec' with
    | own _ own' _ rest' =>
      obtain rfl := Except.ok.inj (own.symm.trans own')
      rw [ih rest']
    | ownError e err _ => cases own.symm.trans err
    | clash defines _ => simp [defines] at noClash
  | ownError e err _ ih =>
    cases spec' with
    | own _ own' _ _ => cases own'.symm.trans err
    | ownError _ _ rest' => rw [ih rest']
    | clash _ rest' => rw [ih rest']
  | clash defines _ ih =>
    cases spec' with
    | own noClash _ _ _ => simp [defines] at noClash
    | ownError _ _ rest' => rw [ih rest']
    | clash _ rest' => rw [ih rest']

theorem LineParser.parse_emitted (lp : LineParser Inst) {ps : List (PartialInst Inst)}
    (ok : lp.parse.2 = .ok ps) :
    ps = [] ∨ ∃ name loc rest rule, lp.iter = ⟨.Name name, loc⟩ :: rest ∧
      lp.data.instExpansionTable name = some rule ∧ Emits lp.data rule ps := by
  rcases lp with ⟨data, _ | ⟨⟨_ | _ | _ | _ | _ | _ | _ | _, loc⟩, rest⟩, label⟩ <;>
    simp only [LineParser.parse] at ok
  case mk.cons.mk.Name name =>
    cases run : (InstParser.mk data loc name).tryExpandInst rest with
    | error e => simp [run, Functor.map, Except.map] at ok
    | ok r =>
      simp only [run, Functor.map, Except.map, Except.ok.injEq] at ok
      obtain ⟨rule, found, emits⟩ :=
        ((InstParser.mk data loc name).tryExpandInst_emits rest).2 r run
      exact .inr ⟨name, loc, rest, rule, rfl, found, ok ▸ emits⟩
  all_goals (cases ok; try exact .inl rfl)

theorem headName_of_new {data : ParserData Inst} {line rest : List Token} {name : String}
    {loc : Location} (iter : (LineParser.new data line none).iter = ⟨.Name name, loc⟩ :: rest) :
    headName line = some name := by
  rcases line with _ | ⟨⟨_ | _ | _ | _ | _ | _ | _ | _, loc'⟩, ts⟩
  case cons.mk.LabelDef =>
    obtain rfl : ts = _ := iter
    rfl
  case cons.mk.Name =>
    cases iter
    rfl
  all_goals cases iter

theorem lineInsts_emits {data : ParserData Inst} {line : List Token} {ps : List (PartialInst Inst)}
    (ok : lineInsts data line = .ok ps) : BlockOf data line ps := by
  rcases LineParser.parse_emitted _ ok with empty | ⟨name, loc, rest, rule, iter, found, emits⟩
  · exact .inl empty
  · exact .inr ⟨name, rule, headName_of_new iter, found, emits⟩

/-- The line loop adds the blocks `LinesEmit` gives its lines. -/
theorem parseLines_linesEmit (data : ParserData Inst) :
    ∀ (lines : List (List Token)) (lastLabel : Option Label) (insts : List (PartialInst Inst))
      (report : List ParseError) {result : ParseResult Inst},
      parseLines data lines lastLabel insts report = .ok result →
      ∃ outs, LinesEmit data lastLabel lines outs ∧
        result.insts.map PartialInst.body =
          insts.map PartialInst.body ++ outs.flatten.map PartialInst.body
  | [], lastLabel, _, _, _, ok => by cases ok; exact ⟨[], .nil lastLabel, by simp⟩
  | line :: lines, lastLabel, insts, report, result, ok => by
    rw [parseLines_cons] at ok
    by_cases clash : lastLabel ≠ none ∧ lineLabel line ≠ none
    case pos =>
      obtain ⟨l, rfl⟩ := Option.ne_none_iff_exists'.mp clash.1
      obtain ⟨e, err⟩ := LineParser.parse_new_clash data line l clash.2
      generalize (LineParser.new data line (some l)).parse = parsed at ok err
      obtain ⟨foundLabel, parseResult⟩ := parsed
      obtain rfl : parseResult = _ := err
      obtain ⟨outs, rest, bodies⟩ := parseLines_linesEmit data lines _ _ _ ok
      exact ⟨[] :: outs, .clash clash.2 rest, by simpa using bodies⟩
    case neg =>
      have noClash := (not_and_or.mp clash).imp not_not.mp not_not.mp
      rw [LineParser.parse_new_of_noClash data line lastLabel noClash] at ok
      rcases own : lineInsts data line with (e | msg) | out <;> rw [own] at ok
      case error.error =>
        obtain ⟨outs, rest, bodies⟩ := parseLines_linesEmit data lines _ _ _ ok
        exact ⟨[] :: outs, .ownError e own rest, by simpa using bodies⟩
      case error.panic => cases ok
      case ok =>
        dsimp only at ok
        split at ok
        case isTrue empty =>
          obtain rfl : out = [] := List.isEmpty_iff.mp empty
          obtain ⟨outs, rest, bodies⟩ := parseLines_linesEmit data lines _ _ _ ok
          exact ⟨[] :: outs, .own noClash own (.inl rfl) rest, by simpa using bodies⟩
        case isFalse nonempty =>
          obtain ⟨outs, rest, bodies⟩ := parseLines_linesEmit data lines _ _ _ ok
          exact ⟨out :: outs, .own noClash own (lineInsts_emits own) (by rwa [if_neg nonempty]),
            by simp [bodies, map_body_stickLabel]⟩

end Duna.Assembler
