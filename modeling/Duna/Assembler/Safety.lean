import Duna.Assembler.Args
import Duna.Assembler.Imm

/-! The assembler's parser never panics. -/

namespace Duna.Assembler

variable {Inst α β : Type}

/-- A computation that does not panic and whose results satisfy `post`. -/
def Safe (post : α → Prop) (e : Except Failure α) : Prop :=
  (∀ msg, e ≠ .error (.panic msg)) ∧ ∀ a, e = .ok a → post a

/-- A parse step that does not panic from any iterator, and whose results satisfy `post`. -/
def SafeStep (post : α → Prop) (m : InstParserM α) : Prop :=
  ∀ ts, Safe (fun r => post r.1) (m ts)

namespace Safe

variable {post : α → Prop}

theorem ok {a : α} (holds : post a) : Safe post (.ok a) :=
  ⟨fun _ same => (by cases same), fun _ same => by cases same; exact holds⟩

theorem error (e : ParseError) : Safe post (.error (.error e)) :=
  ⟨fun _ same => (by cases same), fun _ same => by cases same⟩

theorem bind {P : α → Prop} {Q : β → Prop} {x : Except Failure α} {f : α → Except Failure β}
    (first : Safe P x) (rest : ∀ a, P a → Safe Q (f a)) : Safe Q (x >>= f) := by
  cases run : x with
  | error e =>
    refine ⟨fun msg same => first.1 msg ?_, fun _ same => by cases same⟩
    rw [run]
    cases same
    rfl
  | ok a => exact rest a (first.2 a run)

end Safe

namespace SafeStep

theorem bind {P : α → Prop} {Q : β → Prop} {x : InstParserM α} {f : α → InstParserM β}
    (first : SafeStep P x) (rest : ∀ a, P a → SafeStep Q (f a)) : SafeStep Q (x >>= f) :=
  fun ts => Safe.bind (first ts) fun r holds => rest r.1 holds r.2

theorem pure {Q : α → Prop} {a : α} (holds : Q a) : SafeStep Q (Pure.pure a) :=
  fun _ => Safe.ok holds

theorem pure_true (a : α) : SafeStep (fun _ => True) (Pure.pure a) :=
  pure trivial

theorem lift {Q : α → Prop} {e : Except Failure α} (safe : Safe Q e) : SafeStep Q (liftM e) :=
  fun _ => Safe.bind safe fun _ holds => Safe.ok holds

theorem error {Q : α → Prop} (e : ParseError) :
    SafeStep Q (liftM (InstParser.reportError e : Except Failure α)) :=
  lift (Safe.error e)

theorem error_bind {Q : β → Prop} (e : ParseError) (f : α → InstParserM β) :
    SafeStep Q (liftM (InstParser.reportError e : Except Failure α) >>= f) :=
  bind (error e : SafeStep (fun _ => False) _) fun _ impossible => impossible.elim

theorem modify (f : List Token → List Token) : SafeStep (fun _ => True) (modify f) :=
  fun _ => Safe.ok trivial

end SafeStep

theorem remove0_safe {args : List α} {k : Nat} (length : args.length = k + 1) :
    Safe (fun r => r.2.length = k) (remove0 args) := by
  rcases args with _ | ⟨a, rest⟩
  · cases length
  · exact Safe.ok (by simpa using length)

/-- A rule's instructions, none of which carries a label yet: the line loop sets it. -/
def NoLabels (ps : List (PartialInst Inst)) : Prop := ∀ p ∈ ps, p.label = none

theorem noLabels_okWrapConcr (inst : Inst) : NoLabels (InstParser.okWrapConcr inst) := by
  simp [NoLabels, InstParser.okWrapConcr]

theorem noLabels_single {p : PartialInst Inst} (unlabelled : p.label = none) : NoLabels [p] := by
  simpa [NoLabels] using unlabelled

theorem noLabels_map_newComplete (insts : List Inst) :
    NoLabels (insts.map PartialInst.newComplete) := by
  simp [NoLabels]

namespace InstParser

variable (self : InstParser Inst)

theorem tryParseReg_safe (token : Token) : Safe (fun _ => True) (self.tryParseReg token) := by
  unfold tryParseReg
  split
  · split
    · exact Safe.ok trivial
    · exact Safe.error _
  · exact Safe.error _

theorem tryParseImm_safe {n : Nat} (positive : 1 ≤ n) (below : n ≤ 32) (token : Token) :
    Safe (fun _ => True) (tryParseImm n token) :=
  ⟨tryParseImm_ne_panic n positive below token, fun _ _ => trivial⟩

theorem tryParseImmOrLabelRef_safe {n : Nat} (positive : 1 ≤ n) (below : n ≤ 32)
    (token : Token) : Safe (fun _ => True) (tryParseImmOrLabelRef n token) := by
  unfold tryParseImmOrLabelRef
  split
  · exact Safe.ok trivial
  · exact Safe.bind (tryParseImm_safe positive below token) fun _ _ => Safe.ok trivial

theorem popReg_safe {args : List Token} {k : Nat} (length : args.length = k + 1) :
    Safe (fun r => r.2.length = k) (self.popReg args) :=
  Safe.bind (remove0_safe length) fun r rest =>
    Safe.bind (self.tryParseReg_safe r.1) fun _ _ => Safe.ok rest

theorem popImm_safe {args : List Token} {n k : Nat} (positive : 1 ≤ n) (below : n ≤ 32)
    (length : args.length = k + 1) : Safe (fun r => r.2.length = k) (popImm n args) :=
  Safe.bind (remove0_safe length) fun r rest =>
    Safe.bind (tryParseImm_safe positive below r.1) fun _ _ => Safe.ok rest

theorem popImmOrLabel_safe {args : List Token} {n k : Nat} (positive : 1 ≤ n) (below : n ≤ 32)
    (length : args.length = k + 1) : Safe (fun r => r.2.length = k) (popImmOrLabel n args) :=
  Safe.bind (remove0_safe length) fun r rest =>
    Safe.bind (tryParseImmOrLabelRef_safe positive below r.1) fun _ _ => Safe.ok rest

theorem consumeCommasepArgs_safe (n : Nat) :
    SafeStep (fun args => args.length = n) (self.consumeCommasepArgs n) :=
  fun ts => ⟨self.consumeCommasepArgs_ne_panic n ts,
    fun _ ok => self.consumeCommasepArgs_length ok⟩

theorem unboundedLoop_ne_panic (msg : String) :
    ∀ (ts toks : List Token) (wasComma : Bool), unboundedLoop toks wasComma ts ≠ .error (.panic msg)
  | [], _, _ => by simp [unboundedLoop]
  | tok :: ts, toks, wasComma => by
    have next := unboundedLoop_ne_panic msg ts
    rcases tok with ⟨_ | _ | _ | _ | _ | _ | _ | _, loc⟩ <;> simp only [unboundedLoop]
    all_goals first | exact next _ _ | (split <;> simp [next, reportError]) | simp [reportError]

theorem consumeUnboundedCommasepArgs_safe :
    SafeStep (fun _ => True) consumeUnboundedCommasepArgs :=
  fun ts => ⟨fun msg => unboundedLoop_ne_panic msg ts [] true, fun _ _ => trivial⟩

theorem checkNoMoreArgs_safe (needed : Nat) :
    SafeStep (fun _ => True) (self.checkNoMoreArgs needed) :=
  fun ts => ⟨self.checkNoMoreArgs_ne_panic needed ts, fun _ _ => trivial⟩

theorem tryNextTok_safe (neededArgs foundSoFar : Nat) :
    SafeStep (fun _ => True) (self.tryNextTok neededArgs foundSoFar) := by
  rintro (_ | ⟨tok, rest⟩)
  · exact Safe.error _
  · exact Safe.ok trivial

theorem tryPeekTok_safe (neededArgs foundSoFar : Nat) :
    SafeStep (fun _ => True) (self.tryPeekTok neededArgs foundSoFar) := by
  rintro (_ | ⟨tok, rest⟩)
  · exact Safe.error _
  · exact Safe.ok trivial

theorem consumeMemArgs_safe : SafeStep (fun _ => True) self.consumeMemArgs := by
  unfold consumeMemArgs
  refine .bind (self.tryNextTok_safe 3 0) fun _ _ => ?_
  refine .bind (.lift (self.tryParseReg_safe _)) fun _ _ => ?_
  refine .bind (self.tryPeekTok_safe 3 1) fun _ _ => ?_
  lift_lets
  intro afterComma
  have afterCommaSafe : ∀ y, SafeStep (fun _ => True) (afterComma y) := by
    intro _
    unfold afterComma
    refine .bind (self.tryNextTok_safe 3 1) fun _ _ => ?_
    refine .bind (.lift (tryParseImm_safe (by decide) (by decide) _)) fun _ _ => ?_
    lift_lets
    intro afterParen
    have afterParenSafe : ∀ y, SafeStep (fun _ => True) (afterParen y) := by
      intro _
      unfold afterParen
      refine .bind (self.tryNextTok_safe 3 2) fun _ _ => ?_
      refine .bind (.lift (self.tryParseReg_safe _)) fun _ _ => ?_
      lift_lets
      intro close
      have closeSafe : ∀ y, SafeStep (fun _ => True) (close y) := fun _ =>
        .bind (self.checkNoMoreArgs_safe 3) fun _ _ => .pure trivial
      split
      · refine .bind (self.tryNextTok_safe 3 2) fun _ _ => ?_
        split
        · exact .error_bind _ _
        · exact .bind (.pure_true _) fun y _ => closeSafe y
      · exact .bind (.pure_true _) fun y _ => closeSafe y
    refine .bind (self.tryPeekTok_safe 3 2) fun _ _ => ?_
    split
    · exact .bind (.modify _) fun _ _ => .bind (.pure_true _) fun y _ => afterParenSafe y
    · exact .bind (.pure_true _) fun y _ => afterParenSafe y
  split
  · exact .bind (.modify _) fun y _ => afterCommaSafe y
  · exact .bind (.pure_true _) fun y _ => afterCommaSafe y

theorem tryExpandFoundInst_safe (parseType : ParseType Inst) :
    SafeStep NoLabels (self.tryExpandFoundInst parseType) := by
  cases parseType <;> unfold tryExpandFoundInst
  case R instNew =>
    refine .bind (self.consumeCommasepArgs_safe 3) fun args length => ?_
    refine .bind (.lift (self.popReg_safe length)) fun ⟨_, args⟩ length => ?_
    refine .bind (.lift (self.popReg_safe length)) fun ⟨_, args⟩ length => ?_
    exact .bind (.lift (self.popReg_safe length)) fun _ _ => .pure (noLabels_okWrapConcr _)
  case Arith instNew =>
    refine .bind (self.consumeCommasepArgs_safe 3) fun args length => ?_
    refine .bind (.lift (self.popReg_safe length)) fun ⟨_, args⟩ length => ?_
    refine .bind (.lift (self.popReg_safe length)) fun ⟨_, args⟩ length => ?_
    exact .bind (.lift (popImm_safe (by decide) (by decide) length)) fun _ _ =>
      .pure (noLabels_okWrapConcr _)
  case Env instNew | NoArgs instNew =>
    exact .bind (self.consumeCommasepArgs_safe 0) fun _ _ => .pure (noLabels_okWrapConcr _)
  case MemL instNew | MemS instNew =>
    exact .bind self.consumeMemArgs_safe fun _ _ => .pure (noLabels_okWrapConcr _)
  case B instNew =>
    refine .bind (self.consumeCommasepArgs_safe 3) fun args length => ?_
    refine .bind (.lift (self.popReg_safe length)) fun ⟨_, args⟩ length => ?_
    refine .bind (.lift (self.popReg_safe length)) fun ⟨_, args⟩ length => ?_
    refine .bind (.lift (popImmOrLabel_safe (by decide) (by decide) length)) fun _ _ => ?_
    repeat' (first
      | exact .error _
      | exact .pure (noLabels_okWrapConcr _)
      | exact .pure (noLabels_single rfl)
      | split)
  case Jal =>
    refine .bind consumeUnboundedCommasepArgs_safe fun args _ => ?_
    dsimp only
    split
    case h_1 one =>
      refine .bind (.lift (popImmOrLabel_safe (by decide) (by decide) one)) fun _ _ => ?_
      split
      · exact .pure (noLabels_okWrapConcr _)
      · exact .pure (noLabels_single rfl)
    case h_2 two =>
      refine .bind (.lift (self.popReg_safe two)) fun _ length => ?_
      refine .bind (.lift (popImmOrLabel_safe (by decide) (by decide) length)) fun _ _ => ?_
      split
      · exact .pure (noLabels_okWrapConcr _)
      · exact .pure (noLabels_single rfl)
    case h_3 => exact .error _
  case Jalr =>
    refine .bind consumeUnboundedCommasepArgs_safe fun args _ => ?_
    dsimp only
    split
    case h_1 one =>
      exact .bind (.lift (self.popReg_safe one)) fun _ _ => .pure (noLabels_okWrapConcr _)
    case h_2 three =>
      refine .bind (.lift (self.popReg_safe three)) fun _ length => ?_
      refine .bind (.lift (self.popReg_safe length)) fun _ length => ?_
      exact .bind (.lift (popImm_safe (by decide) (by decide) length)) fun _ _ =>
        .pure (noLabels_okWrapConcr _)
    case h_3 => exact .error _
  case U instNew =>
    refine .bind (self.consumeCommasepArgs_safe 2) fun args length => ?_
    refine .bind (.lift (self.popReg_safe length)) fun ⟨_, args⟩ length => ?_
    exact .bind (.lift (popImm_safe (by decide) (by decide) length)) fun _ _ =>
      .pure (noLabels_okWrapConcr _)
  case Li =>
    refine .bind (self.consumeCommasepArgs_safe 2) fun args length => ?_
    refine .bind (.lift (self.popReg_safe length)) fun ⟨_, args⟩ length => ?_
    exact .bind (.lift (popImm_safe (by decide) (by decide) length)) fun _ _ =>
      .pure (noLabels_map_newComplete _)
  case RegReg instExpand =>
    refine .bind (self.consumeCommasepArgs_safe 2) fun args length => ?_
    refine .bind (.lift (self.popReg_safe length)) fun ⟨_, args⟩ length => ?_
    exact .bind (.lift (self.popReg_safe length)) fun _ _ => .pure (noLabels_okWrapConcr _)
  case LikeJ instExpand =>
    refine .bind (self.consumeCommasepArgs_safe 1) fun args length => ?_
    refine .bind (.lift (popImmOrLabel_safe (by decide) (by decide) length)) fun _ _ => ?_
    dsimp only
    split
    · exact .pure (noLabels_okWrapConcr _)
    · exact .pure (noLabels_single rfl)
  case OneReg instExpand =>
    refine .bind (self.consumeCommasepArgs_safe 1) fun args length => ?_
    exact .bind (.lift (self.popReg_safe length)) fun _ _ => .pure (noLabels_okWrapConcr _)

theorem tryExpandInst_safe : SafeStep NoLabels self.tryExpandInst := by
  unfold tryExpandInst
  split
  · exact self.tryExpandFoundInst_safe _
  · exact SafeStep.error _

end InstParser

/-- `LineParser::parse` does not panic, whatever the line and the label it carries. -/
theorem LineParser.parse_ne_panic (lp : LineParser Inst) (msg : String) :
    lp.parse.2 ≠ .error (.panic msg) := by
  rcases lp with ⟨data, _ | ⟨⟨_ | _ | _ | _ | _ | _ | _ | _, loc⟩, rest⟩, label⟩ <;>
    simp only [LineParser.parse]
  case mk.cons.mk.Name name =>
    have safe := (InstParser.mk data loc name).tryExpandInst_safe rest
    cases run : (InstParser.mk data loc name).tryExpandInst rest with
    | error e =>
      simp only [run, Functor.map, Except.map, ne_eq, Except.error.injEq]
      rintro rfl
      exact safe.1 msg run
    | ok r => simp [run, Functor.map, Except.map]
  all_goals simp

theorem stickFoundLabel_of_ne_nil (foundLabel : Option Label) {newInsts : List (PartialInst Inst)}
    (nonempty : newInsts ≠ []) : stickFoundLabel foundLabel newInsts = .ok (stickLabel foundLabel newInsts) := by
  obtain ⟨head, rest, rfl⟩ := List.exists_cons_of_ne_nil nonempty
  cases foundLabel <;> rfl

/-- One line of the loop, with the guarded `remove(0)` and `insert(0, ..)` as `stickLabel`. -/
theorem parseLines_cons (data : ParserData Inst) (line : List Token) (lines : List (List Token))
    (lastLabel : Option Label) (insts : List (PartialInst Inst)) (report : List ParseError) :
    parseLines data (line :: lines) lastLabel insts report =
      let (foundLabel, parseResult) := (LineParser.new data line lastLabel).parse
      match parseResult with
      | .ok newInsts =>
        if newInsts.isEmpty then parseLines data lines foundLabel insts report
        else parseLines data lines none (insts ++ stickLabel foundLabel newInsts) report
      | .error (.error newErr) => parseLines data lines lastLabel insts (report ++ [newErr])
      | .error (.panic msg) => .error (.panic msg) := by
  simp only [parseLines]
  generalize (LineParser.new data line lastLabel).parse = parsed
  rcases parsed with ⟨foundLabel, (_ | _) | newInsts⟩
  case mk.ok =>
    by_cases empty : newInsts.isEmpty
    · simp only [empty, if_true]
    · simp only [empty, if_false, stickFoundLabel_of_ne_nil _ (mt List.isEmpty_iff.mpr empty)]
  all_goals rfl

theorem parseLines_ok (data : ParserData Inst) :
    ∀ (lines : List (List Token)) (lastLabel : Option Label) (insts : List (PartialInst Inst))
      (report : List ParseError), ∃ result, parseLines data lines lastLabel insts report = .ok result
  | [], _, insts, report => ⟨⟨insts, report⟩, rfl⟩
  | line :: lines, lastLabel, insts, report => by
    have safe := (LineParser.new data line lastLabel).parse_ne_panic
    rw [parseLines_cons]
    rcases produced : (LineParser.new data line lastLabel).parse with
      ⟨foundLabel, (e | msg) | newInsts⟩
    · exact parseLines_ok data lines _ _ _
    · exact absurd (congrArg Prod.snd produced) (safe msg)
    · dsimp only
      split <;> exact parseLines_ok data lines _ _ _

/-- `LineParser::parse` does not panic on any line and carried label, and `RiscVParser::parse`
finishes on every list of lines. -/
theorem parse_never_panics (data : ParserData Inst) :
    (∀ line label msg, (LineParser.new data line label).parse.2 ≠ .error (.panic msg)) ∧
    (∀ lines reporter, ∃ result, RiscVParser.parse data lines reporter = .ok result) ∧
    (∀ n ∈ [12, 13, 20, 32], ∀ token msg, InstParser.tryParseImm n token ≠ .error (.panic msg)) ∧
    (∀ label (newInsts : List (PartialInst Inst)), newInsts ≠ [] →
      ∃ head rest, remove0 newInsts = .ok (head, rest) ∧
        stickLabel (some label) newInsts = head.withLabel label :: rest) := by
  refine ⟨fun line label => (LineParser.new data line label).parse_ne_panic,
    fun lines => parseLines_ok data lines none [], fun n width => ?_, fun label newInsts nonempty => ?_⟩
  · have inRange : 1 ≤ n ∧ n ≤ 32 := by simp at width; omega
    exact InstParser.tryParseImm_ne_panic n inRange.1 inRange.2
  · obtain ⟨head, rest, rfl⟩ := List.exists_cons_of_ne_nil nonempty
    exact ⟨head, rest, rfl, rfl⟩

end Duna.Assembler
