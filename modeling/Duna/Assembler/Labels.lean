import Duna.Assembler.Safety

/-! How the line loop of `RiscVParser::parse` attaches labels. -/

namespace Duna.Assembler

variable {Inst α : Type}

/-- A parse step whose instructions all carry no label. -/
def Unlabelled (m : InstParserM (List (PartialInst Inst))) : Prop :=
  ∀ ts ps st, m ts = .ok (ps, st) → ∀ p ∈ ps, p.label = none

namespace InstParser

variable (self : InstParser Inst)

theorem tryExpandInst_unlabelled : Unlabelled self.tryExpandInst :=
  fun ts ps st ok => (self.tryExpandInst_safe ts).2 (ps, st) ok

end InstParser

def lineLabel : List Token → Option Label
  | ⟨.LabelDef name, _⟩ :: _ => some name
  | _ => none

/-- The instructions a line produces by itself, with no label carried into it. -/
def lineInsts (data : ParserData Inst) (line : List Token) :
    Except Failure (List (PartialInst Inst)) :=
  (LineParser.new data line none).parse.2

namespace LineParser

theorem parse_unlabelled (lp : LineParser Inst) {ps : List (PartialInst Inst)}
    (ok : lp.parse.2 = .ok ps) : ∀ p ∈ ps, p.label = none := by
  rcases lp with ⟨data, _ | ⟨⟨_ | _ | _ | _ | _ | _ | _ | _, loc⟩, rest⟩, label⟩ <;>
    simp only [parse] at ok
  case mk.cons.mk.Name name =>
    cases run : (InstParser.mk data loc name).tryExpandInst rest with
    | error e => simp [run, Functor.map, Except.map] at ok
    | ok r =>
      simp only [run, Functor.map, Except.map, Except.ok.injEq] at ok
      exact (InstParser.mk data loc name).tryExpandInst_unlabelled rest ps r.2 (by rw [run, ← ok])
  all_goals (cases ok; try simp)

theorem parse_new_of_noClash (data : ParserData Inst) (line : List Token) (c : Option Label)
    (noClash : c = none ∨ lineLabel line = none) :
    (new data line c).parse = (c.or (lineLabel line), lineInsts data line) := by
  rcases c with _ | l
  · rcases line with _ | ⟨⟨_ | _ | _ | _ | _ | _ | _ | _, loc⟩, rest⟩ <;> rfl
  · rcases line with _ | ⟨⟨_ | _ | _ | _ | _ | _ | _ | _, loc⟩, rest⟩ <;>
      simp_all [lineLabel] <;> rfl

theorem parse_new_clash (data : ParserData Inst) (line : List Token) (l : Label)
    (defines : lineLabel line ≠ none) : ∃ e, (new data line (some l)).parse.2 = .error (.error e) := by
  rcases line with _ | ⟨⟨_ | _ | _ | _ | _ | _ | _ | _, loc⟩, rest⟩ <;> simp_all [lineLabel]
  exact ⟨_, rfl⟩

end LineParser

/-! ### Sticking a label onto a line's first instruction -/

@[simp] theorem stickLabel_nil (label : Option Label) :
    stickLabel label ([] : List (PartialInst Inst)) = [] := by
  cases label <;> rfl

theorem length_stickLabel (label : Option Label) (out : List (PartialInst Inst)) :
    (stickLabel label out).length = out.length := by
  rcases label with _ | l <;> rcases out with _ | ⟨p, ps⟩ <;> rfl

theorem map_body_stickLabel (label : Option Label) (out : List (PartialInst Inst)) :
    (stickLabel label out).map PartialInst.body = out.map PartialInst.body := by
  rcases label with _ | l <;> rcases out with _ | ⟨p, ps⟩ <;> rfl

theorem label_getElem?_of_unlabelled {ps : List (PartialInst Inst)}
    (unlabelled : ∀ p ∈ ps, p.label = none) (q : Nat) : ps[q]?.bind PartialInst.label = none := by
  cases found : ps[q]? with
  | none => rfl
  | some p => exact unlabelled p (List.getElem?_mem found)

theorem stickLabel_label_iff {label : Option Label} {out : List (PartialInst Inst)}
    (unlabelled : ∀ p ∈ out, p.label = none) (q : Nat) (l : Label) :
    (stickLabel label out)[q]?.bind PartialInst.label = some l ↔
      q = 0 ∧ out ≠ [] ∧ label = some l := by
  rcases out with _ | ⟨p, ps⟩
  · simp
  · have rest := label_getElem?_of_unlabelled fun p' member => unlabelled p' (.tail _ member)
    rcases label with _ | l' <;> rcases q with _ | q <;>
      simp only [stickLabel, List.getElem?_cons_zero, List.getElem?_cons_succ, Option.some_bind,
        unlabelled p (.head _), PartialInst.withLabel_label, rest, Option.some.injEq, ne_eq,
        reduceCtorEq, not_false_eq_true, true_and, and_false, false_and, Nat.succ_ne_zero, and_self]

/-! ### The label waiting at each line -/

/-- The label carried out of a line: the one waiting there, if the line produced nothing. -/
def carried (waits : Option Label) (out : List α) : Option Label :=
  if out.isEmpty then waits else none

@[simp] theorem carried_eq_some {waits : Option Label} {out : List α} {l : Label} :
    carried waits out = some l ↔ out = [] ∧ waits = some l := by
  unfold carried; split <;> simp_all

/-- The label waiting at each line for an instruction: the one carried in, or else the line's
own. -/
def waiting : Option Label → List (Option Label) → List (List α) → List (Option Label)
  | c, d :: ds, o :: os => c.or d :: waiting (carried (c.or d) o) ds os
  | _, _, _ => []

theorem length_waiting {c : Option Label} {defs : List (Option Label)} {outs : List (List α)}
    (sameLength : defs.length = outs.length) : (waiting c defs outs).length = outs.length := by
  induction defs generalizing c outs with
  | nil =>
    rcases outs with _ | ⟨o, os⟩
    · rfl
    · simp at sameLength
  | cons d ds ih =>
    rcases outs with _ | ⟨o, os⟩
    · simp at sameLength
    · rw [waiting, List.length_cons, List.length_cons, ih (Nat.succ.inj sameLength)]

@[simp] theorem carried_nil (waits : Option Label) : carried waits ([] : List α) = waits := rfl

theorem waiting_cons_cons (c d : Option Label) (ds : List (Option Label)) (o : List α)
    (os : List (List α)) :
    waiting c (d :: ds) (o :: os) = c.or d :: waiting (carried (c.or d) o) ds os := rfl

/-- No line defines a label while another one waits. -/
def NoClash : Option Label → List (Option Label) → List (List α) → Prop
  | c, d :: ds, o :: os => (c = none ∨ d = none) ∧ NoClash (carried (c.or d) o) ds os
  | _, _, _ => True

/-! ### Error-free runs of the line loop -/

theorem parseLines_report_prefix (data : ParserData Inst) :
    ∀ {lines : List (List Token)} {c : Option Label} {acc : List (PartialInst Inst)}
      {report : List ParseError} {result : ParseResult Inst},
      parseLines data lines c acc report = .ok result → report <+: result.report := by
  intro lines
  induction lines with
  | nil => intro c acc report result run; cases run; exact List.prefix_refl _
  | cons line lines ih =>
    intro c acc report result run
    simp only [parseLines_cons] at run
    split at run
    · split at run <;> exact ih run
    · exact (List.prefix_append _ _).trans (ih run)
    · cases run

theorem parseLines_error_reported (data : ParserData Inst) {lines : List (List Token)}
    {c : Option Label} {acc insts : List (PartialInst Inst)} {report : List ParseError}
    {e : ParseError} : parseLines data lines c acc (report ++ [e]) ≠ .ok ⟨insts, []⟩ := fun run => by
  simpa using parseLines_report_prefix data run

/-- An error-free run: each line produced its own instructions, with its waiting label stuck on. -/
theorem parseLines_noErrors (data : ParserData Inst) :
    ∀ {lines : List (List Token)} {c : Option Label} {acc insts : List (PartialInst Inst)}
      {report : List ParseError},
      parseLines data lines c acc report = .ok ⟨insts, []⟩ →
      ∃ outs, lines.map (lineInsts data) = outs.map .ok ∧ NoClash c (lines.map lineLabel) outs ∧
        insts = acc ++ (List.zipWith stickLabel (waiting c (lines.map lineLabel) outs) outs).flatten := by
  intro lines
  induction lines with
  | nil => intro c acc insts report run; cases run; exact ⟨[], rfl, trivial, by simp [waiting]⟩
  | cons line lines ih =>
    intro c acc insts report run
    by_cases clash : c ≠ none ∧ lineLabel line ≠ none
    · obtain ⟨l, rfl⟩ := Option.ne_none_iff_exists'.mp clash.1
      obtain ⟨e, err⟩ := LineParser.parse_new_clash data line l clash.2
      simp only [parseLines_cons, err] at run
      exact absurd run (parseLines_error_reported data)
    · have noClash : c = none ∨ lineLabel line = none :=
        (not_and_or.mp clash).imp not_not.mp not_not.mp
      simp only [parseLines_cons, LineParser.parse_new_of_noClash data line c noClash] at run
      cases produced : lineInsts data line with
      | error f =>
        cases f with
        | error e =>
          simp only [produced] at run
          exact absurd run (parseLines_error_reported data)
        | panic msg => simp [produced] at run
      | ok out =>
        simp only [produced] at run
        split at run
        · obtain rfl : out = [] := List.isEmpty_iff.mp ‹_›
          obtain ⟨outs, lineOuts, noClashRest, rfl⟩ := ih run
          exact ⟨[] :: outs, by simp [produced, lineOuts], ⟨noClash, noClashRest⟩,
            by simp only [List.map_cons, waiting_cons_cons, carried_nil, List.zipWith_cons_cons,
              List.flatten_cons, stickLabel_nil, List.nil_append]⟩
        · have passed : carried (c.or (lineLabel line)) out = none := if_neg ‹_›
          obtain ⟨outs, lineOuts, noClashRest, rfl⟩ := ih run
          exact ⟨out :: outs, by simp [produced, lineOuts], ⟨noClash, passed ▸ noClashRest⟩,
            by simp only [List.map_cons, waiting_cons_cons, passed, List.zipWith_cons_cons,
              List.flatten_cons, List.append_assoc]⟩

/-! ### Where the labels land -/

theorem flatten_stickLabel_label_iff (waits : List (Option Label))
    {outs : List (List (PartialInst Inst))} (unlabelled : ∀ out ∈ outs, ∀ p ∈ out, p.label = none)
    (q : Nat) (l : Label) :
    (List.zipWith stickLabel waits outs).flatten[q]?.bind PartialInst.label = some l ↔
      ∃ j, outs[j]?.getD [] ≠ [] ∧ waits[j]? = some (some l) ∧
        q = (outs.take j).flatten.length := by
  induction outs generalizing waits q with
  | nil => simp
  | cons out outs ih =>
    rcases waits with _ | ⟨w, ws⟩
    · simp
    · have rest := ih ws fun out' member => unlabelled out' (.tail _ member)
      have position : ∀ j, ((out :: outs).take (j + 1)).flatten.length =
          out.length + (outs.take j).flatten.length := fun j => by
        simp only [List.take_succ_cons, List.flatten_cons, List.length_append]
      simp only [List.zipWith_cons_cons, List.flatten_cons]
      by_cases inLine : q < out.length
      · rw [List.getElem?_append_left (by simpa [length_stickLabel] using inLine),
          stickLabel_label_iff (unlabelled out (.head _))]
        constructor
        · rintro ⟨rfl, nonempty, rfl⟩
          exact ⟨0, by rwa [List.getElem?_cons_zero, Option.getD_some],
            List.getElem?_cons_zero, rfl⟩
        · rintro ⟨_ | j, nonempty, waiting, rfl⟩
          · rw [List.getElem?_cons_zero, Option.getD_some] at nonempty
            rw [List.getElem?_cons_zero, Option.some_inj] at waiting
            exact ⟨rfl, nonempty, waiting⟩
          · rw [position] at inLine; omega
      · rw [List.getElem?_append_right (by simpa [length_stickLabel] using inLine),
          length_stickLabel, rest]
        constructor
        · rintro ⟨j, nonempty, waiting, atFirst⟩
          exact ⟨j + 1, by rwa [List.getElem?_cons_succ], by rwa [List.getElem?_cons_succ],
            by rw [position]; omega⟩
        · rintro ⟨_ | j, nonempty, waiting, rfl⟩
          · rw [List.getElem?_cons_zero, Option.getD_some] at nonempty
            exact absurd (List.length_pos.mpr nonempty) inLine
          · rw [List.getElem?_cons_succ] at nonempty waiting
            exact ⟨j, nonempty, waiting, by rw [position]; omega⟩

theorem map_body_flatten_stickLabel {waits : List (Option Label)}
    {outs : List (List (PartialInst Inst))} (enough : outs.length ≤ waits.length) :
    (List.zipWith stickLabel waits outs).flatten.map PartialInst.body =
      outs.flatten.map PartialInst.body := by
  induction outs generalizing waits with
  | nil => simp
  | cons out outs ih =>
    rcases waits with _ | ⟨w, ws⟩
    · simp at enough
    · simp [map_body_stickLabel, ih (by simpa using enough)]

theorem or_eq_some_of_free {c d : Option Label} (free : c = none ∨ d = none) (l : Label) :
    c.or d = some l ↔ c = some l ∨ d = some l := by
  rcases free with rfl | rfl <;> simp

private theorem exists_le_succ_iff {P : Nat → Prop} {j : Nat} :
    (∃ i ≤ j + 1, P i) ↔ P 0 ∨ ∃ i ≤ j, P (i + 1) := by
  constructor
  · rintro ⟨_ | i, le, holds⟩
    · exact .inl holds
    · exact .inr ⟨i, by omega, holds⟩
  · rintro (holds | ⟨i, le, holds⟩)
    · exact ⟨0, by omega, holds⟩
    · exact ⟨i + 1, by omega, holds⟩

/-- The label waiting at line `j`: the carried-in one, or the one defined at a line `i ≤ j`
such that no line from `i` to before `j` produced anything. -/
theorem waiting_eq_some_iff {c : Option Label} {defs : List (Option Label)}
    {outs : List (List α)} (noClash : NoClash c defs outs) (sameLength : defs.length = outs.length)
    {j : Nat} (inRun : j < outs.length) (l : Label) :
    (waiting c defs outs)[j]? = some (some l) ↔
      (c = some l ∧ ∀ out ∈ outs.take j, out = []) ∨
      ∃ i ≤ j, defs[i]? = some (some l) ∧ ∀ out ∈ (outs.take j).drop i, out = [] := by
  induction defs generalizing c outs j with
  | nil => simp [← sameLength] at inRun
  | cons d ds ih =>
    rcases outs with _ | ⟨o, os⟩
    · simp at inRun
    obtain ⟨firstFree, noClashRest⟩ := noClash
    have waits := or_eq_some_of_free firstFree l
    rcases j with _ | j
    · rw [waiting, List.getElem?_cons_zero]
      simp only [Option.some.injEq, waits, List.take_zero, List.not_mem_nil, IsEmpty.forall_iff,
        List.getElem?_cons_zero,
        implies_true, and_true, nonpos_iff_eq_zero, List.drop_nil, exists_eq_left]
    · rw [waiting, List.getElem?_cons_succ,
        ih noClashRest (Nat.succ.inj sameLength) (Nat.lt_of_succ_lt_succ inRun)]
      simp only [carried_eq_some, waits, exists_le_succ_iff, List.take_succ_cons,
        List.forall_mem_cons, List.getElem?_cons_zero, List.drop_succ_cons, List.drop_zero,
        List.getElem?_cons_succ, Option.some.injEq]
      constructor
      · rintro (⟨⟨rfl, carriedIn | defined⟩, free⟩ | later)
        · exact .inl ⟨carriedIn, rfl, free⟩
        · exact .inr (.inl ⟨defined, rfl, free⟩)
        · exact .inr (.inr later)
      · rintro (⟨carriedIn, rfl, free⟩ | ⟨defined, rfl, free⟩ | later)
        · exact .inl ⟨⟨rfl, .inl carriedIn⟩, free⟩
        · exact .inl ⟨⟨rfl, .inr defined⟩, free⟩
        · exact .inr later

/-- When `RiscVParser::parse` reports no error, the instructions are the lines' own in order, and
the first instruction of a line carries the label waiting there; every other carries none. -/
theorem parse_attaches_labels (data : ParserData Inst) (lines : List (List Token))
    (reporter : List ParseError) (insts : List (PartialInst Inst))
    (noErrors : RiscVParser.parse data lines reporter = .ok ⟨insts, []⟩) :
    ∃ outs : List (List (PartialInst Inst)), lines.map (lineInsts data) = outs.map .ok ∧
      insts.map PartialInst.body = outs.flatten.map PartialInst.body ∧
      ∀ q (hq : q < insts.length) (l : Label), insts[q].label = some l ↔
        ∃ i j, i ≤ j ∧ lines[i]?.bind lineLabel = some l ∧ outs[j]?.getD [] ≠ [] ∧
          (∀ out ∈ (outs.take j).drop i, out = []) ∧ q = (outs.take j).flatten.length := by
  obtain ⟨outs, lineOuts, noClash, rfl⟩ := parseLines_noErrors data noErrors
  have sameLength : (lines.map lineLabel).length = outs.length := by
    simpa using congrArg List.length lineOuts
  have unlabelled : ∀ out ∈ outs, ∀ p ∈ out, p.label = none := by
    intro out member
    have listed : Except.ok out ∈ lines.map (lineInsts data) :=
      lineOuts ▸ List.mem_map_of_mem _ member
    obtain ⟨line, -, produced⟩ := List.mem_map.mp listed
    exact LineParser.parse_unlabelled _ produced
  refine ⟨outs, lineOuts, ?_, fun q hq l => ?_⟩
  · simpa using map_body_flatten_stickLabel (Nat.le_of_eq (length_waiting sameLength).symm)
  · have inRun : ∀ {j}, outs[j]?.getD [] ≠ [] → j < outs.length := fun nonempty => by
      by_contra outside
      exact nonempty (by rw [List.getElem?_eq_none (by omega)]; rfl)
    have position :=
      flatten_stickLabel_label_iff (waiting none (lines.map lineLabel) outs) unlabelled q l
    simp only [List.nil_append] at hq ⊢
    rw [List.getElem?_eq_getElem hq, Option.some_bind] at position
    rw [position]
    constructor
    · rintro ⟨j, nonempty, waits, rfl⟩
      obtain ⟨⟨⟩, -⟩ | ⟨i, le, defined, free⟩ :=
        (waiting_eq_some_iff noClash sameLength (inRun nonempty) l).mp waits
      exact ⟨i, j, le, by simpa [Option.bind_eq_some] using defined, nonempty, free, rfl⟩
    · rintro ⟨i, j, le, defined, nonempty, free, rfl⟩
      exact ⟨j, nonempty, (waiting_eq_some_iff noClash sameLength (inRun nonempty) l).mpr
        (.inr ⟨i, le, by simpa [Option.bind_eq_some] using defined, free⟩), rfl⟩

theorem parse_attaches_labels_across_comment :
    let data : ParserData Nat :=
      ⟨fun name => if name = "nop" then some (.NoArgs fun _ => 0) else none, fun _ => none,
        fun _ => 0, fun _ _ => 0, fun _ => 0, fun _ _ _ => 0, fun _ _ => []⟩
    let lines : List (List Token) :=
      [[⟨.LabelDef "l1", ⟨0, 0⟩⟩], [⟨.Comment "wait", ⟨1, 0⟩⟩], [⟨.Name "nop", ⟨2, 0⟩⟩]]
    let insts : List (PartialInst Nat) := [⟨.complete 0, some "l1"⟩]
    RiscVParser.parse data lines [] = .ok ⟨insts, []⟩ ∧
    ∃ outs : List (List (PartialInst Nat)), lines.map (lineInsts data) = outs.map .ok ∧
      insts.map PartialInst.body = outs.flatten.map PartialInst.body ∧
      ∀ q (hq : q < insts.length) (l : Label), insts[q].label = some l ↔
        ∃ i j, i ≤ j ∧ lines[i]?.bind lineLabel = some l ∧ outs[j]?.getD [] ≠ [] ∧
          (∀ out ∈ (outs.take j).drop i, out = []) ∧ q = (outs.take j).flatten.length :=
  ⟨rfl, parse_attaches_labels _ _ _ _ rfl⟩

end Duna.Assembler
