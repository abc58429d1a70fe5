import Duna.Assembler.Parser

/-! The argument lists of `consume_commasep_args` and `consume_unbounded_commasep_args`. -/

namespace Duna.Assembler

/-- Where an instruction's arguments end: the end of the line, or a comment. -/
inductive LineEnd : List Token → Prop
  | done : LineEnd []
  | comment (text : String) (loc : Location) (rest : List Token) :
      LineEnd (⟨.Comment text, loc⟩ :: rest)

/-- `ts` begins with `args`, each but the last followed by an optional comma, then `rest`. -/
inductive SepArgs : List Token → List Token → List Token → Prop
  | last {a : Token} {rest : List Token} : a.data.isArg → SepArgs [a] (a :: rest) rest
  | next {a : Token} {args ts rest : List Token} : a.data.isArg → SepArgs args ts rest →
      SepArgs (a :: args) (a :: ts) rest
  | nextComma {a : Token} {args ts rest : List Token} (loc : Location) : a.data.isArg →
      SepArgs args ts rest → SepArgs (a :: args) (a :: ⟨.Comma, loc⟩ :: ts) rest

/-- `ts` reads as `A1 (Comma? A2) ... (Comma? An)` with `args = [A1, ..., An]`, then a line end. -/
def CommasepArgs (args ts : List Token) : Prop :=
  args = [] ∧ LineEnd ts ∨ ∃ rest, SepArgs args ts rest ∧ LineEnd rest

theorem SepArgs.ne_nil {args ts rest : List Token} (read : SepArgs args ts rest) : args ≠ [] := by
  cases read <;> simp

theorem SepArgs.length_pos {args ts rest : List Token} (read : SepArgs args ts rest) :
    0 < args.length :=
  List.length_pos.mpr read.ne_nil

namespace InstParser

@[simp] theorem skipComma_comma (loc : Location) (ts : List Token) :
    skipComma (⟨.Comma, loc⟩ :: ts) = ts := rfl

theorem skipComma_of_isArg {a : Token} (isArg : a.data.isArg) (ts : List Token) :
    skipComma (a :: ts) = a :: ts := by
  rcases a with ⟨_ | _ | _ | _ | _ | _ | _ | _, loc⟩ <;> simp_all [skipComma, TokenType.isArg]

theorem skipComma_of_sepArgs {args ts rest : List Token} (read : SepArgs args ts rest) :
    skipComma ts = ts := by
  cases read <;> exact skipComma_of_isArg ‹_› _

theorem sepArgs_cons_skipComma {a : Token} {args ts rest : List Token} (isArg : a.data.isArg)
    (read : SepArgs args (skipComma ts) rest) : SepArgs (a :: args) (a :: ts) rest := by
  rcases ts with _ | ⟨⟨_ | _ | _ | _ | _ | _ | _ | _, loc⟩, ts⟩
  case cons.mk.Comma => exact .nextComma loc isArg read
  all_goals exact .next isArg read

variable {Inst : Type} (self : InstParser Inst)

theorem checkNoMoreArgs_ok_iff (needed : Nat) (ts : List Token) :
    (∃ st, self.checkNoMoreArgs needed ts = .ok ((), st)) ↔ LineEnd ts := by
  rcases ts with _ | ⟨⟨_ | _ | _ | _ | _ | _ | _ | _, loc⟩, ts⟩ <;>
    simp [checkNoMoreArgs, reportError, LineEnd.done, LineEnd.comment] <;> rintro ⟨⟩

theorem checkNoMoreArgs_ne_panic (needed : Nat) (ts : List Token) (msg : String) :
    self.checkNoMoreArgs needed ts ≠ .error (.panic msg) := by
  rcases ts with _ | ⟨⟨_ | _ | _ | _ | _ | _ | _ | _, loc⟩, ts⟩ <;>
    simp [checkNoMoreArgs, reportError]

theorem consumeArgsLoop_cons {n left : Nat} {found ts : List Token} {a : Token}
    (isArg : a.data.isArg) :
    self.consumeArgsLoop n found (left + 1) (a :: ts) =
      self.consumeArgsLoop n (found ++ [a]) left (if 0 < left then skipComma ts else ts) := by
  simp [consumeArgsLoop, isArg]

theorem consumeArgsLoop_succ_ok {n left : Nat} {found ts : List Token}
    {result : List Token × List Token} (ok : self.consumeArgsLoop n found (left + 1) ts = .ok result) :
    ∃ a rest, ts = a :: rest ∧ a.data.isArg ∧
      self.consumeArgsLoop n (found ++ [a]) left (if 0 < left then skipComma rest else rest) =
        .ok result := by
  rcases ts with _ | ⟨a, rest⟩
  · simp [consumeArgsLoop, reportError] at ok
  · by_cases isArg : a.data.isArg
    · exact ⟨a, rest, rfl, isArg, by rwa [consumeArgsLoop_cons self isArg] at ok⟩
    · simp [consumeArgsLoop, isArg, reportError] at ok

theorem consumeArgsLoop_sound (n k : Nat) {found ts out rest : List Token}
    (ok : self.consumeArgsLoop n found (k + 1) ts = .ok (out, rest)) :
    ∃ args, out = found ++ args ∧ args.length = k + 1 ∧ SepArgs args ts rest := by
  induction k generalizing found ts with
  | zero =>
    obtain ⟨a, ts, rfl, isArg, ok⟩ := consumeArgsLoop_succ_ok self ok
    obtain ⟨rfl, rfl⟩ : found ++ [a] = out ∧ ts = rest := by simpa [consumeArgsLoop] using ok
    exact ⟨[a], rfl, rfl, .last isArg⟩
  | succ k ih =>
    obtain ⟨a, ts, rfl, isArg, ok⟩ := consumeArgsLoop_succ_ok self ok
    rw [if_pos k.succ_pos] at ok
    obtain ⟨args, rfl, length, read⟩ := ih ok
    exact ⟨a :: args, by simp, by simp [length], sepArgs_cons_skipComma isArg read⟩

theorem consumeArgsLoop_complete (n : Nat) {args ts rest : List Token}
    (read : SepArgs args ts rest) :
    ∀ found, self.consumeArgsLoop n found args.length ts = .ok (found ++ args, rest) := by
  induction read with
  | last isArg => intro found; simp [consumeArgsLoop, isArg]
  | @next a args ts rest isArg read ih =>
    intro found
    rw [List.length_cons, consumeArgsLoop_cons self isArg, if_pos read.length_pos,
      skipComma_of_sepArgs read]
    simpa using ih (found ++ [a])
  | @nextComma a args ts rest loc isArg read ih =>
    intro found
    rw [List.length_cons, consumeArgsLoop_cons self isArg, if_pos read.length_pos,
      skipComma_comma]
    simpa using ih (found ++ [a])

theorem consumeArgsLoop_ne_panic (n : Nat) (msg : String) :
    ∀ passes found ts, self.consumeArgsLoop n found passes ts ≠ .error (.panic msg)
  | 0, _, _ => by simp [consumeArgsLoop]
  | _ + 1, _, [] => by simp [consumeArgsLoop, reportError]
  | left + 1, found, a :: ts => by
    by_cases isArg : a.data.isArg
    · rw [consumeArgsLoop_cons self isArg]
      exact consumeArgsLoop_ne_panic n msg left _ _
    · simp [consumeArgsLoop, isArg, reportError]

theorem consumeCommasepArgs_of_loop {n : Nat} {ts found rest : List Token}
    (loop : self.consumeArgsLoop n [] n ts = .ok (found, rest)) (length : found.length = n) :
    self.consumeCommasepArgs n ts =
      (self.checkNoMoreArgs n rest).map fun ((), st) => (found, st) := by
  simp only [consumeCommasepArgs, loop, ok_bind, length, ne_eq, not_true_eq_false, if_false]
  cases self.checkNoMoreArgs n rest <;> rfl

theorem consumeArgsLoop_start {n : Nat} {ts found rest : List Token}
    (loop : self.consumeArgsLoop n [] n ts = .ok (found, rest)) :
    found.length = n ∧ (found = [] ∧ rest = ts ∨ SepArgs found ts rest) := by
  rcases n with _ | k
  · obtain ⟨rfl, rfl⟩ : [] = found ∧ ts = rest := by simpa [consumeArgsLoop] using loop
    exact ⟨rfl, .inl ⟨rfl, rfl⟩⟩
  · obtain ⟨args, rfl, length, read⟩ := consumeArgsLoop_sound self _ k loop
    exact ⟨by simpa using length, .inr (by simpa using read)⟩

theorem consumeCommasepArgs_ne_panic (n : Nat) (ts : List Token) (msg : String) :
    self.consumeCommasepArgs n ts ≠ .error (.panic msg) := by
  cases loop : self.consumeArgsLoop n [] n ts with
  | error e =>
    simp only [consumeCommasepArgs, loop, error_bind, ne_eq, Except.error.injEq]
    rintro rfl
    exact consumeArgsLoop_ne_panic self n msg n [] ts loop
  | ok read =>
    rw [consumeCommasepArgs_of_loop self loop (consumeArgsLoop_start self loop).1]
    cases check : self.checkNoMoreArgs n read.2 with
    | error e =>
      simp only [Except.map, ne_eq, Except.error.injEq]
      rintro rfl
      exact checkNoMoreArgs_ne_panic self n read.2 msg check
    | ok _ => simp [Except.map]

theorem consumeCommasepArgs_length {n : Nat} {ts args st : List Token}
    (ok : self.consumeCommasepArgs n ts = .ok (args, st)) : args.length = n := by
  cases loop : self.consumeArgsLoop n [] n ts with
  | error e => simp [consumeCommasepArgs, loop] at ok
  | ok read =>
    have length := (consumeArgsLoop_start self loop).1
    rw [consumeCommasepArgs_of_loop self loop length] at ok
    cases check : self.checkNoMoreArgs n read.2 with
    | error e => simp [check, Except.map] at ok
    | ok done =>
      obtain ⟨rfl, -⟩ : read.1 = args ∧ done.2 = st := by simpa [check, Except.map] using ok
      exact length

/-- `consume_commasep_args(n)` returns `Ok(args)` exactly when the line reads as `n` arguments
`args` with optional single commas, then a line end; it never panics. -/
theorem consumeCommasepArgs_ok_iff (n : Nat) (ts : List Token) :
    (∀ args, (∃ st, self.consumeCommasepArgs n ts = .ok (args, st)) ↔
      CommasepArgs args ts ∧ args.length = n) ∧
    ∀ msg, self.consumeCommasepArgs n ts ≠ .error (.panic msg) := by
  refine ⟨fun args => ⟨?_, ?_⟩, consumeCommasepArgs_ne_panic self n ts⟩
  · rintro ⟨st, ok⟩
    cases loop : self.consumeArgsLoop n [] n ts with
    | error e => simp [consumeCommasepArgs, loop] at ok
    | ok read =>
      obtain ⟨found, rest⟩ := read
      obtain ⟨length, shape⟩ := consumeArgsLoop_start self loop
      rw [consumeCommasepArgs_of_loop self loop length] at ok
      cases check : self.checkNoMoreArgs n rest with
      | error e => simp [check, Except.map] at ok
      | ok done =>
        obtain ⟨rfl, -⟩ : found = args ∧ done.2 = st := by simpa [check, Except.map] using ok
        have lineEnd := (checkNoMoreArgs_ok_iff self n rest).mp ⟨done.2, check⟩
        rcases shape with ⟨rfl, rfl⟩ | read
        · exact ⟨.inl ⟨rfl, lineEnd⟩, length⟩
        · exact ⟨.inr ⟨rest, read, lineEnd⟩, length⟩
  · rintro ⟨form | ⟨rest, read, lineEnd⟩, rfl⟩
    · obtain ⟨rfl, lineEnd⟩ := form
      obtain ⟨st, check⟩ := (checkNoMoreArgs_ok_iff self 0 ts).mpr lineEnd
      have loop : self.consumeArgsLoop 0 [] 0 ts = .ok ([], ts) := rfl
      exact ⟨st, by rw [List.length_nil, consumeCommasepArgs_of_loop self loop rfl, check]; rfl⟩
    · have loop := consumeArgsLoop_complete self args.length read []
      obtain ⟨st, check⟩ := (checkNoMoreArgs_ok_iff self args.length rest).mpr lineEnd
      exact ⟨st, by rw [consumeCommasepArgs_of_loop self loop rfl, check]; rfl⟩

theorem unboundedLoop_cons {a : Token} (isArg : a.data.isArg) (toks : List Token)
    (wasComma : Bool) (ts : List Token) :
    unboundedLoop toks wasComma (a :: ts) = unboundedLoop (toks ++ [a]) false ts := by
  rcases a with ⟨_ | _ | _ | _ | _ | _ | _ | _, loc⟩ <;> simp_all [unboundedLoop, TokenType.isArg]

theorem unboundedLoop_sepArgs {args ts rest : List Token} (read : SepArgs args ts rest) :
    ∀ toks wasComma, unboundedLoop toks wasComma ts = unboundedLoop (toks ++ args) false rest := by
  induction read with
  | last isArg => intro toks wasComma; rw [unboundedLoop_cons isArg]
  | next isArg _ ih => intro toks wasComma; rw [unboundedLoop_cons isArg, ih]; simp
  | nextComma loc isArg _ ih =>
    intro toks wasComma
    rw [unboundedLoop_cons isArg]
    simp [unboundedLoop, ih]

/-- A comma after the last argument is dropped, not refused, by
`consume_unbounded_commasep_args`. -/
theorem consumeUnboundedCommasepArgs_trailing_comma {args ts rest : List Token} {loc : Location}
    (read : SepArgs args ts (⟨.Comma, loc⟩ :: rest)) (lineEnd : LineEnd rest) :
    ∃ st, consumeUnboundedCommasepArgs ts = .ok (args, st) := by
  unfold consumeUnboundedCommasepArgs
  rw [unboundedLoop_sepArgs read]
  cases lineEnd <;> simp [unboundedLoop]

theorem consumeUnboundedCommasepArgs_jal_ra_label :
    let ra : Token := ⟨.Name "ra", ⟨1, 4⟩⟩
    let label : Token := ⟨.Name "label", ⟨1, 8⟩⟩
    let comma : Nat → Token := fun offs => ⟨.Comma, ⟨1, offs⟩⟩
    SepArgs [ra, label] [ra, comma 6, label, comma 13] [comma 13] ∧ LineEnd [] ∧
      ∃ st, consumeUnboundedCommasepArgs [ra, comma 6, label, comma 13] = .ok ([ra, label], st) :=
  ⟨.nextComma _ rfl (.last rfl), .done,
    consumeUnboundedCommasepArgs_trailing_comma (.nextComma _ rfl (.last rfl)) .done⟩

end InstParser

end Duna.Assembler
