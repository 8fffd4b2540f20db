import LineLisp.Proofs.Lexer.Pieces

/-! Asking for tokens again and again.
A lexer can be asked on, whatever it answers. An answer takes something off the line
or is the last one, and the last one is given for ever. -/
namespace LineLisp

open Text (byteLength)

namespace Lexer

inductive Final : Except LexError Token → Prop
  | ended {token : Token} (last : token.kind = .endOfLine) : Final (.ok token)
  | unfit {remainder span} : Final (.error (.invalidToken remainder span))

def asked (lexer : Lexer) (count : Nat) : Lexer :=
  (fun lexer => lexer.next.2)^[count] lexer

def answer (lexer : Lexer) (count : Nat) : Except LexError Token :=
  (lexer.asked count).next.1

variable {lexer after : Lexer} {result : Except LexError Token}

theorem asked_succ (lexer : Lexer) (count : Nat) :
    lexer.asked (count + 1) = (lexer.asked count).next.2 :=
  Function.iterate_succ_apply' _ count lexer

theorem asked_next (lexer : Lexer) (count : Nat) :
    lexer.asked (count + 1) = lexer.next.2.asked count :=
  Function.iterate_succ_apply _ count lexer

theorem answer_next (lexer : Lexer) (count : Nat) :
    lexer.answer (count + 1) = lexer.next.2.answer count := by
  rw [answer, asked_next, answer]

theorem not_final_of_token {token : Token} (more : token.kind ≠ .endOfLine) :
    ¬Final (.ok token) := by
  rintro ⟨last⟩
  exact more last

theorem Step.shortens (step : Step lexer result after) (going : ¬Final result) :
    byteLength after.rest < byteLength lexer.rest := by
  cases step with
  | ended => exact absurd (.ended rfl) going
  | unfit => exact absurd .unfit going
  | glued fits =>
    have taken := byteLength_pos (begins_of_fits fits).1
    simp only [Text.byteLength_append]
    omega
  | token blank fits =>
    have taken := byteLength_pos (begins_of_fits fits).1
    simp only [Text.byteLength_append]
    omega

/-- A last answer leaves the lexer where it gives that answer again. -/
theorem Step.again (step : Step lexer result after) (final : Final result) :
    after.next = (result, after) := by
  have close : Blank [] := nofun
  cases step with
  | ended => exact next_ended close
  | unfit blank begins filled unfit => exact next_unfit close begins filled unfit
  | glued => cases final
  | token blank fits => exact absurd final (not_final_of_token (kind_ne_endOfLine fits))

theorem asked_takes (lexer : Lexer) (count : Nat) : ∃ taken,
    lexer.rest = taken ++ (lexer.asked count).rest ∧
      (lexer.asked count).column = lexer.column + byteLength taken := by
  induction count with
  | zero => exact ⟨[], rfl, rfl⟩
  | succ count ih =>
    obtain ⟨before, split, column⟩ := ih
    obtain ⟨taken, further, reached⟩ := (lexer.asked count).next_step.takes
    rw [asked_succ]
    refine ⟨before ++ taken, ?_, ?_⟩
    · rw [split, further, List.append_assoc]
    · rw [reached, column, Text.byteLength_append, Nat.add_assoc]

theorem asked_shortens {count : Nat} (going : ¬Final (lexer.answer count)) :
    byteLength (lexer.asked (count + 1)).rest < byteLength (lexer.asked count).rest := by
  rw [asked_succ]
  exact (lexer.asked count).next_step.shortens going

theorem next_of_final {count later : Nat} (final : Final (lexer.answer count))
    (behind : count ≤ later) : (lexer.asked later).next = (lexer.asked count).next := by
  induction later, behind using Nat.le_induction with
  | base => rfl
  | succ later behind ih =>
    have again := (lexer.asked count).next_step.again final
    rw [asked_succ, ih, again]

/-- Until the last answer every one costs a byte. -/
theorem asked_bound {count : Nat} (going : ∀ earlier < count, ¬Final (lexer.answer earlier)) :
    byteLength (lexer.asked count).rest + count ≤ byteLength lexer.rest := by
  induction count with
  | zero => exact Nat.le_refl _
  | succ count ih =>
    have before := ih fun earlier less => going earlier (Nat.lt_succ_of_lt less)
    have shorter := asked_shortens (going count (Nat.lt_succ_self count))
    omega

theorem exists_final (lexer : Lexer) : ∃ count ≤ byteLength lexer.rest,
    Final (lexer.answer count) ∧ ∀ earlier < count, ¬Final (lexer.answer earlier) := by
  classical
  have ends : ∃ count, Final (lexer.answer count) := by
    by_contra going
    have bound := asked_bound fun earlier (_ : earlier < byteLength lexer.rest + 1) final =>
      going ⟨earlier, final⟩
    omega
  have first : ∀ earlier < Nat.find ends, ¬Final (lexer.answer earlier) :=
    fun earlier => Nat.find_min ends
  have bound := asked_bound first
  exact ⟨Nat.find ends, by omega, Nat.find_spec ends, first⟩

/-- The tokens of a scan are the answers up to its end or to the first error. -/
theorem scan_answers (lexer : Lexer) :
    (List.range lexer.scan.tokens.length).map lexer.answer = lexer.scan.tokens.map .ok ∧
    (∀ token ∈ lexer.scan.tokens, token.kind ≠ .endOfLine) ∧
    (lexer.scan.failure = none →
      ∃ last, lexer.answer lexer.scan.tokens.length = .ok last ∧ last.kind = .endOfLine) ∧
    ∀ err, lexer.scan.failure = some err →
      lexer.answer lexer.scan.tokens.length = .error err := by
  induction size : lexer.rest.length using Nat.strong_induction_on generalizing lexer with
  | _ n ih =>
    cases told : lexer.next with
    | mk result after =>
      have first : lexer.answer 0 = result := congrArg Prod.fst told
      cases result with
      | error err =>
        rw [scan_failed told]
        refine ⟨rfl, nofun, nofun, ?_⟩
        rintro _ ⟨⟩
        exact first
      | ok token =>
        by_cases ended : token.kind = .endOfLine
        · rw [scan_ended told ended]
          exact ⟨rfl, nofun, fun _ => ⟨token, first, ended⟩, nofun⟩
        · have shorter := length_next told ended
          have behind (count : Nat) : lexer.answer (count + 1) = after.answer count := by
            rw [answer_next, told]
          obtain ⟨answers, proper, last⟩ := ih _ (by omega) after rfl
          rw [scan_token told ended]
          simp only [List.length_cons, behind]
          refine ⟨?_, List.forall_mem_cons.mpr ⟨ended, proper⟩, last⟩
          rw [List.range_succ_eq_map, List.map_cons, List.map_map, List.map_cons, first, ← answers]
          exact congrArg _ (List.map_congr_left fun count _ => behind count)

end Lexer

open Lexer

/-- However often tokens are asked for, the lexer stays in its line. It gets on with every answer
but the last one, which it repeats without moving; no more answers than the line has bytes are
before that, and the tokens of the line are the answers up to its end or to the first error. -/
theorem answers_progress (line : String) :
    let lexer : Lexer := .ofLine line
    (∀ count, ∃ consumed, line = consumed ++ (lexer.asked count).remainder ∧
      (lexer.asked count).column = consumed.utf8ByteSize) ∧
    (∀ count, ¬Final (lexer.answer count) →
      (lexer.asked (count + 1)).remainder.utf8ByteSize <
        (lexer.asked count).remainder.utf8ByteSize) ∧
    (∀ count, Final (lexer.answer count) → ∀ later, count ≤ later →
      lexer.answer later = lexer.answer count ∧
        lexer.asked (later + 1) = lexer.asked (count + 1)) ∧
    (∃ count ≤ line.utf8ByteSize, Final (lexer.answer count) ∧
      ∀ earlier < count, ¬Final (lexer.answer earlier)) ∧
    ∃ tokens, tokens.length ≤ line.utf8ByteSize ∧
      (List.range tokens.length).map lexer.answer = tokens.map .ok ∧
      (∀ token ∈ tokens, token.kind ≠ .endOfLine) ∧
      ((tokenize line = .ok tokens ∧
          ∃ last, lexer.answer tokens.length = .ok last ∧ last.kind = .endOfLine) ∨
        ∃ err, tokenize line = .error err ∧ lexer.answer tokens.length = .error err) := by
  intro lexer
  have bytes : byteLength lexer.rest = line.utf8ByteSize := by
    rw [← Text.utf8ByteSize_ofList]
    exact congrArg String.utf8ByteSize String.ofList_toList
  refine ⟨fun count => ?_, fun count going => ?_, fun count final later behind => ?_, ?_, ?_⟩
  · obtain ⟨taken, split, column⟩ := lexer.asked_takes count
    refine ⟨String.ofList taken, ?_, ?_⟩
    · rw [remainder, ← String.ofList_append, ← split]
      exact String.ofList_toList.symm
    · rw [Text.utf8ByteSize_ofList, column]
      exact Nat.zero_add _
  · rw [remainder, remainder, Text.utf8ByteSize_ofList, Text.utf8ByteSize_ofList]
    exact asked_shortens going
  · have same := next_of_final final behind
    rw [asked_succ, asked_succ, Lexer.answer, Lexer.answer, same]
    exact ⟨rfl, rfl⟩
  · rw [← bytes]
    exact lexer.exists_final
  · obtain ⟨answers, proper, last, stopped⟩ := lexer.scan_answers
    have going : ∀ earlier < lexer.scan.tokens.length, ¬Final (lexer.answer earlier) := by
      intro earlier less
      have told := congrArg (·[earlier]?) answers
      simp only [List.getElem?_map, List.getElem?_range less, List.getElem?_eq_getElem less,
        Option.map_some, Option.some.injEq] at told
      rw [told]
      exact not_final_of_token (proper _ (List.getElem_mem less))
    have bound := asked_bound going
    refine ⟨lexer.scan.tokens, by omega, answers, proper, ?_⟩
    cases failed : lexer.scan.failure with
    | none => exact .inl ⟨tokenize_scan failed, last failed⟩
    | some err => exact .inr ⟨err, tokenize_eq_error.mpr failed, stopped err failed⟩

/-- An operator glued to a zero and to the digit behind it, and a letter that nothing begins with. -/
theorem answers_progress_glued :
    let lexer : Lexer := .ofLine "(*05\u3000é"
    ¬Final (lexer.answer 2) ∧ ¬Final (lexer.answer 3) ∧
      (lexer.asked 4).remainder.utf8ByteSize < (lexer.asked 3).remainder.utf8ByteSize ∧
      ∀ later, 4 ≤ later → lexer.answer later = .error (.invalidToken "é" (.columns 7 9)) := by
  have second : (Lexer.ofLine "(*05\u3000é").answer 2 =
      .error (.gluedNumber "*0" (.columns 1 3)) := by decide +kernel
  have third : (Lexer.ofLine "(*05\u3000é").answer 3 =
      .error (.gluedNumber "*5" (.columns 1 4)) := by decide +kernel
  have last : (Lexer.ofLine "(*05\u3000é").answer 4 =
      .error (.invalidToken "é" (.columns 7 9)) := by decide +kernel
  obtain ⟨-, shorter, stuck, -⟩ := answers_progress "(*05\u3000é"
  have going : ¬Final ((Lexer.ofLine "(*05\u3000é").answer 3) := by
    rw [third]
    exact nofun
  have final : Final ((Lexer.ofLine "(*05\u3000é").answer 4) := by
    rw [last]
    exact .unfit
  refine ⟨?_, going, shorter 3 going, fun later behind => ?_⟩
  · rw [second]
    exact nofun
  · rw [← last]
    exact (stuck 4 final later behind).1

end LineLisp
