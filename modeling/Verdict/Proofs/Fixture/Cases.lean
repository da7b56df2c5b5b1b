import Mathlib.Data.List.Forall2
import Verdict.Fixture

/-!
# Which cases pass

A fixture puts its query to the document of each case. What comes of that is one thing and no other
(`AnswerOf`, `answerOf_iff`): the query is read first, so a query that cannot be read answers for
every case, whatever may be wrong with the document. A case passes just in case it expects something
and the answer is as it expects (`IsMetBy`, `complaint?_eq_none_iff`); a fault is not what is
expected unless it is expected by name.
-/

namespace Verdict

/-! ### Answers -/

/-- What comes of a query on a document, both as a fixture writes them. -/
inductive AnswerOf (query document : Json) : Except Fault Explanation → Prop
  | unreadQuery {cause : LiteralError} (hquery : query.toFixtureValue = .error cause) :
      AnswerOf query document (.error (.literal cause))
  | noDocument {leaf : Value} (hquery : query.toFixtureValue = .ok leaf)
      (hkind : ∀ entries, leaf ≠ .document entries) :
      AnswerOf query document (.error (.literal (.notADocument leaf.typeName)))
  | unreadDocument {asked : Document} {cause : LiteralError}
      (hquery : query.toFixtureValue = .ok (.document asked))
      (hdocument : document.toFixtureValue = .error cause) :
      AnswerOf query document (.error (.literal cause))
  | rejected {asked : Document} {value : Value} {cause : Rejection}
      (hquery : query.toFixtureValue = .ok (.document asked))
      (hdocument : document.toFixtureValue = .ok value)
      (hanswer : explain asked value = .error cause) :
      AnswerOf query document (.error (.rejection cause))
  | explained {asked : Document} {value : Value} {explanation : Explanation}
      (hquery : query.toFixtureValue = .ok (.document asked))
      (hdocument : document.toFixtureValue = .ok value)
      (hanswer : explain asked value = .ok explanation) :
      AnswerOf query document (.ok explanation)

namespace Json

variable {json : Json}

theorem toFixtureDocument_of_error {cause : LiteralError} (h : json.toFixtureValue = .error cause) :
    json.toFixtureDocument = .error cause := by
  rw [toFixtureDocument, h]
  rfl

theorem toFixtureDocument_of_document {entries : Document}
    (h : json.toFixtureValue = .ok (.document entries)) : json.toFixtureDocument = .ok entries := by
  rw [toFixtureDocument, h]
  rfl

theorem toFixtureDocument_of_ok {value : Value} (h : json.toFixtureValue = .ok value)
    (hkind : ∀ entries, value ≠ .document entries) :
    json.toFixtureDocument = .error (.notADocument value.typeName) := by
  rw [toFixtureDocument, h]
  cases value with
  | document entries => exact absurd rfl (hkind entries)
  | _ => rfl

end Json

/-- Whatever is put to whatever, something comes of it. -/
theorem exists_answerOf (query document : Json) : ∃ answer, AnswerOf query document answer := by
  cases hquery : query.toFixtureValue with
  | error cause => exact ⟨_, .unreadQuery hquery⟩
  | ok asked =>
      cases asked with
      | document entries =>
          cases hdocument : document.toFixtureValue with
          | error cause => exact ⟨_, .unreadDocument hquery hdocument⟩
          | ok value =>
              cases hanswer : explain entries value with
              | error cause => exact ⟨_, .rejected hquery hdocument hanswer⟩
              | ok explanation => exact ⟨_, .explained hquery hdocument hanswer⟩
      | _ => exact ⟨_, .noDocument hquery nofun⟩

namespace FixtureCase

variable {c : FixtureCase} {query : Json} {answer : Except Fault Explanation}

theorem answer_eq_of_answerOf (h : AnswerOf query c.document answer) :
    c.answer query.toFixtureDocument = answer := by
  cases h with
  | unreadQuery hquery => rw [Json.toFixtureDocument_of_error hquery, FixtureCase.answer]
  | noDocument hquery hkind => rw [Json.toFixtureDocument_of_ok hquery hkind, FixtureCase.answer]
  | unreadDocument hquery hdocument =>
      rw [Json.toFixtureDocument_of_document hquery, FixtureCase.answer]
      simp only [hdocument]
  | rejected hquery hdocument hanswer =>
      rw [Json.toFixtureDocument_of_document hquery, FixtureCase.answer]
      simp only [hdocument, hanswer, Except.mapError]
  | explained hquery hdocument hanswer =>
      rw [Json.toFixtureDocument_of_document hquery, FixtureCase.answer]
      simp only [hdocument, hanswer, Except.mapError]

/-- There is one answer, and it is the one that a fixture finds. -/
theorem answerOf_iff :
    AnswerOf query c.document answer ↔ c.answer query.toFixtureDocument = answer := by
  constructor
  · exact answer_eq_of_answerOf
  · rintro rfl
    obtain ⟨answer, h⟩ := exists_answerOf query c.document
    rwa [answer_eq_of_answerOf h]

/-! ### Expectations -/

/-- A case names something that it expects. -/
def DeclaresExpectation (c : FixtureCase) : Prop :=
  c.expect?.isSome ∨ c.reasons?.isSome ∨ c.error?.isSome

/-- An answer is as a case expects: the fault that it names, or, if it names none, an explanation
with the verdict and the reasons that it names. -/
inductive IsMetBy (c : FixtureCase) : Except Fault Explanation → Prop
  | fault {fault : Fault} (hname : c.error? = some fault.name) : IsMetBy c (.error fault)
  | explanation {explanation : Explanation} (hnone : c.error? = none)
      (hverdict : ∀ matched, c.expect? = some matched → explanation.matched = matched)
      (hreasons : ∀ reasons, c.reasons? = some reasons → explanation.reasons = reasons) :
      IsMetBy c (.ok explanation)

theorem declaresNothing_iff :
    (c.expect?.isNone && c.reasons?.isNone && c.error?.isNone) = true ↔ ¬c.DeclaresExpectation := by
  simp [DeclaresExpectation, and_assoc]

/-- A case that expects nothing is never content. -/
theorem complaint?_ne_none (h : ¬c.DeclaresExpectation) : c.complaint? answer ≠ none := by
  rw [complaint?.eq_def, if_pos (declaresNothing_iff.2 h)]
  exact Option.some_ne_none _

section

variable (h : c.DeclaresExpectation)
include h

theorem complaint?_error_eq_none_iff {fault : Fault} :
    c.complaint? (.error fault) = none ↔ c.error? = some fault.name := by
  rw [complaint?.eq_def, if_neg (mt declaresNothing_iff.1 (not_not_intro h))]
  cases herror : c.error? with
  | none => simp
  | some expected =>
      rw [Option.some.injEq, eq_comm (a := expected)]
      simp

theorem complaint?_ok_eq_none_iff {explanation : Explanation} :
    c.complaint? (.ok explanation) = none ↔
      c.error? = none ∧
        (∀ matched, c.expect? = some matched → explanation.matched = matched) ∧
          ∀ reasons, c.reasons? = some reasons → explanation.reasons = reasons := by
  rw [complaint?.eq_def, if_neg (mt declaresNothing_iff.1 (not_not_intro h))]
  cases herror : c.error? with
  | some expected => simp
  | none =>
      have hverdict : c.expect?.any (· != explanation.matched) = true ↔
          ¬∀ matched, c.expect? = some matched → explanation.matched = matched := by
        cases c.expect? with
        | none => simp
        | some matched =>
            simp only [Option.any_some, bne_iff_ne, Option.some.injEq, forall_eq', ne_eq]
            exact not_congr eq_comm
      simp only [hverdict]
      split
      · rename_i hdiffers
        exact iff_of_false (Option.some_ne_none _) fun hmet => hdiffers hmet.2.1
      · rename_i hagrees
        rw [not_not] at hagrees
        rw [true_and, and_iff_right hagrees]
        cases c.reasons? with
        | none => simp
        | some reasons =>
            simp only [Option.some.injEq, forall_eq', beq_iff_eq]
            split
            · rename_i hreasons
              exact iff_of_true rfl hreasons.symm
            · rename_i hreasons
              exact iff_of_false (Option.some_ne_none _) (Ne.symm hreasons)

end

theorem complaint?_eq_none_iff :
    c.complaint? answer = none ↔ c.DeclaresExpectation ∧ c.IsMetBy answer := by
  by_cases h : c.DeclaresExpectation
  · cases answer with
    | error fault =>
        rw [complaint?_error_eq_none_iff h]
        exact ⟨fun hname => ⟨h, .fault hname⟩, fun ⟨_, .fault hname⟩ => hname⟩
    | ok explanation =>
        rw [complaint?_ok_eq_none_iff h]
        constructor
        · rintro ⟨hnone, hverdict, hreasons⟩
          exact ⟨h, .explanation hnone hverdict hreasons⟩
        · rintro ⟨-, hmet⟩
          cases hmet with
          | explanation hnone hverdict hreasons => exact ⟨hnone, hverdict, hreasons⟩
  · exact iff_of_false (complaint?_ne_none h) fun hpasses => h hpasses.1

end FixtureCase

namespace Fixture

/-- A fixture has a result for each case, under the name of the case and in the order of the cases.
A result passes just in case it has no message, and that is just in case the case expects something
and what comes of the query on its document, which is one thing and no other, is as it expects. -/
theorem run_passes_iff (f : Fixture) :
    List.Forall₂ (fun c result =>
        result.name = c.name ∧ (result.passed ↔ result.message? = none) ∧
          (∃! answer, AnswerOf f.query c.document answer) ∧
          ∀ answer, AnswerOf f.query c.document answer →
            (result.passed ↔ c.DeclaresExpectation ∧ c.IsMetBy answer))
      f.cases f.run := by
  rw [run, List.forall₂_map_right_iff, List.forall₂_same]
  intro c _
  refine ⟨rfl, Option.isNone_iff_eq_none, ?_, ?_⟩
  · refine ⟨c.answer f.query.toFixtureDocument, FixtureCase.answerOf_iff.2 rfl, ?_⟩
    intro other hother
    exact (FixtureCase.answerOf_iff.1 hother).symm
  · intro answer hanswer
    rw [← FixtureCase.complaint?_eq_none_iff, ← FixtureCase.answerOf_iff.1 hanswer]
    exact Option.isNone_iff_eq_none

/-- The fault of the query comes before that of the document, and to expect nothing is not to pass. -/
example : (run ⟨"query", "", .array [], [
    ⟨"query first", .object [("$date", .null)], none, none, some "NotADocument"⟩,
    ⟨"document", .object [("$date", .null)], none, none, some "InvalidDate"⟩,
    ⟨"nothing", .null, none, none, none⟩]⟩).map CaseResult.passed = [true, false, false] := by decide

end Fixture

end Verdict
