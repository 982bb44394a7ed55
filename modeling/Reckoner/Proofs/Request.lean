import Reckoner.Proofs.Composition
import Reckoner.Proofs.Settings.Validation
import Reckoner.Request

/-!
# Every request has a response

A payload is answered whatever it is, and the response says what the calculation ended with.  Under
valid settings nothing that a response needs can be misused: a calculation has no NaN to show, and
the number of digits is one that can be asked for.
-/

namespace Reckoner

/-- A number is shown with any number of digits that valid settings ask for. -/
theorem Answer.exists_text {settings : Settings} {x : Binary64} (valid : settings.Valid)
    (real : x.isNaN = false) : ∃ shown, text settings.precision x = .ok shown := by
  cases x with
  | nan => cases real
  | infinite negative => exact ⟨_, rfl⟩
  | finite negative magnitude =>
      cases asked : settings.precision with
      | none => exact ⟨_, rfl⟩
      | some precision =>
          obtain ⟨least, greatest⟩ := valid.2.2 precision asked
          rw [Settings.greatestPrecision] at greatest
          have counted : places precision = .ok precision.toNat := by
            rw [places, greatestReadablePlaces, greatestPlaces, if_neg (by omega),
              if_neg (by omega), if_neg (by omega)]
          refine ⟨numberText (rounded precision.toNat (.finite negative magnitude)), ?_⟩
          rw [text, counted]
          rfl

theorem RequestError.message_ne_empty (error : RequestError) : error.message ≠ "" := by
  cases error <;> decide

namespace Request

variable {context : Context} {payload : Data} {expression : String}
  {entries : List (String × Data)} {errors : List RequestError}

/-- The payload is a table in which the expression is a text and nothing else is found. -/
def Describes (payload : Data) (expression : String) : Prop :=
  ∃ entries, payload = .table entries ∧
    entries.lookup expressionField = some (.text expression) ∧
    ∀ entry ∈ entries, entry.1 = expressionField

theorem unknownFields_eq_nil_iff :
    unknownFields entries = [] ↔ ∀ entry ∈ entries, entry.1 = expressionField := by
  simp [unknownFields]

/-- A payload is taken for a request exactly when it describes one. -/
theorem ofData_eq_ok_iff : ofData payload = .ok ⟨expression⟩ ↔ Describes payload expression := by
  cases payload with
  | table entries =>
      constructor
      · intro accepted
        rw [ofData] at accepted
        split at accepted
        · rename_i found known
          cases accepted
          exact ⟨entries, rfl, found, unknownFields_eq_nil_iff.1 known⟩
        all_goals cases accepted
      · rintro ⟨_, ⟨⟩, found, known⟩
        rw [ofData, found, unknownFields_eq_nil_iff.2 known]
  | _ =>
      constructor
      · intro accepted
        cases accepted
      · rintro ⟨_, ⟨⟩, _⟩

theorem Describes.unique {other : String} (h : Describes payload other)
    (h' : Describes payload expression) : other = expression :=
  congrArg Request.expression
    (Except.ok.inj ((ofData_eq_ok_iff.2 h).symm.trans (ofData_eq_ok_iff.2 h')))

/-- A payload that is rejected is rejected for a reason. -/
theorem ne_nil_of_ofData (rejected : ofData payload = .error errors) : errors ≠ [] := by
  cases payload with
  | table entries =>
      rw [ofData] at rejected
      split at rejected
      · cases rejected
      · rename_i unknown
        cases rejected
        exact fun known => unknown known
      · cases rejected
        exact List.cons_ne_nil _ _
      · cases rejected
        exact List.cons_ne_nil _ _
  | _ =>
      cases rejected
      exact List.cons_ne_nil _ _

/-- The response to a rejected payload says what is wrong with it. -/
theorem exists_detail (nonempty : errors ≠ []) :
    ∃ detail, detail ≠ "" ∧
      Response.ofRequestErrors errors = .failure Response.invalidRequest detail none := by
  refine ⟨_, ?_, rfl⟩
  obtain ⟨error, others, rfl⟩ := List.exists_cons_of_ne_nil nonempty
  rw [List.map_cons]
  cases others.map (·.message) with
  | nil =>
      rw [String.intercalate_singleton]
      exact error.message_ne_empty
  | cons next later =>
      rw [String.intercalate_cons_cons, Ne, String.append_eq_empty_iff, String.append_eq_empty_iff]
      exact fun empty => error.message_ne_empty empty.1.1

theorem handle_of_describes (described : Describes payload expression) :
    handle context payload = respond context ⟨expression⟩ := by
  rw [handle, ofData_eq_ok_iff.2 described]

theorem handle_of_not_describes (undescribed : ∀ expression, ¬Describes payload expression) :
    ∃ detail, detail ≠ "" ∧
      handle context payload = .ok (.failure Response.invalidRequest detail none) := by
  unfold handle
  cases outcome : ofData payload with
  | ok request => exact absurd (ofData_eq_ok_iff.1 outcome) (undescribed request.expression)
  | error errors =>
      obtain ⟨detail, nonempty, same⟩ := exists_detail (ne_nil_of_ofData outcome)
      exact ⟨detail, nonempty, congrArg _ same⟩

theorem respond_of_failure {cause : Failure}
    (failed : calculate context expression = .error (.failure cause)) :
    respond context ⟨expression⟩ = .ok (.ofFailure cause) := by
  rw [respond, failed]

theorem respond_of_value {value : Binary64} {shown : String}
    (calculated : calculate context expression = .ok value)
    (written : Answer.text context.settings.precision value = .ok shown) :
    respond context ⟨expression⟩ = .ok (.result shown) := by
  rw [respond, calculated]
  dsimp only
  rw [written]
  rfl

/-- A response shows the value of the described expression, or reports the failure of its
calculation, or rejects a payload that describes no expression. -/
theorem handle_cases (valid : context.settings.Valid) :
    (∃ expression value shown, Describes payload expression ∧
        calculate context expression = .ok value ∧
        Answer.text context.settings.precision value = .ok shown ∧
        handle context payload = .ok (.result shown)) ∨
      (∃ expression cause, Describes payload expression ∧
        calculate context expression = .error (.failure cause) ∧
        handle context payload = .ok (.ofFailure cause)) ∨
      (∀ expression, ¬Describes payload expression) ∧ ∃ detail, detail ≠ "" ∧
        handle context payload = .ok (.failure Response.invalidRequest detail none) := by
  by_cases described : ∃ expression, Describes payload expression
  · obtain ⟨expression, described⟩ := described
    have sound : Ensures _ _ (calculate context expression) := ensures_calculate
    rw [handle_of_describes described]
    cases outcome : calculate context expression with
    | ok value =>
        rw [outcome] at sound
        obtain ⟨shown, written⟩ := Answer.exists_text valid sound
        exact .inl ⟨expression, value, shown, described, outcome, written,
          respond_of_value outcome written⟩
    | error fault =>
        rw [outcome] at sound
        obtain ⟨cause, rfl⟩ := sound
        exact .inr (.inl ⟨expression, cause, described, outcome, respond_of_failure outcome⟩)
  · have undescribed := not_exists.1 described
    exact .inr (.inr ⟨undescribed, handle_of_not_describes undescribed⟩)

/-- Under valid settings every payload has a response.  It shows a text exactly when the payload
describes an expression with a value that is written so; it reports the failure of a calculation
with its kind, message and position; and where there is neither a value nor such a failure, it says
that the request is invalid. -/
theorem handle_faithful (context : Context) (valid : context.settings.Valid) (payload : Data) :
    ∃ response, handle context payload = .ok response ∧
      (∀ shown, response = .result shown ↔ ∃ expression value, Describes payload expression ∧
        calculate context expression = .ok value ∧
        Answer.text context.settings.precision value = .ok shown) ∧
      (∀ expression cause, Describes payload expression →
        calculate context expression = .error (.failure cause) →
        response = .failure cause.kind.name cause.message cause.position?) ∧
      ((∀ expression, Describes payload expression →
          (∀ value, calculate context expression ≠ .ok value) ∧
          ∀ cause, calculate context expression ≠ .error (.failure cause)) →
        ∃ detail, detail ≠ "" ∧ response = .failure Response.invalidRequest detail none) := by
  rcases handle_cases valid with
    ⟨expression, value, shown, described, calculated, written, handled⟩ |
    ⟨expression, cause, described, failed, handled⟩ | ⟨undescribed, detail, nonempty, handled⟩
  · refine ⟨_, handled, fun shown' => ⟨?_, ?_⟩, ?_, ?_⟩
    · rintro ⟨⟩
      exact ⟨expression, value, described, calculated, written⟩
    · rintro ⟨other, value', h, calculated', written'⟩
      cases h.unique described
      cases calculated.symm.trans calculated'
      cases written.symm.trans written'
      rfl
    · intro other cause h failed
      cases h.unique described
      cases calculated.symm.trans failed
    · intro neither
      exact absurd calculated ((neither expression described).1 value)
  · refine ⟨_, handled, fun shown => ⟨?_, ?_⟩, ?_, ?_⟩
    · rintro ⟨⟩
    · rintro ⟨other, value, h, calculated, _⟩
      cases h.unique described
      cases failed.symm.trans calculated
    · intro other cause' h failed'
      cases h.unique described
      cases failed.symm.trans failed'
      rfl
    · intro neither
      exact absurd failed ((neither expression described).2 cause)
  · refine ⟨_, handled, fun shown => ⟨?_, ?_⟩, ?_, fun _ => ⟨detail, nonempty, rfl⟩⟩
    · rintro ⟨⟩
    · rintro ⟨expression, _, h, _⟩
      exact absurd h (undescribed expression)
    · intro expression cause h
      exact absurd h (undescribed expression)

/-- Settings that ask for three digits are valid, and under them a payload with the expression
`pi/e` is answered with three digits of its value. -/
theorem handle_quotient :
    { Settings.default with precision := some 3 }.Valid ∧
      handle ⟨.platform, { Settings.default with precision := some 3 }⟩
        (.table [(expressionField, .text "pi/e")]) = .ok (.result "1.16") := by
  have valid : { Settings.default with precision := some 3 }.Valid := by
    refine ⟨by decide, by decide +kernel, ?_⟩
    rintro precision ⟨⟩
    decide
  have described : Describes (.table [(expressionField, .text "pi/e")]) "pi/e" :=
    ⟨_, rfl, rfl, by simp⟩
  have phrase : Phrase .expression 1 "pi/e".toList _ :=
    .binary .div (.constant .pi) [] nofun [] nofun (.constant .e)
  have calculated : calculate ⟨.platform, { Settings.default with precision := some 3 }⟩ "pi/e" =
      .ok (Constant.pi.value / Constant.e.value) := by
    rw [calculate_of_phrase phrase (by decide)]
    decide +kernel
  have written : Answer.text (some 3) (Constant.pi.value / Constant.e.value) = .ok "1.16" := by
    decide +kernel
  obtain ⟨response, handled, shows, -⟩ := handle_faithful
    ⟨.platform, { Settings.default with precision := some 3 }⟩ valid
    (.table [(expressionField, .text "pi/e")])
  have shown := (shows "1.16").2 ⟨"pi/e", _, described, calculated, written⟩
  exact ⟨valid, handled.trans (congrArg _ shown)⟩

end Request

end Reckoner
