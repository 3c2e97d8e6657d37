import Querent.Proofs.Clause.Template
import Querent.Proofs.Text.Blank

/-! When a comparison compiles, and the template that it compiles to. -/

namespace Querent

/-- Blanks around a token do not matter. -/
theorem Operator.parse?_trim (token : String) : parse? (trim token) = parse? token := by
  -- The token is trimmed before it is looked up.
  simp [parse?, trim_trim]

/-- The word of an operator names it. -/
theorem Operator.parse?_sql (operator : Operator) : parse? operator.sql = some operator := by
  cases operator <;> decide

/-- Different operators have different words. -/
theorem Operator.sql_injective : Function.Injective sql := by
  intro operator other same
  rw [← Option.some_inj, ← parse?_sql, same, parse?_sql]

/-- A token that names an operator is not blank. -/
theorem Operator.isBlankText_of_named {token : String} {operator : Operator}
    (named : parse? token = some operator) : isBlankText token = false := by
  rw [Bool.eq_false_iff]
  intro blank
  -- Without its blanks it would be empty, and name nothing.
  have empty : trim token = "" := String.isEmpty_iff.mp blank
  have nothing : parse? "" = none := by decide
  rw [← parse?_trim, empty, nothing] at named
  cases named

/-- Whether an operator compares with a value that may turn out to be null. -/
def Operator.comparesValue : Operator → Bool
  | isIn | between | notBetween | is | isNot => false
  | _ => true

/-- An operator that compares with a value takes neither a range nor a choice, and is no test. -/
theorem Operator.takes_of_comparesValue {operator : Operator}
    (compares : operator.comparesValue = true) :
    operator.isRange = false ∧ operator ≠ .isIn ∧ operator ≠ .is ∧ operator ≠ .isNot := by
  cases operator <;> simp [comparesValue, isRange] at compares ⊢

namespace Comparison

/-- The operator that a comparison names. -/
def operator? (terms : Comparison) : Option Operator :=
  terms.operator.bind Operator.parse?

/-- A comparison with the word of an operator names this operator. -/
theorem operator?_of_sql {terms : Comparison} {operator : Operator}
    (given : terms.operator = some operator.sql) : terms.operator? = some operator := by
  rw [operator?, given, Option.bind_some, Operator.parse?_sql]

/-- Whether the right-hand side is what an operator takes. -/
def Fits (terms : Comparison) : Operator → Prop
  | .between | .notBetween =>
    ∃ low high, terms.operand = .single low ∧ terms.combiner = some high
  | .isIn => terms.operand.values ≠ []
  | .like | .notLike =>
    ∃ value, terms.operand = .single value ∧
      (value.isNullToken = true ∨ ∃ c ∈ value.sqlText.toList, c ∈ ['_', '%', '?'])
  | _ => ∃ value, terms.operand = .single value

/-- What a clause asks of a comparison. -/
structure Valid (terms : Comparison) : Prop where
  key : isBlankText terms.key = false
  token : ∃ token, terms.operator = some token ∧ isBlankText token = false
  fits : ∃ operator, terms.operator? = some operator ∧ terms.Fits operator

/-- The values that are bound for an operator, in the order of the text. -/
def boundFor (terms : Comparison) : Operator → List Value
  | .between | .notBetween => terms.operand.values ++ terms.combiner.toList
  | .isIn => terms.operand.values
  | .is | .isNot => []
  | _ => terms.operand.values.filter fun value => !value.isNullToken

/-- The text for an operator, with slots for the values. -/
def templateFor (terms : Comparison) (operator : Operator) : Template :=
  let key := trim terms.key
  let values := terms.boundFor operator
  match operator with
  | .between | .notBetween =>
    .fixed (key ++ " " ++ operator.sql ++ " ") :: Template.slots " AND " values
  | .isIn => .fixed (key ++ " IN (") :: Template.slots ", " values ++ [.fixed ")"]
  | .isNot => [.fixed (key ++ " IS NOT NULL")]
  | operator =>
    -- Null can only be compared by IS.
    if values.isEmpty then [.fixed (key ++ " IS NULL")]
    else .fixed (key ++ " " ++ operator.sql ++ " ") :: values.map .slot

/-- What joins a comparison with an operator to the next one. -/
def joinerFor (terms : Comparison) (operator : Operator) : Combiner :=
  .resolve (if operator.isRange then terms.extra else terms.combiner.bind Value.asText?)

/-- The values that a comparison binds, in the order of its text. -/
def bound (terms : Comparison) : List Value :=
  (terms.operator?.map terms.boundFor).getD []

/-- The text of a comparison, with slots for its values. -/
def template (terms : Comparison) : Template :=
  (terms.operator?.map terms.templateFor).getD []

/-- What joins a comparison to the next one. -/
def joiner (terms : Comparison) : Combiner :=
  (terms.operator?.map terms.joinerFor).getD .and

variable {terms : Comparison}

/-- The slots of a comparison are those for its values. -/
theorem values_templateFor (terms : Comparison) (operator : Operator) :
    (terms.templateFor operator).values = terms.boundFor operator := by
  -- Slots alone have their values in their order.
  have each : ∀ values : List Value, Template.values (values.map .slot) = values := by
    intro values
    induction values with
    | nil => rfl
    | cons value values ih => rw [List.map_cons, Template.values, ih]
  -- Fixed text in front and behind has no values.
  cases operator <;> simp only [templateFor]
  case between | notBetween => rw [Template.values, Template.values_slots]
  case isIn => simp [Template.values, Template.values_slots]
  case isNot => rfl
  all_goals
    split
    · -- Without a value to bind there is no slot.
      next none => simpa [Template.values] using none
    · rw [Template.values, each]

/-- An operator is found exactly where a token is given that names it. -/
theorem requireOperator_eq_ok_iff (key : String) (operator : Operator) :
    terms.requireOperator key = .ok operator ↔
      (∃ token, terms.operator = some token ∧ isBlankText token = false) ∧
        terms.operator? = some operator := by
  -- Both sides look up the token, and the left one also asks that it is not blank.
  unfold requireOperator operator?
  cases terms.operator with
  | none => simp
  | some token =>
    by_cases blank : trim token = ""
    · -- Nothing is left of a blank token.
      simp [Option.filter, blank, isBlankText]
    · cases named : Operator.parse? token <;>
        simp [Option.filter, blank, isBlankText, Operator.parse?_trim, named]

variable {binding : Binding} {pending : Nat} {fragment : Fragment} {operator : Operator}

/-- A range is written with a slot for each of its bounds. -/
theorem templateFor_of_range (range : operator.isRange = true) :
    terms.templateFor operator = .fixed (trim terms.key ++ " " ++ operator.sql ++ " ") ::
      Template.slots " AND " (terms.operand.values ++ terms.combiner.toList) := by
  cases operator
  case between | notBetween => simp only [templateFor, boundFor]
  all_goals cases range

/-- A range compiles exactly where it has a single lower bound and an upper one. -/
theorem compileRange_eq_ok_iff (range : operator.isRange = true) :
    terms.compileRange binding pending (trim terms.key) operator = .ok fragment ↔
      terms.Fits operator ∧
        fragment =
          ⟨(terms.templateFor operator).write binding pending, terms.joinerFor operator⟩ := by
  -- There are two operators of ranges, and they are treated alike.
  have which : operator = .between ∨ operator = .notBetween := by
    cases operator <;> simp [Operator.isRange] at range ⊢
  have fits : terms.Fits operator ↔
      ∃ low high, terms.operand = .single low ∧ terms.combiner = some high := by
    rcases which with rfl | rfl <;> rw [Fits]
  rw [fits, templateFor_of_range range, joinerFor, if_pos range]
  unfold compileRange singleValue
  cases operand : terms.operand with
  -- A list is no lower bound.
  | list values => simp [Operand.single?, bind, Except.bind]
  | single low =>
    cases upper : terms.combiner with
    -- The place of the upper bound is empty.
    | none => simp [Operand.single?, bind, Except.bind]
    | some high =>
      -- Both bounds are there, in the order in which they are bound.
      simp only [Operand.single?, bind, Except.bind, pure, Except.pure, Except.ok.injEq,
        Operand.values, Option.toList_some, List.singleton_append, Template.joined_bind,
        Template.write_fixed_cons]
      constructor
      · rintro rfl
        exact ⟨⟨low, high, rfl, rfl⟩, rfl⟩
      · rintro ⟨-, rfl⟩
        rfl

/-- A choice compiles exactly where it has a value. -/
theorem compileChoice_eq_ok_iff :
    terms.compileChoice binding pending (trim terms.key) = .ok fragment ↔
      terms.Fits .isIn ∧
        fragment = ⟨(terms.templateFor .isIn).write binding pending, terms.joinerFor .isIn⟩ := by
  have written : (terms.templateFor .isIn).write binding pending =
      let list := Template.write binding pending (Template.slots ", " terms.operand.values)
      ⟨trim terms.key ++ " IN (" ++ list.text ++ ")", list.values⟩ := by
    -- The parentheses are fixed text around the list.
    simp only [templateFor, boundFor, Template.write_fixed_cons, List.cons_append,
      Template.write_append, Template.write_nil, List.append_nil, String.append_empty,
      String.append_assoc]
  unfold compileChoice
  rw [Fits, written]
  split
  · -- An empty list is refused, and does not fit.
    next none => simp [List.isEmpty_iff.mp none]
  · next some =>
    -- The list is written value by value, with a comma between two of them.
    have given : terms.operand.values ≠ [] := by simpa using some
    simp only [Template.joined_bind, Except.ok.injEq, given, ne_eq, not_false_eq_true, true_and]
    exact eq_comm

/-- A comparison with null, by whatever operator, is written without a slot. -/
theorem templateFor_of_null {value : Value} (operand : terms.operand = .single value)
    (single : operator.isRange = false) (other : operator ≠ .isIn)
    (null : value.isNullToken = true ∨ operator = .is ∨ operator = .isNot) :
    terms.templateFor operator = [.fixed (trim terms.key ++ " " ++
      (if operator = .isNot then Operator.isNot else Operator.is).sql ++ " NULL")] := by
  have joined : ∀ word : String, trim terms.key ++ " " ++ word ++ " NULL" =
      trim terms.key ++ (" " ++ word ++ " NULL") := by simp [String.append_assoc]
  rw [joined]
  -- Either the operator binds nothing, or there is nothing but null to bind.
  cases operator <;>
    simp_all [templateFor, boundFor, Operand.values, Operator.isRange, Operator.sql]

/-- A comparison with null, by an operator that compares with a value, is the test for null. -/
theorem template_of_null (named : terms.operator? = some operator)
    (compares : operator.comparesValue = true) {value : Value}
    (operand : terms.operand = .single value) (null : value.isNullToken = true) :
    terms.template = [.fixed (trim terms.key ++ " IS NULL")] := by
  obtain ⟨single, choice, -, other⟩ := Operator.takes_of_comparesValue compares
  rw [template, named, Option.map_some, Option.getD_some,
    templateFor_of_null operand single choice (.inl null), if_neg other]
  simp [String.append_assoc, Operator.sql]

/-- A comparison with any other value is written with one slot. -/
theorem templateFor_of_some {value : Value} (operand : terms.operand = .single value)
    (single : operator.isRange = false) (other : operator ≠ .isIn)
    (some : ¬(value.isNullToken = true ∨ operator = .is ∨ operator = .isNot)) :
    terms.templateFor operator =
      [.fixed (trim terms.key ++ " " ++ operator.sql ++ " "), .slot value] := by
  -- The only value is not null, so it is bound.
  cases operator <;> simp_all [templateFor, boundFor, Operand.values, Operator.isRange]

/-- Any other comparison compiles exactly where it has a single value of the form it takes. -/
theorem compileSingle_eq_ok_iff (single : operator.isRange = false) (other : operator ≠ .isIn) :
    terms.compileSingle binding pending (trim terms.key) operator = .ok fragment ↔
      terms.Fits operator ∧
        fragment =
          ⟨(terms.templateFor operator).write binding pending, terms.joinerFor operator⟩ := by
  unfold compileSingle singleValue
  cases operand : terms.operand with
  | list values =>
    -- A list fits IN alone.
    have misfit : ¬terms.Fits operator := by
      cases operator <;> simp_all [Fits, Operator.isRange]
    simp [Operand.single?, bind, Except.bind, misfit]
  | single value =>
    rw [joinerFor, single]
    simp only [Operand.single?, bind, Except.bind, pure, Except.pure]
    by_cases null : value.isNullToken = true ∨ operator = .is ∨ operator = .isNot
    · -- Null fits every operator, and no value is looked at beside IS.
      have taken : (value.isNullToken || decide (operator = .is) || decide (operator = .isNot)) =
          true := by simpa [or_assoc] using null
      have fits : terms.Fits operator := by
        cases operator <;> simp_all [Fits, Operator.isRange]
      rw [if_pos taken, templateFor_of_null operand single other null, Template.write_fixed]
      simp only [Except.ok.injEq, fits, true_and]
      exact eq_comm
    · have taken : ¬(value.isNullToken || decide (operator = .is) || decide (operator = .isNot)) =
          true := by simpa [or_assoc] using null
      rw [if_neg taken, templateFor_of_some operand single other null, Template.write_fixed_cons,
        Template.write_slot]
      -- Only a pattern is looked at more closely.
      have fits : terms.Fits operator ↔ ¬((decide (operator = .like) ||
          decide (operator = .notLike)) && !value.sqlText.toList.any (wildcards.contains ·)) =
            true := by
        cases operator <;> simp_all [Fits, Operator.isRange, wildcards, or_iff_not_imp_left]
      by_cases lacking : ((decide (operator = .like) || decide (operator = .notLike)) &&
          !value.sqlText.toList.any (wildcards.contains ·)) = true
      · -- A pattern without a wildcard is refused, and does not fit.
        have misfit : ¬terms.Fits operator := fun fit => fits.mp fit lacking
        rw [if_pos lacking]
        simp [misfit]
      · -- The value is bound by itself.
        have fit := fits.mpr lacking
        rw [if_neg lacking]
        simp only [Except.ok.injEq, fit, true_and]
        exact eq_comm

/-- A comparison compiles exactly where it is valid, and then to its template and its joiner. -/
theorem compile_eq_ok_iff :
    terms.compile binding pending = .ok fragment ↔
      terms.Valid ∧ fragment = ⟨terms.template.write binding pending, terms.joiner⟩ := by
  unfold compile
  cases blank : isBlankText terms.key with
  -- The key is looked at first, then the operator, and then what the operator takes.
  | true =>
    -- Without a key there is neither a text nor a valid comparison.
    have none : (trim terms.key).isEmpty = true := blank
    have invalid : ¬terms.Valid := fun valid => by
      have key := valid.key
      rw [blank] at key
      cases key
    simp [none, invalid]
  | false =>
    have some : (trim terms.key).isEmpty = false := blank
    simp only [some, Bool.false_eq_true, if_false, bind, Except.bind]
    cases found : terms.requireOperator (trim terms.key) with
    | error fault =>
      -- A valid comparison would have an operator to be found.
      have invalid : ¬terms.Valid := fun valid => by
        obtain ⟨operator, named, -⟩ := valid.fits
        rw [(requireOperator_eq_ok_iff _ operator).mpr ⟨valid.token, named⟩] at found
        cases found
      simp [invalid]
    | ok operator =>
      obtain ⟨token, named⟩ := (requireOperator_eq_ok_iff _ operator).mp found
      -- With key and operator in place, only the right-hand side is left to be judged.
      have valid : terms.Valid ↔ terms.Fits operator := by
        constructor
        · rintro ⟨-, -, other, named', fits⟩
          rw [named] at named'
          obtain rfl := Option.some.inj named'
          exact fits
        · intro fits
          exact ⟨blank, token, operator, named, fits⟩
      rw [valid, template, joiner, named, Option.map_some, Option.map_some, Option.getD_some,
        Option.getD_some]
      -- Each kind of operator has a compiler of its own.
      by_cases choice : operator = .isIn
      · subst choice
        exact compileChoice_eq_ok_iff
      · cases range : operator.isRange with
        | true =>
          rw [← compileRange_eq_ok_iff range]
          simp only [range, if_true]
        | false =>
          rw [← compileSingle_eq_ok_iff range choice]
          simp only [range, Bool.false_eq_true, if_false]

end Comparison

end Querent
