import Querent.Clause.Compiler

/-! Text with slots for values, which is written with placeholders or with literals. -/

namespace Querent

/-- A part of a statement: text that is written as it is, or the place of a value. -/
inductive Piece where
  | fixed (text : String)
  | slot (value : Value)
deriving Repr

/-- The parts of a statement, in the order of its text. -/
abbrev Template := List Piece

/-- A value as a literal. -/
def literal (escape : Escape) (value : Value) : String :=
  "'" ++ escape value.sqlText ++ "'"

namespace Template

/-- The values that a template has slots for, in the order of the text. -/
def values : Template → List Value
  | [] => []
  | .fixed _ :: rest => values rest
  | .slot value :: rest => value :: values rest

/-- The text with a placeholder in each slot, numbered from behind those already pending. -/
def numbered : Nat → Template → String
  | _, [] => ""
  | pending, .fixed text :: rest => text ++ numbered pending rest
  | pending, .slot _ :: rest => "?" ++ toString (pending + 1) ++ numbered (pending + 1) rest

/-- The text with a literal in each slot. -/
def literals (escape : Escape) : Template → String
  | [] => ""
  | .fixed text :: rest => text ++ literals escape rest
  | .slot value :: rest => literal escape value ++ literals escape rest

/-- A template as a binding writes it. -/
def write (binding : Binding) (pending : Nat) (template : Template) : Bound :=
  if binding.prepared then ⟨template.numbered pending, template.values⟩
  else ⟨template.literals binding.escape, []⟩

/-- Templates one after another, with a text between neighbours. -/
def separated (separator : String) : List Template → Template
  | [] => []
  | [template] => template
  | template :: others => template ++ .fixed separator :: separated separator others

/-- Slots for some values, with a text between neighbours. -/
def slots (separator : String) (values : List Value) : Template :=
  separated separator (values.map fun value => [.slot value])

/-- The values of two templates follow one another. -/
@[simp] theorem values_append (front back : Template) :
    (front ++ back).values = front.values ++ back.values := by
  -- Only slots count, and they keep their order.
  induction front with
  | nil => rfl
  | cons piece front ih => cases piece <;> simp [values, ih]

/-- Placeholders of the second of two templates are numbered behind those of the first. -/
theorem numbered_append (pending : Nat) (front back : Template) :
    (front ++ back).numbered pending =
      front.numbered pending ++ back.numbered (pending + front.values.length) := by
  induction front generalizing pending with
  | nil => simp [numbered, values]
  | cons piece front ih =>
    cases piece with
    | fixed text => simp [numbered, values, ih, String.append_assoc]
    | slot value =>
      -- The slot in front takes one number from all that follow.
      have next : pending + 1 + (values front).length = pending + ((values front).length + 1) := by
        omega
      simp [numbered, values, ih, String.append_assoc, next]

/-- Literals do not depend on what stands in front of them. -/
theorem literals_append (escape : Escape) (front back : Template) :
    (front ++ back).literals escape = front.literals escape ++ back.literals escape := by
  induction front with
  | nil => simp [literals]
  | cons piece front ih => cases piece <;> simp [literals, ih, String.append_assoc]

variable (binding : Binding) (pending : Nat)

/-- An empty template is no text. -/
theorem write_nil : write binding pending [] = ⟨"", []⟩ := by
  unfold write
  split <;> rfl

/-- A template without a slot is its text. -/
theorem write_fixed (text : String) : write binding pending [.fixed text] = ⟨text, []⟩ := by
  -- Both ways of binding agree on fixed text.
  unfold write
  split <;> simp [numbered, literals, values]

/-- A slot alone is what the binding makes of its value. -/
theorem write_slot (value : Value) :
    write binding pending [.slot value] = binding.bind pending value := by
  unfold write Binding.bind
  split <;> simp [numbered, literals, values, literal]

/-- Two templates are written in turn, the second one with the values of the first one pending. -/
theorem write_append (front back : Template) :
    write binding pending (front ++ back) =
      ⟨(write binding pending front).text ++
          (write binding (pending + (write binding pending front).values.length) back).text,
        (write binding pending front).values ++
          (write binding (pending + (write binding pending front).values.length) back).values⟩ := by
  -- Numbers go on behind the first template, and literals have none.
  unfold write
  split
  · rw [numbered_append, values_append]
  · rw [literals_append, List.append_nil]

/-- Fixed text in front leaves the numbers as they are. -/
theorem write_fixed_cons (text : String) (template : Template) :
    write binding pending (.fixed text :: template) =
      ⟨text ++ (write binding pending template).text, (write binding pending template).values⟩ := by
  have front := write_append binding pending [.fixed text] template
  rw [write_fixed] at front
  simpa using front

/-- Behind the first of several templates stands the separator. -/
theorem separated_cons (separator : String) (template next : Template) (others : List Template) :
    separated separator (template :: next :: others) =
      template ++ .fixed separator :: separated separator (next :: others) := by
  -- The last template is the one that nothing follows.
  rw [separated]
  simp

/-- Items that are each written as a template are joined as the templates with separators. -/
theorem joined_inTurn {α : Type} {put : Nat → α → Bound} {template : α → Template}
    (each : ∀ pending item, put pending item = write binding pending (template item))
    (separator : String) (items : List α) :
    Binding.joined separator (Binding.inTurn put pending items) =
      write binding pending (separated separator (items.map template)) := by
  -- Each item passes on how many values are pending behind it.
  induction items generalizing pending with
  | nil => exact (write_nil binding pending).symm
  | cons item items ih =>
    cases items with
    | nil =>
      rw [List.map_singleton, separated, ← each]
      simp [Binding.inTurn, Binding.joined, joinWith]
    | cons next items =>
      have others := ih (pending + (put pending item).values.length)
      rw [List.map_cons, List.map_cons, separated_cons, write_append, write_fixed_cons,
        ← List.map_cons, ← each, ← others]
      simp [Binding.inTurn, Binding.joined, joinWith, String.append_assoc]

/-- Values in turn are written as their slots with separators. -/
theorem joined_bind (separator : String) (values : List Value) :
    Binding.joined separator (Binding.inTurn binding.bind pending values) =
      write binding pending (slots separator values) :=
  joined_inTurn binding pending (fun pending value => (write_slot binding pending value).symm)
    separator values

/-- Separators have no values. -/
theorem values_separated (separator : String) (templates : List Template) :
    values (separated separator templates) = templates.flatMap values := by
  -- What stands between two templates is fixed text.
  induction templates with
  | nil => rfl
  | cons template templates ih =>
    cases templates with
    | nil => simp [separated]
    | cons next templates => simp [separated_cons, values, ih]

/-- The slots for some values have these values. -/
theorem values_slots (separator : String) (items : List Value) :
    values (slots separator items) = items := by
  rw [slots, values_separated, List.flatMap_map]
  simp [values]

end Template

end Querent
