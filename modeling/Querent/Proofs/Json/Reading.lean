import Querent.Json.Printer
import Querent.Proofs.Number.Layout

/-! JSON text that is printed reads back, whatever follows it. -/

namespace Querent

/-- A unit that is no half of a surrogate pair spells its character. -/
theorem spell_unit {code : Nat} (high : isHighHalf code = false) (low : isLowHalf code = false)
    (parts : List StringPart) :
    spell (.unit code :: parts) = (spell parts).map (Char.ofNat code :: ·) := by
  -- What follows decides only how the reader comes to see that.
  rcases parts with _ | ⟨c | next, parts⟩ <;> simp [spell, high, low]

/-- An escape is read as one part of a string, and that part spells the character. -/
theorem readParts_escape (c : Char) :
    ∃ part : StringPart,
      (∀ tail, readParts (Json.escape c ++ tail) =
        (readParts tail).map fun read => (part :: read.1, read.2)) ∧
      ∀ parts, spell (part :: parts) = (spell parts).map (c :: ·) := by
  -- Characters with an escape of their own are told apart first, as the printer does.
  by_cases short : c ∈ ['"', '\\', '\x08', '\t', '\n', '\x0C', '\r']
  · refine ⟨.plain c, ?_, fun parts => by rw [spell]⟩
    -- Two characters spell it, a backslash and a letter.
    intro tail
    simp only [List.mem_cons, List.not_mem_nil, or_false] at short
    rcases short with rfl | rfl | rfl | rfl | rfl | rfl | rfl <;>
      cases read : readParts tail <;> simp [Json.escape, readParts, shortEscape?, read]
  · simp only [List.mem_cons, List.not_mem_nil, or_false, not_or] at short
    obtain ⟨quote, backslash, b, t, n, f, r⟩ := short
    unfold Json.escape
    simp only [quote, backslash, b, t, n, f, r, if_false]
    split
    · next control =>
      -- Four digits spell the code of any other control character, which is no surrogate.
      have digits : ∀ code < 0x20,
          hexNumber? ['0', '0', hexDigit (code / 16), hexDigit code] = some code := by decide
      refine ⟨.unit c.toNat, ?_, ?_⟩
      · intro tail
        cases read : readParts tail <;> simp [readParts, digits _ control, read]
      · intro parts
        rw [spell_unit, Char.ofNat_toNat] <;> simp [isHighHalf, isLowHalf] <;> omega
    · next plain =>
      -- Any other character stands for itself, and begins no escape.
      refine ⟨.plain c, ?_, fun parts => by rw [spell]⟩
      intro tail
      rw [List.singleton_append, readParts]
      · simp only [plain, backslash]
        cases read : readParts tail <;> simp
      · exact quote
      · exact fun _ _ _ _ _ slash => absurd slash backslash
      · exact fun _ _ slash => absurd slash backslash

/-- A string reads back as the text that it quotes. -/
theorem readString_quote (text : String) (rest : List Char) :
    readString (text.toList.flatMap Json.escape ++ '"' :: rest) = some (some text, rest) := by
  -- The parts follow the characters one by one, and spell them when they are put together.
  have parts : ∀ content : List Char, ∃ parts,
      readParts (content.flatMap Json.escape ++ '"' :: rest) = some (parts, rest) ∧
        spell parts = some content := by
    intro content
    induction content with
    | nil => exact ⟨[], by simp [readParts], rfl⟩
    | cons c content ih =>
      -- The first escape gives one part, and the rest gives the others.
      obtain ⟨parts, read, spelled⟩ := ih
      obtain ⟨part, readPart, spellPart⟩ := readParts_escape c
      refine ⟨part :: parts, ?_, ?_⟩
      · rw [List.flatMap_cons, List.append_assoc, readPart, read, Option.map_some]
      · rw [spellPart, spelled, Option.map_some]
  obtain ⟨parts, read, spelled⟩ := parts text.toList
  simp [readString, read, spelled]

namespace Json

mutual

/-- The document that a value is written as. -/
def document : Json → Document
  | null => .null
  | bool flag => .bool flag
  | whole number => .number (.ofInt number.value)
  | float number => if number.isFinite then .number (.ofFloat number) else .null
  | text content => .text (some content)
  | array items => .array (documents items)
  | object members => .object (memberDocuments members)

/-- The documents that a list of values is written as. -/
def documents : List Json → List Document
  | [] => []
  | item :: rest => item.document :: documents rest

/-- The members that an object is written with. -/
def memberDocuments : List (String × Json) → List (Option String × Document)
  | [] => []
  | (name, value) :: rest => (some name, value.document) :: memberDocuments rest

end

/-- A number that has no numeral is written as null is. -/
theorem text_of_not_finite {x : Binary64} (beyond : x.isFinite = false) :
    jsonFloat.text x = "null" := by
  unfold FloatLayout.text
  -- Beyond the finite numbers there is no number or an infinity, and all are written alike.
  rw [beyond]
  split
  · rfl
  · cases x.isNegative <;> rfl

end Json

/-- Whether a value may begin with a character. -/
def Opens (c : Char) : Prop :=
  c ∈ ['n', 't', 'f', '"', '[', '\x7b', '-'] ∨ c.isDigit = true

/-- A value begins with no blank and no closing bracket. -/
theorem Opens.ne {c : Char} (opens : Opens c) :
    (c ≠ ' ' ∧ c ≠ '\n' ∧ c ≠ '\t' ∧ c ≠ '\r') ∧ c ≠ ']' := by
  -- Each of these characters would have to be one that a value begins with.
  refine ⟨⟨?_, ?_, ?_, ?_⟩, ?_⟩ <;> rintro rfl <;>
    exact absurd opens (by simp [Opens, Char.isDigit])

/-- A numeral begins with a digit or with a sign. -/
theorem Numeral.print_head {numeral : Numeral} (formed : numeral.WellFormed) :
    ∃ c tail, numeral.print = c :: tail ∧ (c = '-' ∨ c.isDigit = true) := by
  -- A sign comes first, or else the first of the digits.
  obtain ⟨digit, digits, whole⟩ := List.exists_cons_of_ne_nil formed.whole.some
  have isDigit := formed.whole.all digit (by simp [whole])
  unfold Numeral.print
  split
  · exact ⟨'-', _, rfl, .inl rfl⟩
  · exact ⟨digit, _, by rw [whole]; rfl, .inr isDigit⟩

/-- A value that is printed begins as a value may. -/
theorem Json.print_head (value : Json) : ∃ c tail, value.print = c :: tail ∧ Opens c := by
  have numeral : ∀ {numeral : Numeral}, numeral.WellFormed →
      -- The first character of a numeral is among those of a value.
      ∃ c tail, numeral.print = c :: tail ∧ Opens c := by
    intro numeral formed
    obtain ⟨c, tail, shown, front⟩ := Numeral.print_head formed
    refine ⟨c, tail, shown, front.imp ?_ id⟩
    rintro rfl
    simp
  cases value with
  | null => exact ⟨'n', _, rfl, .inl (by simp)⟩
  | bool flag =>
    cases flag with
    | true => exact ⟨'t', _, rfl, .inl (by simp)⟩
    | false => exact ⟨'f', _, rfl, .inl (by simp)⟩
  | whole number =>
    rw [print, ← Numeral.print_ofInt]
    exact numeral (Numeral.ofInt_wellFormed _)
  -- A float is written as its numeral, or as null.
  | float number =>
    rw [print]
    cases finite : number.isFinite with
    | false => exact ⟨'n', _, by rw [Json.text_of_not_finite finite]; rfl, .inl (by simp)⟩
    | true =>
      rw [← Numeral.print_ofFloat finite]
      exact numeral (Numeral.ofFloat_wellFormed finite)
  | text content => exact ⟨'"', _, rfl, .inl (by simp)⟩
  | array items => exact ⟨'[', _, rfl, .inl (by simp)⟩
  | object members => exact ⟨_, _, rfl, .inl (by simp)⟩

/-- No blank in front of a value is skipped. -/
theorem skipBlanks_of_opens {c : Char} (opens : Opens c) (tail : List Char) :
    skipBlanks (c :: tail) = c :: tail := by
  -- The first character is none of the four blanks.
  obtain ⟨⟨space, newline, tab, feed⟩, -⟩ := opens.ne
  simp [skipBlanks, space, newline, tab, feed]

/-- A reader of values takes a numeral that is written. -/
theorem readValue_numeral {numeral : Numeral} (formed : numeral.WellFormed) {rest : List Char}
    (stop : Numeral.Stops rest) (fuel : Nat) :
    readValue (fuel + 1) (numeral.print ++ rest) = some (.number numeral, rest) := by
  have taken := Numeral.readNumber_print formed stop
  obtain ⟨c, tail, shown, front⟩ := Numeral.print_head formed
  have opens : Opens c := front.imp (by rintro rfl; simp) id
  rw [shown, List.cons_append] at taken ⊢
  -- A digit or a sign begins no value of another kind.
  have other : c ∉ ['"', '[', '\x7b', 't', 'f', 'n'] := by
    intro mem
    simp only [List.mem_cons, List.not_mem_nil, or_false] at mem
    rcases mem with rfl | rfl | rfl | rfl | rfl | rfl <;> simp [Char.isDigit] at front
  rw [readValue, skipBlanks_of_opens opens]
  split
  case h_7 => rw [taken, Option.map_some]
  all_goals
    next same =>
      obtain ⟨rfl, -⟩ := List.cons.inj same
      simp at other

/-- What separates or closes is no part of a number. -/
theorem Numeral.stops_cons {c : Char} (mark : c ∈ [',', ']', '\x7d']) (rest : List Char) :
    Stops (c :: rest) := by
  -- Each of the three marks is looked at by itself.
  rintro _ ⟨⟩
  simp only [List.mem_cons, List.not_mem_nil, or_false] at mark
  rcases mark with rfl | rfl | rfl <;> decide

namespace Json

/-- Items begin as the first one does. -/
theorem printItems_head (item : Json) (items : List Json) :
    ∃ c tail, printItems (item :: items) = c :: tail ∧ Opens c := by
  -- The first item is printed first.
  obtain ⟨c, tail, shown, opens⟩ := item.print_head
  cases items with
  | nil => exact ⟨c, tail, shown, opens⟩
  | cons next items =>
    exact ⟨c, tail ++ ',' :: printItems (next :: items), by simp [printItems, shown], opens⟩

/-- Members begin with the quote of the first name. -/
theorem printMembers_head (name : String) (value : Json) (members : List (String × Json)) :
    ∃ tail, printMembers ((name, value) :: members) = '"' :: tail := by
  -- A name is quoted, whatever stands behind it.
  cases members with
  | nil => exact ⟨_, rfl⟩
  | cons next members => exact ⟨_, rfl⟩

mutual

/-- A reader takes a value that is printed, when nothing behind it could be part of a number. -/
theorem readValue_print (value : Json) (rest : List Char) (stop : Numeral.Stops rest) (fuel : Nat)
    (enough : value.print.length ≤ fuel) :
    readValue fuel (value.print ++ rest) = some (value.document, rest) := by
  -- One turn takes the first character, and what is nested is shorter by that much.
  obtain ⟨c, tail, shown, -⟩ := value.print_head
  obtain ⟨fuel, rfl⟩ : ∃ less, fuel = less + 1 := by
    rw [shown] at enough
    exact Nat.exists_eq_add_one_of_ne_zero (by simp at enough; omega)
  match value with
  | null => simp [print, document, readValue, skipBlanks, readWord]
  | bool true => simp [print, document, readValue, skipBlanks, readWord]
  | bool false => simp [print, document, readValue, skipBlanks, readWord]
  | whole number =>
    -- An integer is read by the numeral that it is written as.
    rw [print, document, ← Numeral.print_ofInt]
    exact readValue_numeral (Numeral.ofInt_wellFormed _) stop fuel
  | float number =>
    rw [print, document]
    -- A float without a numeral is read as null.
    cases finite : number.isFinite with
    | false =>
      rw [text_of_not_finite finite]
      simp [readValue, skipBlanks, readWord]
    | true =>
      rw [← Numeral.print_ofFloat finite]
      exact readValue_numeral (Numeral.ofFloat_wellFormed finite) stop fuel
  | text content =>
    simp [print, document, quote, readValue, skipBlanks, readString_quote]
  | array [] => simp [print, printItems, document, documents, readValue, skipBlanks]
  | array (item :: items) =>
    -- The items are read behind the bracket, whose blanks and closing twin do not come first.
    have taken := readItems_print (item :: items) (by simp) rest fuel
      (by simp [print] at enough; omega)
    obtain ⟨first, more, shown, opens⟩ := printItems_head item items
    have opened := opens.ne.2
    rw [shown, List.cons_append] at taken
    simp only [print, document, List.cons_append, List.append_assoc, List.nil_append, readValue,
      skipBlanks_of_opens (c := '[') (.inl (by simp))]
    rw [shown, List.cons_append, skipBlanks_of_opens opens]
    split
    · next same => exact absurd (List.cons.inj same).1 opened
    · rw [taken, Option.map_some]
  | object [] => simp [print, printMembers, document, memberDocuments, readValue, skipBlanks]
  | object ((name, content) :: members) =>
    -- The members are read behind the brace, and the first of them begins with a quote.
    have taken := readMembers_print ((name, content) :: members) (by simp) rest fuel
      (by simp [print] at enough; omega)
    obtain ⟨more, shown⟩ := printMembers_head name content members
    rw [shown, List.cons_append] at taken
    simp only [print, document, List.cons_append, List.append_assoc, List.nil_append, readValue,
      skipBlanks_of_opens (c := '\x7b') (.inl (by simp))]
    rw [shown, List.cons_append, skipBlanks_of_opens (.inl (by simp))]
    simp [taken]

/-- A reader takes the items of an array that is printed. -/
theorem readItems_print (items : List Json) (some : items ≠ []) (rest : List Char) (fuel : Nat)
    (enough : (printItems items).length < fuel) :
    readItems fuel (printItems items ++ ']' :: rest) = .some (documents items, rest) := by
  obtain ⟨fuel, rfl⟩ := Nat.exists_eq_add_one_of_ne_zero (Nat.ne_zero_of_lt enough)
  match items with
  | [] => exact absurd rfl some
  | [item] =>
    -- The bracket behind the last item is no part of a number.
    have taken := item.readValue_print (']' :: rest) (Numeral.stops_cons (by simp) rest) fuel
      (by simp [printItems] at enough; omega)
    simp [printItems, readItems, taken, skipBlanks, documents]
  | item :: next :: items =>
    -- The comma behind an item is no part of a number, and the other items come behind it.
    have more := readItems_print (next :: items) (by simp) rest fuel
      (by simp [printItems] at enough ⊢; omega)
    have taken := item.readValue_print (',' :: (printItems (next :: items) ++ ']' :: rest))
      (Numeral.stops_cons (by simp) _) fuel (by simp [printItems] at enough; omega)
    simp [printItems, readItems, taken, more, skipBlanks, documents]

/-- A reader takes the members of an object that is printed. -/
theorem readMembers_print (members : List (String × Json)) (some : members ≠ [])
    (rest : List Char) (fuel : Nat) (enough : (printMembers members).length < fuel) :
    readMembers fuel (printMembers members ++ '\x7d' :: rest) =
      .some (memberDocuments members, rest) := by
  obtain ⟨fuel, rfl⟩ := Nat.exists_eq_add_one_of_ne_zero (Nat.ne_zero_of_lt enough)
  match members with
  | [] => exact absurd rfl some
  | [(name, value)] =>
    -- The brace behind the last member is no part of a number.
    have taken := value.readValue_print ('\x7d' :: rest) (Numeral.stops_cons (by simp) rest) fuel
      (by simp [printMembers] at enough; omega)
    simp [printMembers, readMembers, taken, skipBlanks, memberDocuments, quote, readString_quote]
  | (name, value) :: next :: members =>
    -- The comma behind a member is no part of a number, and the other members come behind it.
    have more := readMembers_print (next :: members) (by simp) rest fuel
      (by simp [printMembers] at enough ⊢; omega)
    have taken := value.readValue_print
      (',' :: (printMembers (next :: members) ++ '\x7d' :: rest))
      (Numeral.stops_cons (by simp) _) fuel (by simp [printMembers] at enough; omega)
    simp [printMembers, readMembers, taken, more, skipBlanks, memberDocuments, quote,
      readString_quote]

end

/-- Printed text tells where a value ends. -/
theorem print_append_inj {value other : Json} {rest rest' : List Char} (stop : Numeral.Stops rest)
    (stop' : Numeral.Stops rest') (same : value.print ++ rest = other.print ++ rest') :
    value.print = other.print ∧ rest = rest' := by
  -- A reader takes the first value from one text and the other from the same text.
  have read := value.readValue_print rest stop _
    (Nat.le_max_left value.print.length other.print.length)
  rw [same, other.readValue_print rest' stop' _ (Nat.le_max_right _ _)] at read
  obtain rfl : rest' = rest := congrArg Prod.snd (Option.some.inj read)
  exact ⟨List.append_cancel_right same, rfl⟩

/-- Values that are printed alike are written as the same document. -/
theorem document_eq_of_print {value other : Json} (same : value.print = other.print) :
    value.document = other.document := by
  -- Both documents are read from one text.
  have read := value.readValue_print [] (by simp [Numeral.Stops]) _ le_rfl
  rw [same, other.readValue_print [] (by simp [Numeral.Stops]) _ le_rfl] at read
  exact (congrArg Prod.fst (Option.some.inj read)).symm

/-- The text of a value is read as the document that the value is written as. -/
theorem parse_render (value : Json) : Document.parse value.render = some value.document := by
  have fuel : value.print.length ≤ 2 * value.print.length + 2 := by omega
  have read := value.readValue_print [] (by simp [Numeral.Stops]) _ fuel
  rw [List.append_nil] at read
  unfold Document.parse render
  rw [String.length_ofList, String.toList_ofList, read]
  -- Nothing is left behind the value.
  rfl

end Json

end Querent
