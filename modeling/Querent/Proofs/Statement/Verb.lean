import Querent.Proofs.Statement.Quiet
import Querent.Statement.Kind

/-! The word that an assembled statement begins with, which tells its kind when it is handed over.
-/

namespace Querent

/-- A capital letter is no blank. -/
theorem isBlank_of_isUpper {c : Char} (capital : c.isUpper = true) : isBlank c = false := by
  -- The capital letters are one run of characters, which meets no run of blanks.
  have within : 65 ≤ c.val ∧ c.val ≤ 90 := of_decide_eq_true capital
  have low : 65 ≤ c.toNat := UInt32.le_iff_toNat_le.mp within.1
  have high : c.toNat ≤ 90 := UInt32.le_iff_toNat_le.mp within.2
  clear capital within
  simp only [isBlank, blankRuns, List.any_cons, List.any_nil, Bool.or_eq_false_iff,
    Bool.and_eq_false_iff, decide_eq_false_iff_not, and_true]
  omega

/-- A capital letter folds to its own small letter only. -/
theorem foldsTo_of_isUpper {c : Char} (capital : c.isUpper = true) (letter : Char) :
    foldsTo letter c = (c.toLower == letter) := by
  -- The letters outside of ASCII that fold into it are no capital ones there.
  have long : (c == '\u017F') = false := beq_false_of_ne (by rintro rfl; cases capital)
  have kelvin : (c == '\u212A') = false := beq_false_of_ne (by rintro rfl; cases capital)
  rw [foldsTo, long, kelvin, Bool.and_false, Bool.and_false, Bool.or_false, Bool.or_false]

/-- Behind a capital word and a space, a word is found at the front exactly if it is the same one
in small letters. -/
theorem afterWord?_capitals {capitals word : List Char} (rest : List Char)
    (capital : ∀ c ∈ capitals, c.isUpper = true) (solid : ' ' ∉ word) :
    (match afterWord? word (capitals ++ ' ' :: rest) with
      | some (c :: _) => isBlank c
      | _ => false) = (capitals.map Char.toLower == word) := by
  induction word generalizing capitals with
  | nil =>
    -- The word is used up, so the next character is the space or a letter.
    cases capitals with
    | nil => rfl
    | cons c capitals => exact isBlank_of_isUpper (capital c (List.mem_cons_self ..))
  | cons letter word ih =>
    rw [List.mem_cons, not_or] at solid
    cases capitals with
    | nil =>
      -- No letter of a word is a space.
      have other : foldsTo letter ' ' = false := by
        have blank : (' '.toLower == letter) = false := beq_false_of_ne solid.1
        rw [foldsTo, blank]
        cases letter == 's' <;> cases letter == 'k' <;> rfl
      rw [List.nil_append, afterWord?, other]
      rfl
    | cons c capitals =>
      obtain ⟨first, others⟩ := List.forall_mem_cons.mp capital
      have later := ih others solid.2
      rw [List.cons_append, afterWord?, foldsTo_of_isUpper first, List.map_cons, List.cons_beq_cons]
      cases c.toLower == letter with
      | true => simpa using later
      | false => rfl

/-- A text of a capital word and a space begins with that word in small letters, and with no other
one. -/
theorem beginsWith_capitals {word capitals sql : String} {rest : List Char}
    (shape : sql.toList = capitals.toList ++ ' ' :: rest) (some : capitals ≠ "")
    (capital : ∀ c ∈ capitals.toList, c.isUpper = true) (solid : ' ' ∉ word.toList) :
    beginsWith word sql = (capitals.toList.map Char.toLower == word.toList) := by
  -- A text that begins with a letter has no blanks in front of it.
  have front : trimFront sql.toList = capitals.toList ++ ' ' :: rest := by
    rw [shape]
    cases letters : capitals.toList with
    | nil => exact absurd (String.toList_inj.mp letters) some
    | cons c others =>
      have full := isBlank_of_isUpper (capital c (letters ▸ List.mem_cons_self ..))
      simp [trimFront, full]
  rw [beginsWith, front]
  exact afterWord?_capitals rest capital solid

namespace Statement

/-- The word that a statement begins with. -/
def verb : Statement → String
  | select _ _ _ => "SELECT"
  | createSelect _ _ _ _ => "CREATE"
  | selectInto _ _ _ _ => "SELECT"
  | insert _ _ => "INSERT"
  | replace _ _ => "REPLACE"
  | update _ _ _ => "UPDATE"
  | delete _ _ => "DELETE"
  | insertSelect _ _ _ _ _ => "INSERT"

/-- The kind of a statement, of which those that begin as a selection are told to give rows. -/
def kind : Statement → StatementKind
  | select _ _ _ => .rows
  | selectInto _ _ _ _ => .rows
  | _ => .mutating

/-- Whether a statement puts new rows into a table that is there. -/
def inserts : Statement → Bool
  | insert _ _ => true
  | replace _ _ => true
  | insertSelect _ _ _ _ _ => true
  | _ => false

/-- The words that statements begin with, each with the kind and whether there are new rows. -/
def verbs : List (String × StatementKind × Bool) :=
  [("SELECT", .rows, false), ("CREATE", .mutating, false), ("INSERT", .mutating, true),
    ("REPLACE", .mutating, true), ("UPDATE", .mutating, false), ("DELETE", .mutating, false)]

/-- A statement's word stands with its kind, and with whether it inserts. -/
theorem mem_verbs (statement : Statement) :
    (statement.verb, statement.kind, statement.inserts) ∈ verbs := by
  cases statement <;> simp [verbs, verb, kind, inserts]

/-- A verb is a word in capital letters. -/
theorem verb_capitals (statement : Statement) :
    statement.verb ≠ "" ∧ ∀ c ∈ statement.verb.toList, c.isUpper = true := by
  -- The words are gone through one by one.
  have each : ∀ entry ∈ verbs, entry.1 ≠ "" ∧ entry.1.toList.all Char.isUpper = true := by decide
  obtain ⟨some, capital⟩ := each _ statement.mem_verbs
  exact ⟨some, List.all_eq_true.mp capital⟩

/-- A head of fixed text stays in front, whether or not it has a tail. -/
theorem exists_tailed (text : String) (rest tail : Template) :
    ∃ behind, Template.tailed (.fixed text :: rest) tail = .fixed text :: behind := by
  unfold Template.tailed
  split
  · exact ⟨rest, rfl⟩
  · exact ⟨rest ++ .fixed " " :: tail, rfl⟩

/-- The template of an insertion begins with its verb and a space, and with more words behind. -/
theorem verb_ofInsertion (verb table : String) (values : Assignments) :
    ∃ (more : String) (rest : Template),
      Template.ofInsertion verb table values = .fixed (verb ++ " " ++ more) :: rest ∧
        ∃ c ∈ more.toList, isBlank c = false := by
  have words : " INTO " = " " ++ "INTO " := by decide
  refine ⟨"INTO " ++ trim table ++ " (" ++ joinWith ", " (values.map Prod.fst) ++ ") VALUES (",
    Template.separated ", " (values.map fun pair => .ofAssigned pair.2) ++ [.fixed ")"], ?_,
    'I', by simp, by decide⟩
  rw [Template.ofInsertion, List.cons_append, words]
  simp only [String.append_assoc]

/-- The template of a statement begins with its verb and a space, and with more words behind. -/
theorem verb_template (kind : ClauseKind) (statement : Statement) :
    ∃ (more : String) (rest : Template),
      statement.template kind = .fixed (statement.verb ++ " " ++ more) :: rest ∧
        ∃ c ∈ more.toList, isBlank c = false := by
  -- Each statement has its own words behind its verb, of which one letter is enough to be sure that
  -- trimming stops behind the space.
  cases statement with
  | select table columns args =>
    obtain ⟨behind, shape⟩ := exists_tailed ("SELECT " ++ selectList columns ++ " FROM " ++
      trim table) [] (.ofModifiers kind args)
    refine ⟨selectList columns ++ " FROM " ++ trim table, behind, ?_, 'F', by simp, by decide⟩
    rw [template, Template.ofSelection, shape, verb]
    simp [String.append_assoc]
  | createSelect table columns source args =>
    obtain ⟨behind, shape⟩ := exists_tailed ("CREATE TABLE " ++ trim table ++ " AS SELECT " ++
      selectList columns ++ " FROM " ++ trim source) [] (.ofModifiers kind args)
    have words : "CREATE TABLE " = "CREATE" ++ " " ++ "TABLE " := by decide
    refine ⟨"TABLE " ++ trim table ++ " AS SELECT " ++ selectList columns ++ " FROM " ++
      trim source, behind, ?_, 'T', by simp, by decide⟩
    rw [template, shape, verb, words]
    simp only [String.append_assoc]
  | selectInto table columns source args =>
    obtain ⟨behind, shape⟩ := exists_tailed ("SELECT " ++ selectList columns ++ " INTO " ++
      trim table ++ " FROM " ++ trim source) [] (.ofModifiers kind args)
    refine ⟨selectList columns ++ " INTO " ++ trim table ++ " FROM " ++ trim source, behind, ?_,
      'F', by simp, by decide⟩
    rw [template, shape, verb]
    simp [String.append_assoc]
  | insert table values => exact verb_ofInsertion "INSERT" table values
  | replace table values => exact verb_ofInsertion "REPLACE" table values
  | update table values args =>
    obtain ⟨behind, shape⟩ := exists_tailed ("UPDATE " ++ trim table ++ " SET ")
      (.ofAssignments values) (.ofConditions kind args)
    refine ⟨trim table ++ " SET ", behind, ?_, 'S', by simp, by decide⟩
    rw [template, shape, verb]
    simp [String.append_assoc]
  | delete table args =>
    obtain ⟨behind, shape⟩ := exists_tailed ("DELETE FROM " ++ trim table) []
      (.ofConditions kind args)
    have words : "DELETE FROM " = "DELETE" ++ " " ++ "FROM " := by decide
    refine ⟨"FROM " ++ trim table, behind, ?_, 'F', by simp, by decide⟩
    rw [template, shape, verb, words]
    simp only [String.append_assoc]
  | insertSelect table columns source sourceColumns args =>
    have words : "INSERT INTO " = "INSERT" ++ " " ++ "INTO " := by decide
    by_cases all : selectList columns = "*"
    · refine ⟨"INTO " ++ trim table ++ " ", .ofSelection kind source sourceColumns args, ?_, 'I',
        by simp, by decide⟩
      rw [template, if_pos all, verb, words]
      simp only [String.append_assoc]
    · refine ⟨"INTO " ++ trim table ++ " (" ++ selectList columns ++ ")" ++ " ",
        .ofSelection kind source sourceColumns args, ?_, 'I', by simp, by decide⟩
      rw [template, if_neg all, verb, words]
      simp only [String.append_assoc]

end Statement

/-- Trimming a text keeps all between two of its characters that are no blanks, the first of which
it begins with. -/
theorem trimEnds_of_solid {front : List Char} {c : Char}
    (begins : ∀ d ∈ front.head?, isBlank d = false) (solid : isBlank c = false)
    (back : List Char) :
    ∃ rest, trimEnds (front ++ c :: back) = front ++ c :: rest := by
  obtain ⟨before, behind, shape, beforeBlank, behindBlank⟩ := exists_trimEnds (front ++ c :: back)
  -- The first character is no blank, so none is dropped in front of it.
  have none : before = [] := by
    cases before with
    | nil => rfl
    | cons d before =>
      have blank := beforeBlank d (List.mem_cons_self ..)
      have first := congrArg List.head? shape
      cases front with
      | nil =>
        obtain rfl : c = d := Option.some.inj first
        rw [solid] at blank
        cases blank
      | cons e front =>
        obtain rfl : e = d := Option.some.inj first
        rw [begins e rfl] at blank
        cases blank
  rw [none, List.nil_append] at shape
  rcases List.append_eq_append_iff.mp shape with ⟨middle, kept, tail⟩ | ⟨middle, kept, tail⟩
  · -- What is kept goes on behind the front, and not with what is dropped.
    cases middle with
    | nil =>
      rw [List.nil_append] at tail
      have blank := behindBlank c (tail ▸ List.mem_cons_self ..)
      rw [solid] at blank
      cases blank
    | cons d middle =>
      obtain rfl : c = d := (List.cons.inj tail).1
      exact ⟨middle, kept⟩
  · -- Otherwise the character itself is dropped at the end.
    have blank := behindBlank c (tail ▸ List.mem_append_right _ (List.mem_cons_self ..))
    rw [solid] at blank
    cases blank

/-- Translation leaves plain characters at the front as they are. -/
theorem PlaceholderStyle.restyle_plain (style : PlaceholderStyle) {front : List Char}
    (plain : ∀ c ∈ front, isPlainChar c = true) (rest : List Char) :
    style.restyle 0 .plain (front ++ rest) = front ++ style.restyle 0 .plain rest := by
  induction front with
  | nil => rfl
  | cons c front ih =>
    obtain ⟨first, others⟩ := List.forall_mem_cons.mp plain
    -- No region and no placeholder begins with a plain character.
    have own : c ∉ openers := by
      intro opens
      simp only [openers, List.mem_cons, List.not_mem_nil, or_false] at opens
      rcases opens with rfl | rfl | rfl <;> exact absurd first (by decide)
    have bare : ¬(c = style.other.marker ∧ StartsDigit (front ++ rest)) := by
      rintro ⟨rfl, -⟩
      cases style <;> exact absurd first (by decide)
    have outside : ¬StartsRegion (c :: (front ++ rest)) :=
      not_startsRegion own fun d _ => (apart_of_isPlainChar first d).1
    rw [List.cons_append, restyle_cons, move_own outside, if_neg bare]
    exact congrArg (c :: ·) (ih others)

/-- A capital letter is plain. -/
theorem isPlainChar_of_isUpper {c : Char} (capital : c.isUpper = true) : isPlainChar c = true := by
  have letter : c.isAlpha = true := by
    change (c.isUpper || c.isLower) = true
    rw [capital, Bool.true_or]
  rw [isPlainChar, letter, Bool.true_or]

section

variable {escape : Escape} {compiler after : Compiler} {statement : Statement} {sql : String}

/-- The normalized text of an assembled statement begins with its verb and a space. -/
theorem verb_of_assemble (ok : statement.assemble escape compiler = (.ok sql, after))
    (style : PlaceholderStyle) :
    ∃ rest, (style.normalize sql).toList = statement.verb.toList ++ ' ' :: rest := by
  obtain ⟨more, parts, shape, c, mem, solid⟩ :=
    statement.verb_template (Assembly.nextKind compiler)
  obtain ⟨some, capital⟩ := statement.verb_capitals
  obtain ⟨text, -, -⟩ := assemble_eq_written ok
  rw [shape, Template.write_fixed_cons] at text
  obtain ⟨before, behind, split⟩ := List.append_of_mem mem
  -- The text goes on to a character that is no blank, so trimming keeps the space.
  have whole : sql.toList = (statement.verb.toList ++ ' ' :: before) ++ c :: (behind ++
      (Template.write (compiler.binding escape) compiler.pending.length parts).text.toList) := by
    rw [text]
    simp [split]
  have begins : ∀ d ∈ (statement.verb.toList ++ ' ' :: before).head?, isBlank d = false := by
    intro d isFirst
    cases letters : statement.verb.toList with
    | nil => exact absurd (String.toList_inj.mp letters) some
    | cons e others =>
      rw [letters] at isFirst
      obtain rfl : e = d := Option.some.inj isFirst
      exact isBlank_of_isUpper (capital e (letters ▸ List.mem_cons_self ..))
  obtain ⟨rest, trimmed⟩ := trimEnds_of_solid begins solid (behind ++
    (Template.write (compiler.binding escape) compiler.pending.length parts).text.toList)
  -- Neither the verb nor the space is touched by the translation.
  have plain : ∀ d ∈ statement.verb.toList ++ [' '], isPlainChar d = true := by
    intro d mem
    rcases List.mem_append.mp mem with letter | space
    · exact isPlainChar_of_isUpper (capital d letter)
    · obtain rfl := List.mem_singleton.mp space
      decide
  refine ⟨style.restyle 0 .plain (before ++ c :: rest), ?_⟩
  have restyled := style.restyle_plain plain (before ++ c :: rest)
  rw [PlaceholderStyle.normalize, PlaceholderStyle.translate, String.toList_ofList, trim,
    String.toList_ofList, whole, trimmed]
  simpa using restyled

/-- The normalized text of an assembled statement is of the statement's kind, and tells whether the
statement inserts. -/
theorem kind_of_assemble (ok : statement.assemble escape compiler = (.ok sql, after))
    (style : PlaceholderStyle) :
    StatementKind.of (style.normalize sql) = statement.kind ∧
      givesId (style.normalize sql) = statement.inserts := by
  obtain ⟨rest, shape⟩ := verb_of_assemble ok style
  obtain ⟨some, capital⟩ := statement.verb_capitals
  -- A word begins the text exactly if it is the verb in small letters.
  have begins : ∀ word : String, ' ' ∉ word.toList → beginsWith word (style.normalize sql) =
      (statement.verb.toList.map Char.toLower == word.toList) :=
    fun word solid => beginsWith_capitals shape some capital solid
  -- Of the words that are looked for, the verb alone is found.
  have told : ∀ entry ∈ Statement.verbs,
      let small := entry.1.toList.map Char.toLower
      (if mutatingWords.any (small == ·.toList) then StatementKind.mutating else .rows) =
        entry.2.1 ∧ (small == "insert".toList || small == "replace".toList) = entry.2.2 := by
    decide
  obtain ⟨kind, inserts⟩ := told _ statement.mem_verbs
  simp only [List.any_cons, List.any_nil, mutatingWords] at kind
  simp only [StatementKind.of, givesId, mutatingWords, List.any_cons, List.any_nil,
    begins "insert" (by decide), begins "delete" (by decide), begins "update" (by decide),
    begins "replace" (by decide), begins "drop" (by decide), begins "create" (by decide)]
  exact ⟨kind, inserts⟩

end

end Querent
