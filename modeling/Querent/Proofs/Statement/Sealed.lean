import Querent.Proofs.Statement.Alike

/-! Values that are written into clauses and statements are sealed there, and the text around them
does not tell what they are. -/

namespace Querent

/-- A clause or a statement that text is asked for. -/
inductive Request
  /-- A WHERE clause, or a HAVING clause if it is announced. -/
  | clause (announced : Bool) (conditions : List Condition)
  | groupBy (columns : List String)
  | orderBy (columns : List String) (direction : Direction)
  | statement (statement : Statement)

namespace Request

/-- The text that a compiler makes for a request. -/
def text (escape : Escape) (compiler : Compiler) : Request → Except ClauseFault String
  | clause announced conditions =>
    (if announced then compiler.compileHaving escape conditions
      else compiler.compile escape conditions).1.map Clause.text
  | groupBy columns => (Querent.groupBy columns).map Clause.text
  | orderBy columns direction => (Querent.orderBy columns direction).map Clause.text
  | statement given => (given.assemble escape compiler).1

/-- Texts that a request is given and writes as they are. -/
def givenTexts : Request → List String
  | clause _ conditions => conditions.flatMap Condition.givenTexts
  | groupBy columns => columns
  | orderBy columns _ => columns
  | statement given => given.givenTexts

/-- The values that a request binds, in the order of its text. -/
def bound : Request → List Value
  | clause _ conditions => conditions.flatMap Condition.bound
  | groupBy _ => []
  | orderBy _ _ => []
  | statement given => given.bound

end Request

/-- Whether two requests differ in the texts of the values that they bind, and in nothing else. -/
inductive Request.Alike : Request → Request → Prop
  | clause (announced : Bool) {conditions others : List Condition} :
      List.Forall₂ Condition.Alike conditions others →
      Alike (.clause announced conditions) (.clause announced others)
  | groupBy (columns : List String) : Alike (.groupBy columns) (.groupBy columns)
  | orderBy (columns : List String) (direction : Direction) :
      Alike (.orderBy columns direction) (.orderBy columns direction)
  | statement {left right : Statement} :
      left.Alike right → Alike (.statement left) (.statement right)

namespace Request

/-- The kind of clause that a compiler makes for a request. -/
def kind (compiler : Compiler) : Request → ClauseKind
  | clause true _ => .having
  | _ => Assembly.nextKind compiler

/-- The conditions of a request. -/
def conditions : Request → List Condition
  | clause _ conditions => conditions
  | groupBy _ => []
  | orderBy _ _ => []
  | statement given => given.conditions

/-- The text of a request, with slots for its values. -/
def template (kind : ClauseKind) : Request → Template
  | clause _ conditions => .ofConditions kind conditions
  | groupBy columns => [.fixed ("GROUP BY " ++ columnList columns)]
  | orderBy columns direction =>
    [.fixed ("ORDER BY " ++ columnList columns ++ " " ++ direction.sql)]
  | statement given => given.template kind

end Request

/-- Without placeholders, a template is written with literals. -/
theorem Template.write_eq_literals {compiler : Compiler} {escape : Escape}
    (inline : compiler.prepared = false) (pending : Nat) (template : Template) :
    template.write (compiler.binding escape) pending = ⟨template.literals escape, []⟩ := by
  rw [write, if_neg (by simp [Compiler.binding, inline])]
  rfl

namespace Request

variable {request other : Request} {escape : Escape} {compiler : Compiler} {text : String}

/-- A clause of columns that is made has their list in its text. -/
theorem text_eq_of_requireColumns {kind : ClauseKind} {columns : List String}
    {clause : String → Clause}
    (ok : (requireColumns kind columns >>= fun list => pure (clause list)).map Clause.text =
      .ok text) : (clause (columnList columns)).text = text := by
  -- Without a column there is no clause.
  unfold requireColumns at ok
  dsimp only at ok
  split at ok
  · cases ok
  · exact Except.ok.inj ok

/-- A clause of conditions that is made is written from their template with literals, unless values
are handed over beside it. -/
theorem text_eq_of_compile {conditions : List Condition} (inline : compiler.prepared = false)
    (ok : (compiler.compile escape conditions).1.map Clause.text = .ok text) :
    text = (Template.ofConditions (Assembly.nextKind compiler) conditions).literals escape ∧
      (Template.ofConditions (Assembly.nextKind compiler) conditions).values =
        conditions.flatMap Condition.bound ∧
      ∀ terms ∈ conditions.filterMap Condition.terms?, terms.Valid := by
  cases made : compiler.compile escape conditions with
  | mk outcome after =>
    rw [made] at ok
    cases outcome with
    | error fault => cases ok
    | ok clause =>
      obtain ⟨bound, inner, shown, -⟩ := Assembly.exists_of_compile made
      obtain ⟨rfl, values⟩ := Assembly.compileClause_eq_write inner
      rw [Template.write_eq_literals inline] at shown
      obtain rfl := Except.ok.inj ok
      exact ⟨shown, values, Assembly.valid_of_compileClause inner⟩

/-- What is made for a request is written from its template with literals, unless values are handed
over beside it. -/
theorem text_eq_literals (inline : compiler.prepared = false)
    (ok : request.text escape compiler = .ok text) :
    text = (request.template (request.kind compiler)).literals escape ∧
      (request.template (request.kind compiler)).values = request.bound ∧
      ∀ terms ∈ request.conditions.filterMap Condition.terms?, terms.Valid := by
  cases request with
  | clause announced conditions =>
    -- The announcement is remembered for the clause that is compiled next.
    cases announced with
    | true =>
      have still : { compiler with havingNext := true }.prepared = false := inline
      exact text_eq_of_compile still ok
    | false => exact text_eq_of_compile inline ok
  | groupBy columns =>
    obtain rfl := text_eq_of_requireColumns ok
    exact ⟨by simp [template, Template.literals, Clause.fragment], rfl, by simp [conditions]⟩
  | orderBy columns direction =>
    obtain rfl := text_eq_of_requireColumns ok
    exact ⟨by simp [template, Template.literals, Clause.fragment], rfl, by simp [conditions]⟩
  | statement given =>
    cases made : given.assemble escape compiler with
    | mk outcome after =>
      rw [Request.text, made] at ok
      obtain rfl : outcome = .ok _ := ok
      obtain ⟨shown, -, bound⟩ := assemble_eq_written made
      rw [Template.write_eq_literals inline] at shown
      exact ⟨shown, bound, (Assembly.settles_build escape given).of_gives (gives_of_assemble made)⟩

/-- The fixed text of a request keeps the property of the texts that it is given. -/
theorem fixed_template {P : String → Prop} (composable : Composable P) (kind : ClauseKind)
    (given : ∀ text ∈ request.givenTexts, P text) : (request.template kind).Fixed P := by
  -- Names are joined by commas, with the words of the clause around them.
  cases request with
  | clause announced conditions => exact Template.fixed_ofConditions composable kind given
  | groupBy columns =>
    have list : P (columnList columns) := composable.columnList given
    have begins : Plain "GROUP BY " := by decide
    have whole := composable.before begins list
    simpa [template] using whole
  | orderBy columns direction =>
    have list : P (columnList columns) := composable.columnList given
    have ends : Plain (" " ++ direction.sql) := by cases direction <;> decide
    have begins : Plain "ORDER BY " := by decide
    have whole := composable.behind (composable.before begins list) ends
    rw [← String.append_assoc] at whole
    simpa [template] using whole
  | statement statement => exact statement.fixed_template composable kind given

/-- The template of a request is joined where its comparisons are valid. -/
theorem joined_template (kind : ClauseKind)
    (valid : ∀ terms ∈ request.conditions.filterMap Condition.terms?, terms.Valid) :
    (request.template kind).Joined := by
  cases request with
  | clause announced conditions => exact Template.joined_ofConditions kind valid
  | groupBy columns => exact Template.joined_singleton _
  | orderBy columns direction => exact Template.joined_singleton _
  | statement statement => exact statement.joined_template kind valid

/-- Alike requests are given the same texts, and make clauses of the same kind. -/
theorem Alike.givenTexts_eq (alike : request.Alike other) (compiler : Compiler) :
    request.givenTexts = other.givenTexts ∧ request.kind compiler = other.kind compiler := by
  cases alike with
  | clause announced conditions =>
    exact ⟨Condition.Alike.givenTexts_eq conditions, by cases announced <;> rfl⟩
  | groupBy columns => exact ⟨rfl, rfl⟩
  | orderBy columns direction => exact ⟨rfl, rfl⟩
  | statement statements => exact ⟨statements.givenTexts_eq, rfl⟩

/-- Alike requests have templates of one shape. -/
theorem Alike.shape_template (alike : request.Alike other) (kind : ClauseKind)
    (valid : ∀ terms ∈ request.conditions.filterMap Condition.terms?, terms.Valid)
    (valid' : ∀ terms ∈ other.conditions.filterMap Condition.terms?, terms.Valid) :
    (request.template kind).shape = (other.template kind).shape := by
  -- Only conditions and statements bind values.
  cases alike with
  | clause announced conditions => exact Template.shape_ofConditions kind conditions valid valid'
  | groupBy columns => rfl
  | orderBy columns direction => rfl
  | statement statements => exact statements.shape_template kind valid valid'

/-- Without placeholders, and with quotes doubled, the values that a request of quiet texts binds
are sealed in the text that is made for it: in both styles it reads as one whole literal for each of
them, in their order, which stands for the text of the value, between characters of its own, and no
translation changes it. The characters between the literals are the same for any request that
differs in the texts of its values alone. -/
theorem sealed_of_text (inline : compiler.prepared = false)
    (quiet : ∀ text ∈ request.givenTexts, Quiet text)
    (ok : request.text doubleQuotes compiler = .ok text) :
    ∃ tokens, Sealed text request.bound tokens ∧
      (∀ style : PlaceholderStyle, style.translate text = text) ∧
      ∀ other text', request.Alike other → other.text doubleQuotes compiler = .ok text' →
        ∃ tokens', Sealed text' other.bound tokens' ∧
          tokens'.map Token.own? = tokens.map Token.own? := by
  -- The values of any such request are sealed in the text that is made for it.
  have single : ∀ {request : Request} {text : String}, (∀ text ∈ request.givenTexts, Quiet text) →
      request.text doubleQuotes compiler = .ok text →
      Sealed text request.bound (request.template (request.kind compiler)).tokens ∧
        ∀ terms ∈ request.conditions.filterMap Condition.terms?, terms.Valid := by
    intro request text quiet ok
    obtain ⟨rfl, bound, valid⟩ := text_eq_literals inline ok
    rw [← bound]
    exact ⟨Template.sealed_literals (joined_template _ valid)
      (fixed_template composable_quiet _ quiet), valid⟩
  obtain ⟨sealed, valid⟩ := single quiet ok
  refine ⟨_, sealed, sealed.translate_eq, ?_⟩
  intro other text' alike ok'
  obtain ⟨given, kind⟩ := alike.givenTexts_eq compiler
  -- The other request is given the same texts, so its values are sealed too.
  obtain ⟨sealed', valid'⟩ := single (given ▸ quiet) ok'
  refine ⟨_, sealed', Template.own_tokens ?_⟩
  rw [← kind]
  exact (alike.shape_template _ valid valid').symm

/-- Quotes, comments and placeholders in values stay inside of their literals, and the characters
around these are those of an update with other values. -/
theorem sealed_update :
    let compiler := Compiler.fresh false
    let update (name : String) (low high : Value) : Request :=
      .statement (.update "t" [("a", .text name), ("b", .null)]
        [.comparison ⟨"k", some "between", .single low, some high, some "or"⟩])
    let request := update "x' -- ?1" (.text "'") (.int 2)
    let other := update "y" .null (.text "")
    let text := "UPDATE t SET a = 'x'' -- ?1', b = NULL WHERE k BETWEEN '''' AND '2'"
    let text' := "UPDATE t SET a = 'y', b = NULL WHERE k BETWEEN 'NULL' AND ''"
    compiler.prepared = false ∧ (∀ text ∈ request.givenTexts, Quiet text) ∧
      request.text doubleQuotes compiler = .ok text ∧ request.Alike other ∧
      other.text doubleQuotes compiler = .ok text' ∧
      ∃ tokens tokens', Sealed text request.bound tokens ∧ Sealed text' other.bound tokens' ∧
        tokens'.map Token.own? = tokens.map Token.own? := by
  intro compiler update request other text text'
  have quiet : ∀ text ∈ request.givenTexts, Quiet text := by decide
  have ok : request.text doubleQuotes compiler = .ok text := by
    simp only [request, update, text, Request.text]
    rfl
  have ok' : other.text doubleQuotes compiler = .ok text' := by
    simp only [other, update, text', Request.text]
    rfl
  -- Column and operator are the same, and a range binds both of its bounds whatever they are.
  have alike : request.Alike other := by
    refine .statement (.update "t" ?_ ?_)
    · exact .cons ⟨rfl, by decide, by decide⟩ (.cons ⟨rfl, rfl, rfl⟩ .nil)
    · refine .cons (.comparison ⟨rfl, rfl, rfl, ?_⟩) .nil
      intro operator named
      obtain rfl : Operator.between = operator := Option.some.inj named
      trivial
  have inline : compiler.prepared = false := rfl
  obtain ⟨tokens, sealed, -, others⟩ := sealed_of_text inline quiet ok
  obtain ⟨tokens', sealed', same⟩ := others other text' alike ok'
  exact ⟨rfl, quiet, ok, alike, ok', tokens, tokens', sealed, sealed', same⟩

end Request

end Querent
