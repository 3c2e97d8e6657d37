import Querent.Proofs.Placeholder.Calm
import Querent.Proofs.Statement.Joined
import Querent.Proofs.Statement.Markers

/-! Statements of quiet texts are calm, so translation finds their placeholders and nothing else. -/

namespace Querent

/-- Plain characters are apart from all others. -/
theorem apart_of_isPlainChar {c : Char} (plain : isPlainChar c = true) (d : Char) :
    Apart c d ∧ Apart d c := by
  -- The characters that open or close a comment are not plain.
  refine ⟨⟨?_, ?_⟩, ?_, ?_⟩
  · rintro ⟨rfl, -⟩
    exact absurd plain (by decide)
  · rintro ⟨rfl, -⟩
    exact absurd plain (by decide)
  · rintro ⟨-, rfl⟩
    exact absurd plain (by decide)
  · rintro ⟨-, rfl⟩
    exact absurd plain (by decide)

/-- Text without the characters that comments begin with is calm, if it has no openers. -/
theorem calm_of_forall {text : List Char}
    (each : ∀ c ∈ text, c ∉ '-' :: '/' :: openers) : Calm text where
  own c mem opens := each c mem (List.mem_cons_of_mem _ (List.mem_cons_of_mem _ opens))
  apart := by
    refine isChain_apart_iff.mpr ⟨?_, ?_⟩
    · intro within
      exact each '-' (within.subset (List.mem_cons_self ..)) (by decide)
    · intro within
      exact each '/' (within.subset (List.mem_cons_self ..)) (by decide)

/-- Plain text is calm. -/
theorem Plain.calm {own : String} (plain : Plain own) : Calm own.toList := by
  refine calm_of_forall ?_
  intro c mem opens
  have each := List.all_eq_true.mp plain.2 c mem
  simp only [openers, List.mem_cons, List.not_mem_nil, or_false] at opens
  rcases opens with rfl | rfl | rfl | rfl | rfl <;> exact absurd each (by decide)

/-- Plain text has a first and a last character, which are plain. -/
theorem Plain.ends {own : String} (plain : Plain own) :
    (∃ c, own.toList.head? = some c ∧ isPlainChar c = true) ∧
      ∃ c, own.toList.getLast? = some c ∧ isPlainChar c = true := by
  have some : own.toList ≠ [] := by
    intro none
    exact plain.1 (String.toList_inj.mp none)
  have each := List.all_eq_true.mp plain.2
  exact ⟨⟨_, List.head?_eq_some_head some, each _ (List.head_mem some)⟩,
    _, List.getLast?_eq_some_getLast some, each _ (List.getLast_mem some)⟩

/-- That a text is quiet is kept by all that a statement does with it. -/
theorem composable_quiet : Composable Quiet where
  empty := by decide
  star := by decide
  between := by
    intro front own back quiet plain quiet'
    -- Next to the plain text nothing is opened, on either side of it.
    obtain ⟨⟨first, head, firstPlain⟩, last, foot, lastPlain⟩ := plain.ends
    have tail : Calm (own.toList ++ back.toList) := by
      refine plain.calm.append quiet'.calm ?_
      intro c isLast d _
      obtain rfl : last = c := Option.some.inj (foot.symm.trans isLast)
      exact (apart_of_isPlainChar lastPlain d).1
    have whole : Calm (front.toList ++ (own.toList ++ back.toList)) := by
      refine quiet.calm.append tail ?_
      intro c _ d isFirst
      rw [List.head?_append, head] at isFirst
      obtain rfl : first = d := Option.some.inj isFirst
      exact (apart_of_isPlainChar firstPlain c).2
    refine Calm.quiet ?_ (composable_unmarked.between quiet.unmarked plain quiet'.unmarked)
    rw [String.toList_append, String.toList_append, List.append_assoc]
    exact whole
  trim := by
    intro text quiet
    -- Trimming leaves a part of the text.
    refine Calm.quiet ?_ (composable_unmarked.trim quiet.unmarked)
    rw [trim, String.toList_ofList]
    exact quiet.calm.of_infix (trimEnds_within text.toList)

namespace Template

/-- Whether a text begins as a template does, wherever that does not begin with a slot. -/
def Leads : Template → List Char → Prop
  | [], more => more = []
  | .fixed text :: _, more => text.toList <+: more
  | .slot _ :: _, _ => True

/-- With placeholders, a template begins with its fixed text. -/
theorem leads_numbered (template : Template) (pending : Nat) :
    template.Leads (template.numbered pending).toList := by
  match template with
  | [] => rfl
  | .fixed text :: rest =>
    rw [numbered, String.toList_append]
    exact List.prefix_append ..
  | .slot value :: rest => exact trivial

/-- With literals, a template begins with its fixed text. -/
theorem leads_literals (template : Template) (escape : Escape) :
    template.Leads (template.literals escape).toList := by
  match template with
  | [] => rfl
  | .fixed text :: rest =>
    rw [literals, String.toList_append]
    exact List.prefix_append ..
  | .slot value :: rest => exact trivial

/-- Where the next part begins plainly, so does the text. -/
theorem Leads.head_plain {template : Template} {more : List Char} (leads : template.Leads more)
    (begins : ∀ next ∈ template.head?, next.BeginsPlain) :
    ∀ d ∈ more.head?, isPlainChar d = true := by
  intro d mem
  match template, leads, begins with
  | [], leads, _ =>
    -- Nothing follows at all.
    subst leads
    cases mem
  | .slot value :: rest, _, begins => exact (begins _ rfl).elim
  | .fixed text :: rest, leads, begins =>
    obtain ⟨own, back, rfl, plain⟩ := begins _ rfl
    obtain ⟨tail, rfl⟩ := leads
    obtain ⟨⟨c, head, isPlain⟩, -⟩ := plain.ends
    -- The plain text at the front has the first character.
    have first : ((own ++ back).toList ++ tail).head? = some c := by
      rw [String.toList_append, List.append_assoc, List.head?_append, head, Option.some_or]
    obtain rfl : c = d := Option.some.inj (first.symm.trans mem)
    exact isPlain

/-- Behind a slot of a joined template stands plain text, or nothing. -/
theorem Joined.behind_slot {value : Value} {rest : Template} {more : List Char}
    (joined : Joined (.slot value :: rest)) (leads : rest.Leads more) :
    ∀ d ∈ more.head?, isPlainChar d = true := by
  refine leads.head_plain ?_
  intro next mem
  -- A slot is no plain text itself.
  exact ((List.isChain_cons.mp joined).1 next mem).resolve_left id

/-- Behind fixed text of a joined template stands something that opens no comment with it. -/
theorem Joined.behind_fixed {text : String} {rest : Template} {more : List Char}
    (joined : Joined (.fixed text :: rest)) (leads : rest.Leads more) :
    ∀ c ∈ text.toList.getLast?, ∀ d ∈ more.head?, Apart c d := by
  intro c isLast d isFirst
  have meets := (List.isChain_cons.mp joined).1
  by_cases ends : Piece.EndsPlain (.fixed text)
  · -- The text ends in a plain character.
    obtain ⟨front, own, rfl, plain⟩ := ends
    obtain ⟨-, last, foot, isPlain⟩ := plain.ends
    rw [String.toList_append, List.getLast?_append, foot] at isLast
    obtain rfl : last = c := Option.some.inj isLast
    exact (apart_of_isPlainChar isPlain d).1
  · -- Otherwise the next part begins with one.
    have begins : ∀ next ∈ rest.head?, next.BeginsPlain :=
      fun next mem => (meets next mem).resolve_left ends
    exact (apart_of_isPlainChar (leads.head_plain begins d isFirst) c).2

/-- A placeholder is a question mark and digits, which open nothing. -/
theorem not_opens_of_mark (n : Nat) :
    ∀ c ∈ '?' :: Nat.toDigits 10 n, c ∉ '-' :: '/' :: openers := by
  intro c mem opens
  rcases List.mem_cons.mp mem with rfl | digit
  · exact absurd opens (by decide)
  · have isDigit : c.isDigit = true := Nat.isDigit_of_mem_toDigits (by decide) (by decide) digit
    simp only [openers, List.mem_cons, List.not_mem_nil, or_false] at opens
    rcases opens with rfl | rfl | rfl | rfl | rfl <;> exact absurd isDigit (by decide)

/-- With placeholders, a joined template of quiet texts is calm. -/
theorem calm_numbered {template : Template} (joined : template.Joined)
    (quiet : template.Fixed Quiet) (pending : Nat) :
    Calm (template.numbered pending).toList := by
  induction template generalizing pending with
  | nil => exact ⟨by simp [numbered], .nil⟩
  | cons piece rest ih =>
    have later := (List.isChain_cons.mp joined).2
    cases piece with
    | fixed text =>
      obtain ⟨first, others⟩ := (fixed_cons_fixed text rest).mp quiet
      rw [numbered, String.toList_append]
      exact first.calm.append (ih later others pending)
        (joined.behind_fixed (leads_numbered rest pending))
    | slot value =>
      have others := (fixed_cons_slot value rest).mp quiet
      have own := not_opens_of_mark (pending + 1)
      have shown : (numbered pending (.slot value :: rest)).toList =
          '?' :: Nat.toDigits 10 (pending + 1) ++ (numbered (pending + 1) rest).toList := by
        simp [numbered]
      rw [shown]
      refine (calm_of_forall own).append (ih later others (pending + 1)) ?_
      intro c isLast d _
      have closed := own c (List.mem_of_getLast? isLast)
      exact ⟨fun dash => closed (by simp [dash.1]), fun slash => closed (by simp [slash.1])⟩

end Template

/-- Text behind a marker's digits that does not go on with one ends the marker. -/
theorem takeWhile_isDigit_append {back : List Char} (stop : ∀ c ∈ back.head?, c.isDigit = false)
    (front : List Char) :
    (front ++ back).takeWhile Char.isDigit = front.takeWhile Char.isDigit := by
  -- Either the front ends the run, or the first character behind it does.
  induction front with
  | nil =>
    cases back with
    | nil => rfl
    | cons c back => simp [stop c rfl]
  | cons c front ih => simp only [List.cons_append, List.takeWhile_cons, ih]

/-- Text behind all markers that has no question mark, and does not go on with a digit, leaves them
as they are. -/
theorem markers_append_of_stop {back : List Char} (unmarked : '?' ∉ back)
    (stop : ∀ c ∈ back.head?, c.isDigit = false) (front : List Char) :
    markers (front ++ back) = markers front := by
  induction front with
  | nil => simpa [markers] using markers_append_of_notMem unmarked []
  | cons c front ih =>
    rw [List.cons_append, markers, markers, ih, takeWhile_isDigit_append stop]

/-- Trimming a text leaves its markers. -/
theorem markers_trimEnds (text : List Char) : markers (trimEnds text) = markers text := by
  obtain ⟨front, back, shape, frontBlank, backBlank⟩ := exists_trimEnds text
  -- A blank is neither a question mark nor a digit.
  have unmarked : '?' ∉ front := fun mem => absurd (frontBlank '?' mem) (by decide)
  have unmarked' : '?' ∉ back := fun mem => absurd (backBlank '?' mem) (by decide)
  have stop : ∀ c ∈ back.head?, c.isDigit = false := by
    intro c mem
    have isBlank := backBlank c (List.mem_of_mem_head? mem)
    rw [Bool.eq_false_iff]
    intro digit
    rw [isBlank_of_isDigit digit] at isBlank
    cases isBlank
  calc markers (trimEnds text)
      = markers (trimEnds text ++ back) := (markers_append_of_stop unmarked' stop _).symm
    _ = markers (front ++ (trimEnds text ++ back)) := (markers_append_of_notMem unmarked _).symm
    _ = markers text := by rw [← shape]

namespace PlaceholderStyle

variable (style : PlaceholderStyle)

/-- A character of a text whose question marks are written in a style. -/
def mark (c : Char) : Char :=
  if c = '?' then style.marker else c

/-- A number follows each question mark of the rest of a text, if one follows each of the whole. -/
theorem numbered_tail {c : Char} {rest : List Char} (numbered : [] ∉ markers (c :: rest)) :
    [] ∉ markers rest := by
  intro mem
  rw [markers] at numbered
  split at numbered
  · exact numbered (List.mem_cons_of_mem _ mem)
  · exact numbered mem

/-- At a question mark of a calm text, translation writes the mark of the style and goes on behind
it, where no question mark is passed over. -/
theorem move_mark {rest : List Char} (calm : Calm ('?' :: rest))
    (numbered : [] ∉ markers ('?' :: rest)) :
    ∃ skip, '?' ∉ rest.take skip ∧
      style.restyle 0 .plain ('?' :: rest) = style.marker :: style.restyle skip .plain rest := by
  rw [restyle_cons, move_own calm.not_startsRegion]
  have digits : rest.takeWhile Char.isDigit ≠ [] := by
    intro none
    rw [markers, if_pos rfl, none] at numbered
    exact numbered (List.mem_cons_self ..)
  cases style with
  | postgres =>
    -- A digit follows, so it is a placeholder of the other style, whose digits are passed over.
    refine ⟨(rest.takeWhile Char.isDigit).length, ?_, ?_⟩
    · rw [← List.prefix_iff_eq_take.mp (List.takeWhile_prefix _)]
      exact fun mem => absurd (List.mem_takeWhile_imp mem) (by decide)
    · rw [if_pos ⟨rfl, takeWhile_isDigit_ne_nil.mp digits⟩]
  | sqlite =>
    -- In its own style it stays as it is.
    refine ⟨0, List.not_mem_nil, ?_⟩
    rw [if_neg fun same => absurd same.1 (by decide)]
    rfl

/-- At any other character of a calm text, translation writes it as it is. -/
theorem move_unmarked {c : Char} {rest : List Char} (calm : Calm (c :: rest)) (unmarked : c ≠ '?') :
    style.restyle 0 .plain (c :: rest) = c :: style.restyle 0 .plain rest := by
  -- There are no dollar signs either.
  have bare : ¬(c = style.other.marker ∧ StartsDigit rest) := by
    rintro ⟨rfl, -⟩
    cases style with
    | postgres => exact unmarked rfl
    | sqlite => exact calm.own _ (List.mem_cons_self ..) (by decide)
  rw [restyle_cons, move_own calm.not_startsRegion, if_neg bare]

/-- A calm text in which a number follows each question mark is written with the marks of a style,
where the characters that are passed over have no question mark. -/
theorem restyle_calm {text : List Char} (calm : Calm text) (numbered : [] ∉ markers text)
    {skip : Nat} (passed : '?' ∉ text.take skip) :
    style.restyle skip .plain text = text.map style.mark := by
  induction text generalizing skip with
  | nil => cases skip <;> rfl
  | cons c rest ih =>
    have later : Calm rest := calm.of_infix (List.suffix_cons c rest).isInfix
    have others := numbered_tail numbered
    cases skip with
    | succ skip =>
      -- A character that is passed over is written as it is.
      rw [List.take_succ_cons, List.mem_cons, not_or] at passed
      rw [restyle, ih later others passed.2, List.map_cons, mark, if_neg (Ne.symm passed.1)]
    | zero =>
      by_cases marked : c = '?'
      · subst marked
        obtain ⟨skip, run, moved⟩ := style.move_mark calm numbered
        rw [moved, ih later others run, List.map_cons, mark, if_pos rfl]
      · rw [style.move_unmarked calm marked, ih later others List.not_mem_nil, List.map_cons, mark,
          if_neg marked]

/-- A calm text in which a number follows each question mark is normalized to itself without the
blanks around it, its question marks written in the style. -/
theorem normalize_calm {sql : String} (calm : Calm sql.toList)
    (numbered : [] ∉ markers sql.toList) :
    (style.normalize sql).toList = (trim sql).toList.map style.mark := by
  have within : Calm (trim sql).toList := by
    rw [trim, String.toList_ofList]
    exact calm.of_infix (trimEnds_within sql.toList)
  have kept : [] ∉ markers (trim sql).toList := by
    rw [trim, String.toList_ofList, markers_trimEnds]
    exact numbered
  rw [normalize, translate, String.toList_ofList]
  exact style.restyle_calm within kept List.not_mem_nil

end PlaceholderStyle

/-- A statement of quiet texts that is assembled with placeholders is normalized to itself without
the blanks around it, with the marks of the style in front of the numbers. -/
theorem normalize_of_assemble {escape : Escape} {compiler after : Compiler} {statement : Statement}
    {sql : String} (quiet : ∀ text ∈ statement.givenTexts, Quiet text)
    (prepared : compiler.prepared = true)
    (ok : statement.assemble escape compiler = (.ok sql, after)) (style : PlaceholderStyle) :
    (style.normalize sql).toList = (trim sql).toList.map style.mark ∧
      markers (trim sql).toList =
        (List.range' (compiler.pending.length + 1) statement.bound.length).map (Nat.toDigits 10) ∧
      after.pending = compiler.pending ++ statement.bound := by
  have joined := joined_of_assemble ok (Assembly.nextKind compiler)
  have parted := statement.parted_template (Assembly.nextKind compiler)
  obtain ⟨rfl, kept, bound⟩ := assemble_eq_written ok
  have fixed := statement.fixed_template composable_quiet (Assembly.nextKind compiler) quiet
  have unmarked : (statement.template (Assembly.nextKind compiler)).Fixed
      fun text => '?' ∉ text.toList := fun text mem => (fixed text mem).unmarked
  have mode : (compiler.binding escape).prepared = true := prepared
  rw [Template.write, if_pos mode] at kept ⊢
  -- Each marker is a number, so none is empty.
  have shown := Template.markers_numbered parted unmarked compiler.pending.length
  have numbered : [] ∉ markers ((statement.template (Assembly.nextKind compiler)).numbered
      compiler.pending.length).toList := by
    rw [shown]
    intro mem
    obtain ⟨n, -, none⟩ := List.mem_map.mp mem
    exact Nat.toDigits_ne_nil none
  refine ⟨style.normalize_calm (Template.calm_numbered joined fixed _) numbered, ?_, ?_⟩
  · rw [trim, String.toList_ofList, markers_trimEnds, shown, bound]
  · rw [kept, bound]

end Querent
