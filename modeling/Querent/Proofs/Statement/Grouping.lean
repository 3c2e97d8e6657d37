import Querent.Proofs.Statement.PassedOn
import Querent.Proofs.Text.Search

/-! Clauses that are passed on to a selection, and which of them the check for GROUP BY in front of
HAVING lets through. -/

namespace Querent

/-- Whether a text names a clause. -/
def Named (text : String) : Prop :=
  (ClauseKind.ofText? text).isSome = true

instance (text : String) : Decidable (Named text) :=
  inferInstanceAs (Decidable (_ = _))

/-- Whether each HAVING in a text comes behind a GROUP BY. -/
def HavingGrouped (text : List Char) : Prop :=
  ∀ front back, text = front ++ ("HAVING".toList ++ back) → "GROUP BY".toList <:+: front

/-- Whether each clause that is told to be a HAVING clause comes behind one that is told to group
rows. -/
def Guarded (texts : List String) : Prop :=
  ∀ front text back, texts = front ++ text :: back → ClauseKind.ofText? text = some .having →
    ∃ earlier ∈ front, ClauseKind.ofText? earlier = some .groupBy

/-- Whether it is evident what a text has of HAVING and GROUP BY: a grouping has no HAVING in front
of its own GROUP BY, and any other clause has no GROUP BY, does not go on with one that was begun
before it, and has no HAVING unless it is told by that. -/
structure Evident (text : String) : Prop where
  grouping : ClauseKind.ofText? text = some .groupBy → HavingGrouped (trim text).toList
  other : ClauseKind.ofText? text ≠ some .groupBy →
    holds text "GROUP BY" = false ∧ ¬"BY".toList <+: (trim text).toList ∧
      (holds text "HAVING" = true → ClauseKind.ofText? text = some .having)

/-- Whether a text is one of otherwise evident clauses of which the check lets through what it
should not, or the other way round. -/
def Misleads (text : String) : Prop :=
  ∃ texts, text ∈ texts ∧ (∀ own ∈ texts, Named own ∧ (own ≠ text → Evident own)) ∧
    ¬(Guarded texts ↔ HavingGrouped (joinWith " " (texts.map trim)).toList)

/-- Clauses as they stand one behind another in a statement, each behind a space. -/
def spaced (texts : List String) : List Char :=
  texts.flatMap fun text => ' ' :: (trim text).toList

section

variable {text : String} {texts : List String}

/-- A keyword begins and ends with no blank. -/
theorem ClauseKind.keyword_solid (kind : ClauseKind) :
    (∀ c ∈ kind.keyword.toList.head?, isBlank c = false) ∧
      ∀ c ∈ kind.keyword.toList.getLast?, isBlank c = false := by
  have letters : ∃ c d, kind.keyword.toList.head? = some c ∧
      kind.keyword.toList.getLast? = some d ∧ isBlank c = false ∧ isBlank d = false := by
    cases kind <;> exact ⟨_, _, rfl, rfl, by decide, by decide⟩
  obtain ⟨c, d, first, last, solid, solid'⟩ := letters
  simp [first, last, solid, solid']

/-- A keyword is looked for in a text as in what is left of it without the blanks around it. -/
theorem keyword_infix_trim (kind : ClauseKind) :
    kind.keyword.toList <:+: (trim text).toList ↔ holds text kind.keyword = true := by
  rw [holds_iff, trim, String.toList_ofList]
  exact infix_trimEnds_iff kind.keyword_solid.1 kind.keyword_solid.2 text.toList

/-- A text of a kind holds the keyword of the kind. -/
theorem holds_of_ofText? {kind : ClauseKind} (told : ClauseKind.ofText? text = some kind) :
    holds text kind.keyword = true := by
  have found := List.find?_some told
  exact found

/-- A text that is told to be a HAVING clause holds no GROUP BY. -/
theorem not_holds_groupBy_of_having (told : ClauseKind.ofText? text = some .having) :
    holds text "GROUP BY" = false := by
  -- The keywords are tried in turn, and the one for a grouping before the one for HAVING.
  rw [ClauseKind.ofText?, List.find?_cons] at told
  split at told
  · cases told
  · rw [List.find?_cons] at told
    split at told
    · cases told
    · next absent => exact absent

/-- Without HAVING there is nothing to group. -/
theorem havingGrouped_of_absent {text : List Char} (absent : ¬"HAVING".toList <:+: text) :
    HavingGrouped text := by
  rintro front back rfl
  exact absurd ⟨front, back, by rw [List.append_assoc]⟩ absent

/-- A GROUP BY in a text that is joined with a space stands in one of the parts, or its two words
do. -/
theorem groupBy_infix_iff (front back : List Char) :
    "GROUP BY".toList <:+: front ++ ' ' :: back ↔ "GROUP BY".toList <:+: front ∨
      "GROUP BY".toList <:+: back ∨ "GROUP".toList <:+ front ∧ "BY".toList <+: back := by
  rw [infix_append_cons_iff]
  refine or_congr_right (or_congr_right ?_)
  constructor
  · rintro ⟨left, right, shape, ends, begins⟩
    -- There is one space between the words.
    have words : "GROUP".toList = left ∧ "BY".toList = right := by
      have split : "GROUP BY".toList = "GROUP".toList ++ ' ' :: "BY".toList := by decide
      have solid : ' ' ∉ right := by
        intro mem
        have twice := congrArg (List.count ' ') shape
        rw [List.count_append, List.count_cons_self] at twice
        have one : "GROUP BY".toList.count ' ' = 1 := by decide
        have behind := List.count_pos_iff.mpr mem
        omega
      exact last_split_unique (by decide) solid (split.symm.trans shape)
    obtain ⟨rfl, rfl⟩ := words
    exact ⟨ends, begins⟩
  · rintro ⟨ends, begins⟩
    exact ⟨_, _, by decide, ends, begins⟩

/-- In a text that is joined with a space, each HAVING of the second part comes behind a GROUP BY of
the whole. -/
theorem havingGrouped_append_iff (front back : List Char) :
    HavingGrouped (front ++ ' ' :: back) ↔ HavingGrouped front ∧
      ∀ before behind, back = before ++ ("HAVING".toList ++ behind) →
        "GROUP BY".toList <:+: front ++ ' ' :: before := by
  constructor
  · intro grouped
    constructor
    · rintro before behind rfl
      exact grouped before (behind ++ ' ' :: back) (by simp only [List.append_assoc])
    · rintro before behind rfl
      exact grouped (front ++ ' ' :: before) behind (by simp)
  · rintro ⟨first, second⟩ before behind shape
    -- The word has no space, so it stands in one of the parts.
    rcases split_of_solid (by decide) (by decide) shape with ⟨rest, own⟩ | ⟨rest, rfl, own⟩
    · exact first before rest own
    · exact second rest behind own

/-- No clauses are guarded. -/
theorem guarded_nil : Guarded [] := by
  rintro front text back shape
  cases front <;> cases shape

/-- Clauses are guarded if they are so without the last one, and this one is no HAVING clause or has
a grouping before it. -/
theorem guarded_concat_iff : Guarded (texts ++ [text]) ↔ Guarded texts ∧
    (ClauseKind.ofText? text = some .having →
      ∃ earlier ∈ texts, ClauseKind.ofText? earlier = some .groupBy) := by
  constructor
  · intro guarded
    constructor
    · rintro front own back rfl having
      exact guarded front own (back ++ [text]) (by simp) having
    · exact guarded texts text [] rfl
  · rintro ⟨before, last⟩ front own back shape having
    rcases List.eq_nil_or_concat' back with rfl | ⟨back, other, rfl⟩
    · obtain ⟨rfl, same⟩ := List.append_inj' shape rfl
      obtain rfl := List.singleton_inj.mp same
      exact last having
    · -- Any other clause stands before the last one.
      rw [← List.cons_append, ← List.append_assoc] at shape
      obtain ⟨rfl, -⟩ := List.append_inj' shape rfl
      exact before front own back rfl having

/-- Clauses are guarded behind a first one if this one is no HAVING clause, and groups rows unless
the others are guarded by themselves. -/
theorem guarded_cons_iff : Guarded (text :: texts) ↔ ClauseKind.ofText? text ≠ some .having ∧
    (ClauseKind.ofText? text = some .groupBy ∨ Guarded texts) := by
  constructor
  · intro guarded
    constructor
    · intro having
      obtain ⟨earlier, none, -⟩ := guarded [] text texts rfl having
      cases none
    · by_cases grouping : ClauseKind.ofText? text = some .groupBy
      · exact .inl grouping
      · refine .inr ?_
        rintro front own back rfl having
        obtain ⟨earlier, mem, grouped⟩ := guarded (text :: front) own back rfl having
        rcases List.mem_cons.mp mem with rfl | mem
        · exact absurd grouped grouping
        · exact ⟨earlier, mem, grouped⟩
  · rintro ⟨other, grouped⟩ front own back shape having
    -- The clause is the first one, or it stands behind the first one.
    cases front with
    | nil =>
      obtain ⟨rfl, rfl⟩ := List.cons.inj shape
      exact absurd having other
    | cons first front =>
      obtain ⟨rfl, rfl⟩ := List.cons.inj shape
      rcases grouped with grouping | guarded
      · exact ⟨text, List.mem_cons_self .., grouping⟩
      · obtain ⟨earlier, mem, grouping⟩ := guarded front own back rfl having
        exact ⟨earlier, List.mem_cons_of_mem _ mem, grouping⟩

/-- The clauses behind a space are their joined text behind it. -/
theorem spaced_eq (some : texts ≠ []) :
    spaced texts = ' ' :: (joinWith " " (texts.map trim)).toList := by
  induction texts with
  | nil => exact absurd rfl some
  | cons text texts ih =>
    -- Between two clauses the space of the second one is the separator.
    cases texts with
    | nil => simp [spaced, joinWith]
    | cons next texts =>
      have later := ih (List.cons_ne_nil next texts)
      rw [spaced, List.flatMap_cons, ← spaced, later]
      simp [joinWith]

/-- The check looks for HAVING alike with a space in front. -/
theorem havingGrouped_spaced_iff (texts : List String) :
    HavingGrouped (spaced texts) ↔ HavingGrouped (joinWith " " (texts.map trim)).toList := by
  by_cases some : texts = []
  · subst some
    rfl
  · rw [spaced_eq some]
    have joined := havingGrouped_append_iff [] (joinWith " " (texts.map trim)).toList
    rw [List.nil_append] at joined
    rw [joined]
    -- A GROUP BY does not begin with a space.
    have space : ∀ c ∈ [' '], isBlank c = true := List.forall_mem_singleton.mpr (by decide)
    have behind : ∀ before : List Char, "GROUP BY".toList <:+: ' ' :: before ↔
        "GROUP BY".toList <:+: before :=
      infix_behind_blanks ClauseKind.groupBy.keyword_solid.1 space
    simp only [List.nil_append, behind]
    exact ⟨fun grouped => grouped.2, fun grouped =>
      ⟨havingGrouped_of_absent (by decide), grouped⟩⟩

/-- An evident clause that is no grouping has no GROUP BY in it. -/
theorem Evident.without (evident : Evident text) (other : ClauseKind.ofText? text ≠ some .groupBy) :
    ¬"GROUP BY".toList <:+: (trim text).toList := by
  rw [show "GROUP BY" = ClauseKind.groupBy.keyword from rfl, keyword_infix_trim,
    Bool.not_eq_true]
  exact (evident.other other).1

/-- Evident clauses have a GROUP BY among them exactly if one of them groups rows. -/
theorem groupBy_infix_spaced_iff (evident : ∀ text ∈ texts, Evident text) :
    "GROUP BY".toList <:+: spaced texts ↔
      ∃ earlier ∈ texts, ClauseKind.ofText? earlier = some .groupBy := by
  induction texts using List.reverseRecOn with
  | nil => simp [spaced]
  | append_singleton texts text ih =>
    have before := ih fun own mem => evident own (List.mem_append_left _ mem)
    have shape : spaced (texts ++ [text]) = spaced texts ++ ' ' :: (trim text).toList := by
      simp [spaced]
    rw [shape, groupBy_infix_iff, before]
    have own := evident text (by simp)
    by_cases grouping : ClauseKind.ofText? text = some .groupBy
    · -- A grouping has the words itself.
      have within := (keyword_infix_trim .groupBy).mpr (holds_of_ofText? grouping)
      exact iff_of_true (.inr (.inl within)) ⟨text, by simp, grouping⟩
    · -- Any other clause neither has them nor completes them.
      have none : ¬("GROUP BY".toList <:+: (trim text).toList ∨
          "GROUP".toList <:+ spaced texts ∧ "BY".toList <+: (trim text).toList) := by
        rintro (inside | ⟨-, begins⟩)
        · exact own.without grouping inside
        · exact (own.other grouping).2.1 begins
      rw [or_iff_left none]
      simp [grouping]

/-- Evident clauses are guarded exactly if in their text each HAVING comes behind a GROUP BY. -/
theorem guarded_iff_of_evident (evident : ∀ text ∈ texts, Evident text) :
    Guarded texts ↔ HavingGrouped (joinWith " " (texts.map trim)).toList := by
  rw [← havingGrouped_spaced_iff]
  induction texts using List.reverseRecOn with
  | nil => exact iff_of_true guarded_nil (havingGrouped_of_absent (by decide))
  | append_singleton texts text ih =>
    have others : ∀ own ∈ texts, Evident own :=
      fun own mem => evident own (List.mem_append_left _ mem)
    have shape : spaced (texts ++ [text]) = spaced texts ++ ' ' :: (trim text).toList := by
      simp [spaced]
    rw [guarded_concat_iff, ih others, shape, havingGrouped_append_iff]
    refine and_congr_right fun _ => ?_
    have own := evident text (by simp)
    by_cases grouping : ClauseKind.ofText? text = some .groupBy
    · -- A grouping has a GROUP BY of its own in front of each HAVING.
      refine iff_of_true (by simp [grouping]) fun before behind split => ?_
      exact (own.grouping grouping before behind split).trans
        ((List.suffix_cons ..).trans (List.suffix_append ..)).isInfix
    · obtain ⟨-, separate, told⟩ := own.other grouping
      rw [← groupBy_infix_spaced_iff others]
      constructor
      · -- Where a HAVING stands, the clause is told by it.
        intro earlier before behind split
        have within : "HAVING".toList <:+: (trim text).toList := ⟨before, behind, by simp [split]⟩
        have having := told ((keyword_infix_trim .having).mp within)
        exact (earlier having).trans (List.prefix_append ..).isInfix
      · intro grouped having
        obtain ⟨before, behind, split⟩ :=
          (keyword_infix_trim .having).mpr (holds_of_ofText? having)
        rw [List.append_assoc] at split
        -- What comes before the HAVING is a part of the clause, so the words are not there.
        have part : before <+: (trim text).toList := ⟨_, split⟩
        rcases (groupBy_infix_iff _ _).mp (grouped before behind split.symm)
          with earlier | inside | ⟨-, begins⟩
        · exact earlier
        · exact absurd (inside.trans part.isInfix) (own.without grouping)
        · exact absurd (begins.trans part) separate

/-- Behind a clause that ends with the first word of GROUP BY, each HAVING of a text that begins
with the second one comes behind a GROUP BY. -/
theorem havingGrouped_of_begins {text : List Char} (begins : "BY".toList <+: text) :
    HavingGrouped ("ORDER BY GROUP".toList ++ ' ' :: text) := by
  refine (havingGrouped_append_iff _ _).mpr ⟨havingGrouped_of_absent (by decide), ?_⟩
  rintro before behind rfl
  -- The text does not begin with the HAVING, so it has the word in front of that.
  have front : "BY".toList <+: before := by
    obtain ⟨rest, shape⟩ := begins
    rcases List.append_eq_append_iff.mp shape with ⟨left, own, -⟩ | ⟨left, own, others⟩
    · exact ⟨left, own.symm⟩
    · cases left with
      | nil => exact ⟨[], by simpa using own⟩
      | cons c left =>
        obtain rfl : 'H' = c := (List.cons.inj others).1
        have mem : 'H' ∈ "BY".toList := own ▸ List.mem_append_right _ (List.mem_cons_self ..)
        exact absurd mem (by decide)
  exact (groupBy_infix_iff _ _).mpr (.inr (.inr ⟨by decide, front⟩))

/-- The clauses that stand beside another one to show that it is not evident. -/
theorem evident_beside :
    (Named "ORDER BY GROUP" ∧ Evident "ORDER BY GROUP") ∧
      Named "HAVING a" ∧ Evident "HAVING a" := by
  refine ⟨⟨by decide, fun grouping => absurd grouping (by decide), fun _ => by decide⟩, by decide,
    fun grouping => absurd grouping (by decide), fun _ => by decide⟩

/-- Behind clauses of which none groups rows, a HAVING clause is not let through, even if there is a
GROUP BY in their text. -/
theorem unguarded_having (ungrouped : ∀ own ∈ texts, ClauseKind.ofText? own ≠ some .groupBy)
    (grouped : HavingGrouped (spaced texts)) (within : "GROUP BY".toList <:+: spaced texts) :
    ¬Guarded (texts ++ ["HAVING a"]) ∧
      HavingGrouped (joinWith " " ((texts ++ ["HAVING a"]).map trim)).toList := by
  constructor
  · intro guarded
    obtain ⟨earlier, mem, grouping⟩ := (guarded_concat_iff.mp guarded).2 (by decide)
    exact ungrouped earlier mem grouping
  · have shape : spaced (texts ++ ["HAVING a"]) = spaced texts ++ ' ' :: "HAVING a".toList := by
      rw [spaced, List.flatMap_append, List.flatMap_singleton, ← spaced]
      exact congrArg (spaced texts ++ ' ' :: ·) (by decide)
    rw [← havingGrouped_spaced_iff, shape, havingGrouped_append_iff]
    exact ⟨grouped, fun _ _ _ => within.trans (List.prefix_append ..).isInfix⟩

/-- By itself, a clause that is told by another word than HAVING is let through, so it misleads if
it has a HAVING that is not grouped. -/
theorem misleads_alone (named : Named text) (other : ClauseKind.ofText? text ≠ some .having)
    (ungrouped : ¬HavingGrouped (trim text).toList) : Misleads text := by
  have guarded : Guarded [text] := guarded_cons_iff.mpr ⟨other, .inr guarded_nil⟩
  exact ⟨[text], List.mem_singleton_self text,
    List.forall_mem_singleton.mpr ⟨named, fun differs => absurd rfl differs⟩,
    fun same => ungrouped (same.mp guarded)⟩

/-- A clause that completes a GROUP BY which was begun before it misleads unless it groups rows. -/
theorem misleads_of_begins (named : Named text)
    (grouping : ClauseKind.ofText? text ≠ some .groupBy)
    (begins : "BY".toList <+: (trim text).toList) : Misleads text := by
  obtain ⟨⟨namedOrder, evidentOrder⟩, namedHaving, evidentHaving⟩ := evident_beside
  have grouped : HavingGrouped (spaced ["ORDER BY GROUP", text]) := by
    have joined : (joinWith " " (["ORDER BY GROUP", text].map trim)).toList =
        "ORDER BY GROUP".toList ++ ' ' :: (trim text).toList := by
      have trimmed : trim "ORDER BY GROUP" = "ORDER BY GROUP" := by decide
      rw [List.map_cons, List.map_singleton, trimmed]
      simp [joinWith]
    rw [havingGrouped_spaced_iff, joined]
    exact havingGrouped_of_begins begins
  have within : "GROUP BY".toList <:+: spaced ["ORDER BY GROUP", text] := by
    have shape : spaced ["ORDER BY GROUP", text] =
        ' ' :: (trim "ORDER BY GROUP").toList ++ ' ' :: (trim text).toList := by
      simp [spaced]
    rw [shape, groupBy_infix_iff]
    exact .inr (.inr ⟨by decide, begins⟩)
  -- A HAVING clause that follows is refused, since neither of the two is told to group rows.
  obtain ⟨refused, allowed⟩ := unguarded_having (List.forall_mem_cons.mpr
    ⟨by decide, List.forall_mem_singleton.mpr grouping⟩) grouped within
  refine ⟨_, by simp, ?_, fun same => refused (same.mpr allowed)⟩
  simp only [List.cons_append, List.nil_append, List.forall_mem_cons]
  exact ⟨⟨namedOrder, fun _ => evidentOrder⟩, ⟨named, fun differs => absurd rfl differs⟩,
    ⟨namedHaving, fun _ => evidentHaving⟩, by simp⟩

/-- A clause that has a GROUP BY and is told by another word misleads. -/
theorem misleads_of_within (named : Named text)
    (grouping : ClauseKind.ofText? text ≠ some .groupBy)
    (within : "GROUP BY".toList <:+: (trim text).toList) : Misleads text := by
  obtain ⟨-, namedHaving, evidentHaving⟩ := evident_beside
  have other : ClauseKind.ofText? text ≠ some .having := by
    intro having
    have held := (keyword_infix_trim .groupBy).mp within
    rw [show ClauseKind.groupBy.keyword = "GROUP BY" from rfl,
      not_holds_groupBy_of_having having] at held
    cases held
  by_cases grouped : HavingGrouped (trim text).toList
  · -- Its own GROUP BY is not seen when a HAVING clause follows.
    have shape : spaced [text] = ' ' :: (trim text).toList := by simp [spaced]
    have ungrouped : ∀ own ∈ [text], ClauseKind.ofText? own ≠ some .groupBy :=
      List.forall_mem_singleton.mpr grouping
    obtain ⟨refused, allowed⟩ := unguarded_having ungrouped
      ((havingGrouped_spaced_iff [text]).mpr grouped)
      (shape ▸ within.trans (List.suffix_cons ..).isInfix)
    refine ⟨_, by simp, ?_, fun same => refused (same.mpr allowed)⟩
    simp only [List.cons_append, List.nil_append, List.forall_mem_cons]
    exact ⟨⟨named, fun differs => absurd rfl differs⟩, ⟨namedHaving, fun _ => evidentHaving⟩,
      by simp⟩
  · exact misleads_alone named other grouped

/-- A named clause that is not evident misleads. -/
theorem misleads_of_not_evident (named : Named text) (doubtful : ¬Evident text) :
    Misleads text := by
  by_cases grouping : ClauseKind.ofText? text = some .groupBy
  · refine misleads_alone named (by simp [grouping]) fun grouped => doubtful ⟨fun _ => grouped, ?_⟩
    exact fun other => absurd grouping other
  by_cases begins : "BY".toList <+: (trim text).toList
  · exact misleads_of_begins named grouping begins
  by_cases within : "GROUP BY".toList <:+: (trim text).toList
  · exact misleads_of_within named grouping within
  -- What is left is a HAVING that the clause is not told by.
  have absent : holds text "GROUP BY" = false := by
    rw [← Bool.not_eq_true]
    exact fun held => within ((keyword_infix_trim .groupBy).mpr held)
  have hidden : holds text "HAVING" = true ∧ ClauseKind.ofText? text ≠ some .having := by
    rw [← Classical.not_imp]
    exact fun told => doubtful ⟨fun same => absurd same grouping, fun _ => ⟨absent, begins, told⟩⟩
  refine misleads_alone named hidden.2 fun grouped => ?_
  obtain ⟨before, behind, split⟩ := (keyword_infix_trim .having).mpr hidden.1
  rw [List.append_assoc] at split
  have part : before <+: (trim text).toList := ⟨_, split⟩
  exact within ((grouped before behind split.symm).trans part.isInfix)

end

namespace Assembly

variable {escape : Escape} {before : Compiler} {texts : List String}

/-- Named clauses are passed on trimmed if they are guarded or a grouping was passed on before them,
and otherwise HAVING is refused. -/
theorem fragments_raw (named : ∀ text ∈ texts, Named text) (grouped : Bool) :
    (grouped = true ∨ Guarded texts →
      fragments grouped (texts.map .raw) = .ok (texts.map trim)) ∧
    (¬(grouped = true ∨ Guarded texts) →
      fragments grouped (texts.map .raw) = .error .havingBeforeGroupBy) := by
  induction texts generalizing grouped with
  | nil => exact ⟨fun _ => rfl, fun refused => absurd (.inr guarded_nil) refused⟩
  | cons text texts ih =>
    obtain ⟨own, others⟩ := List.forall_mem_cons.mp named
    obtain ⟨kind, told⟩ := Option.isSome_iff_exists.mp own
    have step : fragments grouped ((text :: texts).map .raw) =
        if kind = .having ∧ !grouped then .error .havingBeforeGroupBy
        else (fragments (grouped || kind = .groupBy) (texts.map .raw)).map (trim text :: ·) := by
      rw [List.map_cons, fragments, told]
    obtain ⟨passed, refused⟩ := ih others (grouped || decide (kind = .groupBy))
    rw [step, guarded_cons_iff, told]
    by_cases alone : kind = .having ∧ !grouped
    · -- A HAVING clause with no grouping before it is refused at once.
      obtain ⟨rfl, ungrouped⟩ := alone
      rw [Bool.not_eq_true'] at ungrouped
      subst ungrouped
      exact ⟨by simp, fun _ => rfl⟩
    · rw [if_neg alone]
      -- Otherwise the rest decides, behind this clause.
      have same : (grouped = true ∨ some kind ≠ some ClauseKind.having ∧
          (some kind = some ClauseKind.groupBy ∨ Guarded texts)) ↔
            (grouped || decide (kind = .groupBy)) = true ∨ Guarded texts := by
        cases grouped <;> simp_all
      rw [same]
      exact ⟨fun ok => by rw [passed ok]; rfl, fun no => by rw [refused no]; rfl⟩

/-- Named clauses end a selection as their texts with spaces between them, if they are guarded. -/
theorem run_modifiers_raw (escape : Escape) (before : Compiler) (some : texts ≠ [])
    (named : ∀ text ∈ texts, Named text) :
    (Guarded texts → (modifiers escape (texts.map .raw)).run.run before =
      (.ok (joinWith " " (texts.map trim)), before)) ∧
    (¬Guarded texts → (modifiers escape (texts.map .raw)).run.run before =
      (.error .havingBeforeGroupBy, before)) := by
  have written : (texts.map Condition.raw).any (·.fragment?.isSome) = true := by
    obtain ⟨text, rest, rfl⟩ := List.exists_cons_of_ne_nil some
    have own : (Condition.raw text).fragment?.isSome = true := named text (List.mem_cons_self ..)
    rw [List.map_cons, List.any_cons, own, Bool.true_or]
  obtain ⟨passed, refused⟩ := fragments_raw named false
  rw [modifiers, if_pos written]
  constructor
  · intro guarded
    rw [passed (.inr guarded)]
    rfl
  · intro unguarded
    rw [refused (by simpa using unguarded)]
    rfl

end Assembly

/-- A statement that selects from tables that are there, but for what ends the selection, and the
head that this comes behind. -/
inductive Statement.Selects : (List Condition → Statement) → String → Prop
  | select {table : String} {columns : List String} : isBlankText table = false →
      Selects (.select table columns) ("SELECT " ++ selectList columns ++ " FROM " ++ trim table)
  | createSelect {table source : String} {columns : List String} : isBlankText table = false →
      isBlankText source = false → Selects (.createSelect table columns source)
        ("CREATE TABLE " ++ trim table ++ " AS SELECT " ++ selectList columns ++ " FROM " ++
          trim source)
  | selectInto {table source : String} {columns : List String} : isBlankText table = false →
      isBlankText source = false → Selects (.selectInto table columns source)
        ("SELECT " ++ selectList columns ++ " INTO " ++ trim table ++ " FROM " ++ trim source)
  | insertSelect {table source : String} {columns sourceColumns : List String} :
      isBlankText table = false → isBlankText source = false →
      Selects (.insertSelect table columns source sourceColumns)
        ((if selectList columns = "*" then "INSERT INTO " ++ trim table
          else "INSERT INTO " ++ trim table ++ " (" ++ selectList columns ++ ")") ++ " " ++
          ("SELECT " ++ selectList sourceColumns ++ " FROM " ++ trim source))

namespace Statement

variable {statement : List Condition → Statement} {head : String} {escape : Escape}

/-- More text in front of a head stands in front of the whole. -/
theorem append_withTail (front head tail : String) :
    front ++ withTail head tail = withTail (front ++ head) tail := by
  unfold withTail
  split
  · rfl
  · simp only [String.append_assoc]

/-- A selection from tables that are there runs as what ends it does. -/
theorem Selects.build_eq (selects : Selects statement head) (args : List Condition) :
    Assembly.build escape (statement args) =
      Assembly.modifiers escape args >>= fun tail => pure (withTail head tail) := by
  have required : ∀ {table : String}, isBlankText table = false →
      Assembly.requireTable table = pure (trim table) := by
    intro table present
    rw [Assembly.requireTable, present]
    rfl
  -- The tables are there, so that what asks for them gives their names.
  cases selects with
  | select there =>
    rw [Assembly.build, Assembly.selection, required there, pure_bind]
  | createSelect there there' =>
    rw [Assembly.build, required there', pure_bind, required there, pure_bind]
  | selectInto there there' =>
    rw [Assembly.build, required there', pure_bind, required there, pure_bind]
  | insertSelect there there' =>
    rw [Assembly.build, required there, pure_bind, Assembly.selection, required there', pure_bind,
      bind_assoc]
    simp only [pure_bind, append_withTail]

/-- A selection from tables that are there is assembled as what ends it is. -/
theorem Selects.assemble_eq (selects : Selects statement head) (args : List Condition)
    (before : Compiler) : (statement args).assemble escape before =
      match (Assembly.modifiers escape args).run.run before with
      | (.ok tail, after) => (.ok (withTail head tail), after)
      | (.error fault, after) => (.error fault, after.clear) := by
  rw [assemble, selects.build_eq, Assembly.run_bind]
  rcases (Assembly.modifiers escape args).run.run before with ⟨fault | tail, after⟩ <;> rfl

/-- A selection with named clauses is assembled from its head and their texts, if they are guarded,
and leaves what is pending; otherwise it fails by HAVING. -/
theorem Selects.assemble_raw (selects : Selects statement head) (escape : Escape)
    {texts : List String} (named : ∀ text ∈ texts, Named text) (before : Compiler) :
    (Guarded texts → ((statement (texts.map .raw)).assemble escape before).1 =
      .ok (withTail head (joinWith " " (texts.map trim)))) ∧
    (¬Guarded texts → (statement (texts.map .raw)).assemble escape before =
      (.error .havingBeforeGroupBy, before.clear)) := by
  -- Written clauses leave the compiler as it is, and a refusal clears it.
  rw [selects.assemble_eq]
  by_cases some : texts = []
  · -- Without clauses there is nothing behind the head.
    subst some
    exact ⟨fun _ => rfl, fun unguarded => absurd guarded_nil unguarded⟩
  · obtain ⟨passed, refused⟩ := Assembly.run_modifiers_raw escape before some named
    exact ⟨fun guarded => by rw [passed guarded], fun unguarded => by rw [refused unguarded]⟩

end Statement

/-- A clause that is compiled as a HAVING clause is evident exactly if it has neither of the words
that are looked for before HAVING. -/
theorem evident_having_iff {escape : Escape} {compiler after : Compiler}
    {comparisons : List Comparison} {clause : Clause} (some : comparisons ≠ [])
    (made : compiler.compileHaving escape (comparisons.map .comparison) = (.ok clause, after)) :
    Evident clause.text ↔
      holds clause.text "WHERE" = false ∧ holds clause.text "GROUP BY" = false := by
  obtain ⟨bound, compiled, text, -⟩ := Assembly.exists_of_compile made
  obtain ⟨keyword, trimmed⟩ := begins_of_compileClause some compiled
  rw [← text] at keyword trimmed
  have begins : "HAVING".toList <+: clause.text.toList := keyword
  have having : holds clause.text "HAVING" = true := (holds_iff _ _).mpr begins.isInfix
  constructor
  · intro evident
    have other : ClauseKind.ofText? clause.text ≠ .some .groupBy := by
      -- The first HAVING has nothing in front of it.
      intro grouping
      obtain ⟨rest, shape⟩ := begins
      have nothing := evident.grouping grouping [] rest (by rw [trimmed]; exact shape.symm)
      exact absurd (List.infix_nil.mp nothing) (by decide)
    obtain ⟨absent, -, told⟩ := evident.other other
    refine ⟨?_, absent⟩
    have first := told having
    rw [ClauseKind.ofText?, List.find?_cons] at first
    split at first
    · cases first
    · next filter => exact filter
  · rintro ⟨noFilter, noGrouping⟩
    have told : ClauseKind.ofText? clause.text = .some .having := by
      simp [ClauseKind.ofText?, ClauseKind.keyword, noFilter, noGrouping, having]
    refine ⟨fun grouping => ?_, fun _ => ⟨noGrouping, ?_, fun _ => told⟩⟩
    · rw [told] at grouping
      cases grouping
    · rw [trimmed]
      intro completes
      -- The two words begin with different letters.
      rcases List.prefix_or_prefix_of_prefix begins completes with one | other
      · exact absurd one (by decide)
      · exact absurd other (by decide)

/-- Clauses that each name a clause are accepted behind a selection, as their texts with spaces
between them, or refused for a HAVING. If all of them are evident, they are accepted exactly if
each HAVING in the joined text comes behind a GROUP BY; and a clause that is not evident is one of
otherwise evident clauses for which this is wrong. A compiled HAVING clause is evident exactly if
its text has neither WHERE nor GROUP BY in it. -/
theorem accepts_iff_havingGrouped_of_evident {statement : List Condition → Statement}
    {head : String} (selects : Statement.Selects statement head) (escape : Escape)
    (before : Compiler) :
    let joined := fun texts : List String => joinWith " " (texts.map trim)
    let made := fun texts : List String =>
      ((statement (texts.map .raw)).assemble escape before).1
    let accepts := fun texts => ∃ sql, made texts = .ok sql
    (∀ texts, (∀ text ∈ texts, Named text) →
      made texts = .ok (withTail head (joined texts)) ∨
        made texts = .error .havingBeforeGroupBy) ∧
    (∀ texts, (∀ text ∈ texts, Named text ∧ Evident text) →
      (accepts texts ↔ HavingGrouped (joined texts).toList)) ∧
    (∀ text, Named text → ¬Evident text → ∃ texts, text ∈ texts ∧
      (∀ own ∈ texts, Named own ∧ (own ≠ text → Evident own)) ∧
        ¬(accepts texts ↔ HavingGrouped (joined texts).toList)) ∧
    ∀ (compiler after : Compiler) (comparisons : List Comparison) (clause : Clause),
      comparisons ≠ [] →
      compiler.compileHaving escape (comparisons.map .comparison) = (.ok clause, after) →
      (Evident clause.text ↔
        holds clause.text "WHERE" = false ∧ holds clause.text "GROUP BY" = false) := by
  intro joined made accepts
  -- Guarded or not, a selection with named clauses has one of two outcomes.
  have assembled : ∀ texts, (∀ text ∈ texts, Named text) →
      (Guarded texts → made texts = .ok (withTail head (joined texts))) ∧
        (¬Guarded texts → made texts = .error .havingBeforeGroupBy) := by
    intro texts named
    obtain ⟨passed, refused⟩ := selects.assemble_raw escape named before
    exact ⟨passed, fun unguarded => congrArg Prod.fst (refused unguarded)⟩
  -- What is accepted is what is guarded.
  have accepted : ∀ texts, (∀ text ∈ texts, Named text) → (accepts texts ↔ Guarded texts) := by
    intro texts named
    obtain ⟨passed, refused⟩ := assembled texts named
    refine ⟨fun ⟨sql, ok⟩ => ?_, fun guarded => ⟨_, passed guarded⟩⟩
    by_contra unguarded
    rw [refused unguarded] at ok
    cases ok
  refine ⟨fun texts named => ?_, fun texts each => ?_, fun text named doubtful => ?_,
    fun compiler after comparisons clause some => evident_having_iff some⟩
  · by_cases guarded : Guarded texts
    · exact .inl ((assembled texts named).1 guarded)
    · exact .inr ((assembled texts named).2 guarded)
  · rw [accepted texts fun text mem => (each text mem).1]
    exact guarded_iff_of_evident fun text mem => (each text mem).2
  · obtain ⟨texts, mem, others, wrong⟩ := misleads_of_not_evident named doubtful
    refine ⟨texts, mem, others, ?_⟩
    rw [accepted texts fun own mem => (others own mem).1]
    exact wrong

/-- Rows are selected, grouped and then selected again. -/
theorem accepts_iff_havingGrouped_of_evident_in_order :
    let texts := ["WHERE a = 1", " GROUP BY a", "HAVING count(*) > 1"]
    Statement.Selects (.select "t" []) "SELECT * FROM t" ∧
      (∀ text ∈ texts, Named text ∧ Evident text) ∧
      ((Statement.select "t" [] (texts.map .raw)).assemble doubleQuotes (.fresh true)).1 =
        .ok "SELECT * FROM t WHERE a = 1 GROUP BY a HAVING count(*) > 1" ∧
      HavingGrouped (joinWith " " (texts.map trim)).toList := by
  intro texts
  have selects : Statement.Selects (.select "t" []) "SELECT * FROM t" := .select (by decide)
  -- Each clause is told by its own keyword, and only the grouping has GROUP BY in it.
  have each : ∀ text ∈ texts, Named text ∧ Evident text := by
    simp only [texts, List.forall_mem_cons, List.not_mem_nil, false_imp_iff, implies_true, and_true]
    refine ⟨⟨by decide, fun grouping => absurd grouping (by decide), fun _ => by decide⟩,
      ⟨by decide, fun _ => havingGrouped_of_absent (by decide), fun other => ?_⟩,
      by decide, fun grouping => absurd grouping (by decide), fun _ => by decide⟩
    exact absurd (by decide) other
  have made : ((Statement.select "t" [] (texts.map .raw)).assemble doubleQuotes (.fresh true)).1 =
      .ok "SELECT * FROM t WHERE a = 1 GROUP BY a HAVING count(*) > 1" := by decide +kernel
  obtain ⟨-, evident, -⟩ := accepts_iff_havingGrouped_of_evident selects doubleQuotes (.fresh true)
  exact ⟨selects, each, made, (evident texts each).mp ⟨_, made⟩⟩

/-- A value that holds a keyword takes a HAVING clause past the check without any grouping, and a
GROUP BY behind a condition in one text is not seen by a HAVING clause that follows. -/
theorem havingGrouped_of_accepts_fails :
    let comparison : Comparison := ⟨"name", some "=", .single (.text "WHERE"), none, none⟩
    let clause : Clause := ⟨.having, "HAVING name = 'WHERE'", 0, 0⟩
    ((Compiler.fresh false).compileHaving doubleQuotes [.comparison comparison]).1 = .ok clause ∧
      Named clause.text ∧
      ((Statement.select "t" [] [clause.toCondition]).assemble doubleQuotes (.fresh false)).1 =
        .ok "SELECT * FROM t HAVING name = 'WHERE'" ∧
      ¬HavingGrouped clause.text.toList ∧
      let texts := ["WHERE a = 1 GROUP BY a", "HAVING count(*) > 1"]
      (∀ text ∈ texts, Named text) ∧
      ((Statement.select "t" [] (texts.map .raw)).assemble doubleQuotes (.fresh false)).1 =
        .error .havingBeforeGroupBy ∧
      HavingGrouped (joinWith " " (texts.map trim)).toList := by
  intro comparison clause
  refine ⟨by decide +kernel, by decide, by decide +kernel, ?_, by decide, by decide +kernel, ?_⟩
  · intro grouped
    exact absurd (List.infix_nil.mp (grouped [] " name = 'WHERE'".toList (by decide))) (by decide)
  · have joined : (joinWith " " (List.map trim
        ["WHERE a = 1 GROUP BY a", "HAVING count(*) > 1"])).toList =
        "WHERE a = 1 GROUP BY a".toList ++ ' ' :: "HAVING count(*) > 1".toList := by decide
    rw [joined, havingGrouped_append_iff]
    refine ⟨havingGrouped_of_absent (by decide), fun before _ _ => ?_⟩
    have within : "GROUP BY".toList <:+: "WHERE a = 1 GROUP BY a".toList := by decide
    exact within.trans (List.prefix_append ..).isInfix

end Querent
