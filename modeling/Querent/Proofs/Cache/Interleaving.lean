import Mathlib.Logic.Function.Iterate
import Mathlib.Logic.IsEmpty.Basic
import Querent.Proofs.Cache.Replacement

/-! Several stores in one directory at once, with calls of one between those of others. -/

namespace Querent

/-- An entry that is to be stored under a text. -/
structure Deposit where
  text : String
  entry : CacheEntry

/-- The digest that names the files of a deposit. -/
def Deposit.key (deposit : Deposit) : String :=
  Sha256.hex deposit.text

/-- Outcomes are the same if both are good, or bad for the same reason. -/
instance : DecidableEq (Except Failure Unit)
  | .ok _, .ok _ => isTrue rfl
  | .error _, .error _ => decidable_of_iff _ (Except.error.injEq ..).symm.to_iff
  | .ok _, .error _ => isFalse nofun
  | .error _, .ok _ => isFalse nofun

/-- The call that a store makes next, or what came of it. -/
inductive StorePhase
  | ensure
  | draft
  | publish
  /-- The draft is not in its place, and is thrown away. -/
  | discard (fault : DiskFault)
  | unmark
  | done (outcome : Except Failure Unit)
deriving DecidableEq

namespace StorePhase

/-- Whether a store has come past the call that puts its entry in place. -/
def Beyond : StorePhase → Prop
  | ensure | draft | publish => False
  | _ => True

/-- Whether a store has come past the call that writes its draft. -/
def Drafted (phase : StorePhase) : Prop :=
  phase = publish ∨ phase.Beyond

/-- Whether a store has failed, or will do so next. -/
def Fails : StorePhase → Prop
  | discard _ => True
  | done (.error _) => True
  | _ => False

end StorePhase

/-- Stores that are under way, and the disk that they share. -/
structure Race (ι : Type) where
  phase : ι → StorePhase
  disk : Disk

namespace ResultCache

/-- The next call of a store, at some time. -/
def advance (cache : ResultCache) (deposit : Deposit) (now : Int) :
    StorePhase → Disk → StorePhase × Disk
  | .ensure, disk =>
    match cache.ensure now disk with
    | (.error failure, disk) => (.done (.error failure), disk)
    | (.ok _, disk) => (.draft, disk)
  | .draft, disk =>
    match cache.writeDraft now deposit.text deposit.entry disk with
    | (.error fault, disk) => (.done (.error fault.failure), disk)
    | (.ok _, disk) => (.publish, disk)
  | .publish, disk =>
    match cache.publish deposit.text disk with
    | .error fault => (.discard fault, disk)
    | .ok disk => (.unmark, disk)
  | .discard fault, disk =>
    (.done (.error fault.failure), discard (cache.draftPath deposit.text) disk)
  | .unmark, disk => (.done (.ok ()), cache.dropMarker deposit.text disk)
  | .done outcome, disk => (.done outcome, disk)

/-- A store is its calls, where no others stand between them. -/
theorem store_eq_iterate (cache : ResultCache) (deposit : Deposit) (now : Int) (disk : Disk) :
    (fun (phase, disk) => cache.advance deposit now phase disk)^[4] (.ensure, disk) =
      (.done (cache.store now deposit.text deposit.entry disk).1,
        (cache.store now deposit.text deposit.entry disk).2) := by
  simp only [Function.iterate_succ, Function.iterate_zero, Function.comp_apply, id_eq, advance,
    store]
  -- Each call fails and ends the store, or the next one is made.
  cases cache.ensure now disk with
  | mk made disk =>
    cases made with
    | error failure => rfl
    | ok _ =>
      dsimp only
      cases cache.writeDraft now deposit.text deposit.entry disk with
      | mk wrote disk =>
        cases wrote with
        | error fault => rfl
        | ok _ =>
          dsimp only
          cases cache.publish deposit.text disk with
          | error fault => rfl
          | ok disk => rfl

section

variable {ι : Type} [DecidableEq ι]

/-- How far stores have come, and what their disk is, after some of their calls, the latest first,
each by its store and time. -/
def race (cache : ResultCache) (deposits : ι → Deposit) (disk : Disk) : List (ι × Int) → Race ι
  | [] => ⟨fun _ => .ensure, disk⟩
  | (i, now) :: earlier =>
    let before := cache.race deposits disk earlier
    let (phase, disk) := cache.advance (deposits i) now (before.phase i) before.disk
    ⟨Function.update before.phase i phase, disk⟩

end

end ResultCache

/-- Whether neither the entry of a text nor its draft is a directory. -/
def Clear (nodes : String → Option Node) (text : String) : Prop :=
  ∀ file, file ≠ CacheFile.marker → ∀ old ∈ nodes (file.name text), ¬old.IsDirectory

/-- What a call of a store does to the nodes of its directory. -/
inductive StoreCall (deposit : Deposit) (nodes : String → Option Node) :
    StorePhase → StorePhase → (String → Option Node) → Prop
  | ensure : StoreCall deposit nodes .ensure .draft nodes
  | draft (now : Int) :
      StoreCall deposit nodes .draft .publish
        (Function.update nodes (CacheFile.draft.name deposit.text)
          (some (.file (textBytes deposit.entry.render) now)))
  | publish {content : List UInt8} {written : Int} :
      nodes (CacheFile.draft.name deposit.text) = some (.file content written) →
      StoreCall deposit nodes .publish .unmark
        (Function.update (Function.update nodes (CacheFile.draft.name deposit.text) none)
          (CacheFile.entry.name deposit.text) (some (.file content written)))
  /-- Another store has moved the draft or thrown it away. -/
  | robbed : nodes (CacheFile.draft.name deposit.text) = none →
      StoreCall deposit nodes .publish (.discard .missing) nodes
  | discard (fault : DiskFault) :
      StoreCall deposit nodes (.discard fault) (.done (.error fault.failure))
        (Function.update nodes (CacheFile.draft.name deposit.text) none)
  | unmark {nodes' : String → Option Node} :
      (∀ name, name ≠ CacheFile.marker.name deposit.text → nodes' name = nodes name) →
      StoreCall deposit nodes .unmark (.done (.ok ())) nodes'
  | done (outcome : Except Failure Unit) :
      StoreCall deposit nodes (.done outcome) (.done outcome) nodes

section

variable {deposit : Deposit} {nodes nodes' : String → Option Node} {before after : StorePhase}
  {text : String}

/-- A call leaves the entries and drafts of other texts as they are. -/
theorem StoreCall.elsewhere (call : StoreCall deposit nodes before after nodes')
    (apart : Sha256.hex text ≠ deposit.key) (file : CacheFile) :
    nodes' (file.name text) = nodes (file.name text) := by
  have differ := CacheFile.name_ne apart file
  -- A call that touches a file touches one with its own digest in the name.
  cases call with
  | draft now => exact Function.update_of_ne (differ _) ..
  | publish _ => rw [Function.update_of_ne (differ _), Function.update_of_ne (differ _)]
  | discard fault => exact Function.update_of_ne (differ _) ..
  | unmark kept => exact kept _ (differ _)
  | _ => rfl

/-- No call makes a directory of an entry or a draft. -/
theorem StoreCall.clear (call : StoreCall deposit nodes before after nodes')
    (clear : Clear nodes text) : Clear nodes' text := by
  intro file other
  -- To give a name a file, or nothing, makes no directory under any name.
  have changed : ∀ {nodes : String → Option Node} {name : String} {node : Option Node},
      (∀ old ∈ nodes (file.name text), ¬old.IsDirectory) → (∀ old ∈ node, ¬old.IsDirectory) →
      ∀ old ∈ Function.update nodes name node (file.name text), ¬old.IsDirectory := by
    intro nodes name node free file
    rw [Function.update_apply]
    split
    · exact file
    · exact free
  have free := clear file other
  cases call with
  | draft now => exact changed free (by simp [Node.IsDirectory])
  | publish _ => exact changed (changed free (by simp)) (by simp [Node.IsDirectory])
  | discard fault => exact changed free (by simp)
  -- The marker may be a directory, and is no concern.
  | unmark kept =>
    rw [kept]
    · exact free
    · exact CacheFile.name_ne_of_ne other
  | _ => exact free

end

namespace ResultCache

variable {cache : ResultCache} {deposit : Deposit} {disk : Disk} {trail : List String}
  {nodes : String → Option Node} {text : String}

/-- Each call of a store does to the nodes of its directory what is its turn to do. -/
theorem storeCall_of_advance (grants : disk.Grants (pathOf cache.directory) trail nodes)
    (takes : ∀ file, file ≠ CacheFile.marker →
      (pathOf cache.directory).Takes (file.name deposit.text))
    (clear : Clear nodes deposit.text) (now : Int) (phase : StorePhase) :
    ∃ nodes',
      (cache.advance deposit now phase disk).2.Grants (pathOf cache.directory) trail nodes' ∧
      StoreCall deposit nodes phase (cache.advance deposit now phase disk).1 nodes' := by
  have draftTakes := takes .draft (by decide)
  have draftFree := clear .draft (by decide)
  have draftPath : cache.draftPath deposit.text =
      cache.pathTo (CacheFile.draft.name deposit.text) := rfl
  -- The phase tells which call is next, and the nodes tell what comes of it.
  cases phase with
  -- The directory is there already.
  | ensure =>
    have ensured : cache.ensure now disk = (.ok (), disk) := by
      rw [ResultCache.ensure, grants.createDirectories]
      rfl
    rw [advance, ensured]
    exact ⟨nodes, grants, .ensure⟩
  | draft =>
    obtain ⟨drafted, wrote, kept⟩ :=
      grants.write draftTakes draftFree (textBytes deposit.entry.render) now
    have written : cache.writeDraft now deposit.text deposit.entry disk = (.ok (), drafted) := wrote
    rw [advance, written]
    exact ⟨_, kept, .draft now⟩
  | publish =>
    have entryTakes := takes .entry (by decide)
    have path := cache.entryPath_eq deposit.text
    -- Whether the draft can be moved depends on the other stores of the same digest.
    cases found : nodes (CacheFile.draft.name deposit.text) with
    | none =>
      have missing : cache.publish deposit.text disk = .error .missing := by
        rw [ResultCache.publish, path]
        exact (grants.missing draftTakes found).2 _ entryTakes
      rw [advance, missing]
      exact ⟨nodes, grants, .robbed found⟩
    | some old =>
      cases old with
      | directory made entries => exact absurd trivial (draftFree _ found)
      | file content written =>
        have moved : CacheFile.entry.name deposit.text ≠ CacheFile.draft.name deposit.text :=
          CacheFile.name_ne_of_ne (by decide)
        obtain ⟨published, renamed, kept⟩ :=
          grants.rename draftTakes entryTakes moved found (clear .entry (by decide))
        rw [← path] at renamed
        have placed : cache.publish deposit.text disk = .ok published := renamed
        rw [advance, placed]
        exact ⟨_, kept, .publish found⟩
  | discard fault =>
    rw [advance, draftPath]
    exact ⟨_, grants_of_discard grants draftTakes draftFree, .discard fault⟩
  | unmark =>
    obtain ⟨nodes', left, kept⟩ := grants_of_dropMarker grants deposit.text
    exact ⟨nodes', left, .unmark kept⟩
  | done outcome => exact ⟨nodes, grants, .done outcome⟩

section

variable {ι : Type}

/-- Whether one of the stores under the digest of a text has come to some stage. -/
def Reached (deposits : ι → Deposit) (phase : ι → StorePhase) (text : String)
    (stage : StorePhase → Prop) : Prop :=
  ∃ i, (deposits i).key = Sha256.hex text ∧ stage (phase i)

/-- Whether two stores under the digest of a text have both written the draft, and neither has moved
it yet. -/
def Crowded (deposits : ι → Deposit) (phase : ι → StorePhase) (text : String) : Prop :=
  ∃ i j, i ≠ j ∧ ((deposits i).key = Sha256.hex text ∧ phase i = .publish) ∧
    (deposits j).key = Sha256.hex text ∧ phase j = .publish

/-- Whether a node is a file with the whole entry of one of the stores under the digest of a text.
-/
def Complete (deposits : ι → Deposit) (text : String) (node : Option Node) : Prop :=
  ∃ i written, (deposits i).key = Sha256.hex text ∧
    node = some (.file (textBytes (deposits i).entry.render) written)

/-- What the stores under the digest of a text have made of its draft and its entry so far. -/
structure Kept (deposits : ι → Deposit) (phase : ι → StorePhase) (nodes : String → Option Node)
    (text : String) : Prop where
  drafted : Reached deposits phase text StorePhase.Drafted →
    Complete deposits text (nodes (CacheFile.draft.name text)) ∨
      nodes (CacheFile.draft.name text) = none ∧
        Complete deposits text (nodes (CacheFile.entry.name text))
  entered : Reached deposits phase text StorePhase.Beyond →
    Complete deposits text (nodes (CacheFile.entry.name text))

/-- Whether each store under the digest of a text that is about to move its draft will find one, and
none has failed. -/
structure Smooth (deposits : ι → Deposit) (phase : ι → StorePhase) (nodes : String → Option Node)
    (text : String) : Prop where
  found : Reached deposits phase text (· = .publish) → nodes (CacheFile.draft.name text) ≠ none
  fails : ¬Reached deposits phase text StorePhase.Fails

/-- Whether some store under the digest of a text has failed or is bound to. -/
def Doomed (deposits : ι → Deposit) (phase : ι → StorePhase) (nodes : String → Option Node)
    (text : String) : Prop :=
  Reached deposits phase text StorePhase.Fails ∨ Crowded deposits phase text ∨
    Reached deposits phase text (· = .publish) ∧ nodes (CacheFile.draft.name text) = none

variable [DecidableEq ι] {deposits : ι → Deposit} {phase : ι → StorePhase}
  {nodes nodes' : String → Option Node} {k : ι} {after : StorePhase} {text : String}

/-- After a call, a store has come to a phase that was reached before, or to that of the call. -/
theorem Reached.before {stage : StorePhase → Prop}
    (reached : Reached deposits (Function.update phase k after) text stage) :
    stage after ∨ Reached deposits phase text stage := by
  obtain ⟨i, key, here⟩ := reached
  -- It is either the store that made the call, or another one that did not move.
  rw [Function.update_apply] at here
  split at here
  · exact .inl here
  · exact .inr ⟨i, key, here⟩

/-- A call of a store says nothing of those under other digests. -/
theorem reached_update_of_ne {stage : StorePhase → Prop}
    (apart : Sha256.hex text ≠ (deposits k).key) :
    Reached deposits (Function.update phase k after) text stage ↔
      Reached deposits phase text stage := by
  unfold Reached
  refine exists_congr fun i => and_congr_right fun key => ?_
  -- A store of this digest is not the one that made the call.
  rw [Function.update_of_ne]
  rintro rfl
  exact apart key.symm

/-- A call leaves a complete entry in the draft or in its place, once one was written. -/
theorem Kept.call (kept : Kept deposits phase nodes text)
    (call : StoreCall (deposits k) nodes (phase k) after nodes') :
    Kept deposits (Function.update phase k after) nodes' text := by
  -- Only a store under the same digest changes these files.
  by_cases same : Sha256.hex text = (deposits k).key
  · have names : ∀ file, CacheFile.name file (deposits k).text = file.name text :=
      CacheFile.name_congr same.symm
    have own : ∀ stage : StorePhase → Prop, stage (phase k) → Reached deposits phase text stage :=
      fun stage here => ⟨k, same.symm, here⟩
    have apart : CacheFile.entry.name text ≠ CacheFile.draft.name text :=
      CacheFile.name_ne_of_ne (by decide)
    obtain ⟨drafted, entered⟩ := kept
    generalize phase k = before at call own
    cases call with
    -- A store that has only begun has come to neither stage, so another one has.
    | ensure =>
      refine ⟨fun reached => drafted (reached.before.resolve_left ?_),
        fun reached => entered (reached.before.resolve_left ?_)⟩
      · simp [StorePhase.Drafted, StorePhase.Beyond]
      · simp [StorePhase.Beyond]
    -- The draft is now that of this store, and the entry is left alone.
    | draft now =>
      rw [names]
      refine ⟨fun _ => .inl ⟨k, now, same.symm, Function.update_self ..⟩, fun reached => ?_⟩
      rw [Function.update_of_ne apart]
      exact entered (reached.before.resolve_left (by simp [StorePhase.Beyond]))
    | publish there =>
      -- What is in the draft was put there by one of the stores.
      rw [names] at there
      have complete := (drafted (own _ (.inl rfl))).resolve_right (by simp [there])
      rw [names, names]
      refine ⟨fun _ => .inr ⟨?_, ?_⟩, fun _ => ?_⟩
      · rw [Function.update_of_ne apart.symm, Function.update_self]
      · rwa [Function.update_self, ← there]
      · rwa [Function.update_self, ← there]
    -- Without a draft, the entry must be in its place already.
    | robbed gone =>
      rw [names] at gone
      have placed := (drafted (own _ (.inl rfl))).resolve_left (by
        rintro ⟨i, written, -, there⟩
        exact absurd (gone.symm.trans there) (by simp))
      exact ⟨fun _ => .inr placed, fun _ => placed.2⟩
    -- Past the move, the entry is in its place, and the draft is not needed.
    | discard fault =>
      have placed := entered (own _ trivial)
      rw [names]
      refine ⟨fun _ => .inr ⟨Function.update_self .., ?_⟩, fun _ => ?_⟩
      · rwa [Function.update_of_ne apart]
      · rwa [Function.update_of_ne apart]
    -- The marker is neither the draft nor the entry.
    | unmark kept =>
      rw [names] at kept
      have draft := kept (CacheFile.draft.name text) (CacheFile.name_ne_of_ne (by decide))
      have entry := kept (CacheFile.entry.name text) (CacheFile.name_ne_of_ne (by decide))
      refine ⟨fun _ => ?_, fun _ => ?_⟩
      · rw [draft, entry]
        exact drafted (own _ (.inr trivial))
      · rw [entry]
        exact entered (own _ trivial)
    | done outcome =>
      exact ⟨fun _ => drafted (own _ (.inr trivial)), fun _ => entered (own _ trivial)⟩
  · -- A store under another digest changes nothing here.
    have elsewhere := call.elsewhere same
    obtain ⟨drafted, entered⟩ := kept
    rw [← elsewhere .draft, ← elsewhere .entry, ← reached_update_of_ne same] at drafted
    rw [← elsewhere .entry, ← reached_update_of_ne same] at entered
    exact ⟨drafted, entered⟩

/-- While no two stores under a digest have both written the draft, each finds its own. -/
theorem Smooth.call (smooth : Smooth deposits phase nodes text)
    (alone : ¬Crowded deposits phase text)
    (call : StoreCall (deposits k) nodes (phase k) after nodes') :
    Smooth deposits (Function.update phase k after) nodes' text := by
  obtain ⟨found, fails⟩ := smooth
  by_cases same : Sha256.hex text = (deposits k).key
  · have names : ∀ file, CacheFile.name file (deposits k).text = file.name text :=
      CacheFile.name_congr same.symm
    have own : ∀ stage : StorePhase → Prop, stage (phase k) → Reached deposits phase text stage :=
      fun stage here => ⟨k, same.symm, here⟩
    -- The store that moves the draft was the only one about to do so.
    have others : phase k = .publish → after ≠ .publish →
        ¬Reached deposits (Function.update phase k after) text (· = .publish) := by
      rintro here gone ⟨i, key, there⟩
      rw [Function.update_apply] at there
      split at there
      · exact gone there
      · next differ => exact alone ⟨i, k, differ, ⟨key, there⟩, same.symm, here⟩
    -- A call that does not fail leaves none that did.
    have healthy : ¬after.Fails →
        ¬Reached deposits (Function.update phase k after) text StorePhase.Fails :=
      fun well failed => fails (failed.before.resolve_left well)
    generalize phase k = before at call own others
    cases call with
    | ensure =>
      exact ⟨fun reached => found (reached.before.resolve_left (by simp)),
        healthy (by simp [StorePhase.Fails])⟩
    | draft now =>
      rw [names]
      exact ⟨fun _ => by simp, healthy (by simp [StorePhase.Fails])⟩
    -- Behind the move nobody looks for a draft.
    | publish _ =>
      exact ⟨fun reached => absurd reached (others rfl (by simp)),
        healthy (by simp [StorePhase.Fails])⟩
    -- This does not happen, as there was a draft to be found.
    | robbed gone =>
      rw [names] at gone
      exact absurd gone (found (own _ rfl))
    | discard fault => exact absurd (own _ trivial) fails
    | unmark kept =>
      rw [names] at kept
      have draft := kept (CacheFile.draft.name text) (CacheFile.name_ne_of_ne (by decide))
      rw [← draft] at found
      exact ⟨fun reached => found (reached.before.resolve_left (by simp)),
        healthy (by simp [StorePhase.Fails])⟩
    | done outcome =>
      exact ⟨fun reached => found (reached.before.resolve_left (by simp)),
        healthy fun failed => fails (own _ failed)⟩
  · rw [← call.elsewhere same, ← reached_update_of_ne same] at found
    rw [← reached_update_of_ne same] at fails
    exact ⟨found, fails⟩

/-- Stores that have come to a stage stay there when another one makes a call. -/
theorem Reached.others {stage : StorePhase → Prop} (reached : Reached deposits phase text stage)
    (passed : ¬stage (phase k)) :
    Reached deposits (Function.update phase k after) text stage := by
  obtain ⟨i, key, here⟩ := reached
  refine ⟨i, key, ?_⟩
  -- The store that made the call was not at the stage.
  rwa [Function.update_of_ne]
  rintro rfl
  exact passed here

/-- Two stores that have both written the draft stay there when another one makes a call. -/
theorem Crowded.others (crowded : Crowded deposits phase text)
    (passed : (deposits k).key = Sha256.hex text → phase k ≠ .publish) :
    Crowded deposits (Function.update phase k after) text := by
  obtain ⟨i, j, differ, ⟨key, here⟩, key', here'⟩ := crowded
  refine ⟨i, j, differ, ⟨key, ?_⟩, key', ?_⟩
  · rwa [Function.update_of_ne]
    rintro rfl
    exact passed key here
  · rwa [Function.update_of_ne]
    rintro rfl
    exact passed key' here'

/-- A store is bound to fail when one makes a call that is neither failing nor about to move the
draft, if this brings back no draft. -/
theorem Doomed.others (doomed : Doomed deposits phase nodes text) (well : ¬(phase k).Fails)
    (passed : phase k ≠ .publish)
    (gone : nodes (CacheFile.draft.name text) = none →
      nodes' (CacheFile.draft.name text) = none) :
    Doomed deposits (Function.update phase k after) nodes' text := by
  -- A failure stays; so do two stores behind their drafts, and one whose draft is gone.
  rcases doomed with failed | crowded | ⟨reached, missing⟩
  · exact .inl (failed.others well)
  · exact .inr (.inl (crowded.others fun _ => passed))
  · exact .inr (.inr ⟨reached.others passed, gone missing⟩)

/-- Once two stores under a digest have both written the draft, one is bound to fail. -/
theorem Doomed.call (doomed : Doomed deposits phase nodes text)
    (call : StoreCall (deposits k) nodes (phase k) after nodes') :
    Doomed deposits (Function.update phase k after) nodes' text := by
  -- Again only a store under the same digest matters.
  by_cases same : Sha256.hex text = (deposits k).key
  · have names : ∀ file, CacheFile.name file (deposits k).text = file.name text :=
      CacheFile.name_congr same.symm
    have now : ∀ stage : StorePhase → Prop, stage after →
        Reached deposits (Function.update phase k after) text stage :=
      fun stage there => ⟨k, same.symm, by rwa [Function.update_self]⟩
    generalize here : phase k = before at call
    cases call with
    | ensure => exact doomed.others (by simp [here, StorePhase.Fails]) (by simp [here]) id
    | draft time =>
      rcases doomed with failed | crowded | ⟨⟨i, key, there⟩, -⟩
      · exact .inl (failed.others (by simp [here, StorePhase.Fails]))
      · exact .inr (.inl (crowded.others fun _ => by simp [here]))
      · -- The draft of a store that had lost its own is taken for it by another one.
        have differ : i ≠ k := by
          rintro rfl
          exact absurd (here.symm.trans there) (by simp)
        exact .inr (.inl ⟨i, k, differ, ⟨key, by rwa [Function.update_of_ne differ]⟩, same.symm,
          Function.update_self ..⟩)
    | publish there =>
      rcases doomed with failed | ⟨i, j, differ, first, second⟩ | ⟨-, gone⟩
      · exact .inl (failed.others (by simp [here, StorePhase.Fails]))
      · -- One of the two is left without a draft.
        refine .inr (.inr ⟨?_, ?_⟩)
        · by_cases mine : i = k
          · refine ⟨j, second.1, ?_⟩
            rw [Function.update_of_ne (mine ▸ differ.symm)]
            exact second.2
          · refine ⟨i, first.1, ?_⟩
            rw [Function.update_of_ne mine]
            exact first.2
        · rw [names, names, Function.update_of_ne, Function.update_self]
          exact CacheFile.name_ne_of_ne (by decide)
      · rw [names] at there
        exact absurd (gone.symm.trans there) (by simp)
    -- This is the failure itself.
    | robbed _ => exact .inl (now _ trivial)
    | discard fault => exact .inl (now _ trivial)
    -- To drop the marker brings back no draft.
    | unmark kept =>
      rw [names] at kept
      refine doomed.others (by simp [here, StorePhase.Fails]) (by simp [here]) fun gone => ?_
      rwa [kept _ (CacheFile.name_ne_of_ne (by decide))]
    | done outcome =>
      cases outcome with
      | ok _ => exact doomed.others (by simp [here, StorePhase.Fails]) (by simp [here]) id
      | error failure => exact .inl (now _ trivial)
  · -- Under another digest, the stores and their draft are as they were.
    rcases doomed with failed | crowded | ⟨reached, gone⟩
    · exact .inl ((reached_update_of_ne same).mpr failed)
    · exact .inr (.inl (crowded.others fun key => absurd key.symm same))
    · rw [← call.elsewhere same] at gone
      exact .inr (.inr ⟨(reached_update_of_ne same).mpr reached, gone⟩)

section

variable {cache : ResultCache} {disk : Disk} {trail : List String}

/-- What each call keeps, of the stores and of the nodes of their directory, is so after all calls.
-/
theorem race_induction {P : List (ι × Int) → (String → Option Node) → Prop}
    (grants : disk.Grants (pathOf cache.directory) trail nodes)
    (takes : ∀ i file, file ≠ CacheFile.marker →
      (pathOf cache.directory).Takes (file.name (deposits i).text))
    (clear : ∀ i, Clear nodes (deposits i).text) (start : P [] nodes)
    (step : ∀ calls i now nodes after nodes',
      (cache.race deposits disk ((i, now) :: calls)).phase =
        Function.update (cache.race deposits disk calls).phase i after →
      StoreCall (deposits i) nodes ((cache.race deposits disk calls).phase i) after nodes' →
      P calls nodes → P ((i, now) :: calls) nodes')
    (calls : List (ι × Int)) :
    ∃ nodes', (cache.race deposits disk calls).disk.Grants (pathOf cache.directory) trail nodes' ∧
      P calls nodes' := by
  -- The induction has to carry that no entry and no draft became a directory.
  have kept : ∃ nodes',
      (cache.race deposits disk calls).disk.Grants (pathOf cache.directory) trail nodes' ∧
        (∀ i, Clear nodes' (deposits i).text) ∧ P calls nodes' := by
    -- The calls that were made before come first, and then the latest one.
    induction calls with
    | nil => exact ⟨nodes, grants, clear, start⟩
    | cons call calls ih =>
      obtain ⟨i, now⟩ := call
      obtain ⟨nodes, grants, clear, before⟩ := ih
      obtain ⟨nodes', grants', call⟩ := storeCall_of_advance grants (takes i) (clear i) now
        ((cache.race deposits disk calls).phase i)
      exact ⟨nodes', grants', fun j => call.clear (clear j), step _ i now _ _ _ rfl call before⟩
  obtain ⟨nodes', grants', -, after⟩ := kept
  exact ⟨nodes', grants', after⟩

end

/-- Whether two stores under the digest of a text have, after some of the calls, both written the
draft without one having moved it. -/
def Crosses (cache : ResultCache) (deposits : ι → Deposit) (disk : Disk) (calls : List (ι × Int))
    (text : String) : Prop :=
  ∃ earlier, earlier <:+ calls ∧ Crowded deposits (cache.race deposits disk earlier).phase text

/-- What there is to the stores under the digest of a text after some calls. -/
structure Course (cache : ResultCache) (deposits : ι → Deposit) (disk : Disk)
    (calls : List (ι × Int)) (nodes : String → Option Node) (text : String) : Prop where
  kept : Kept deposits (cache.race deposits disk calls).phase nodes text
  smooth : ¬Crosses cache deposits disk calls text →
    Smooth deposits (cache.race deposits disk calls).phase nodes text
  doomed : Crosses cache deposits disk calls text →
    Doomed deposits (cache.race deposits disk calls).phase nodes text

section

variable {cache : ResultCache} {disk : Disk} {calls : List (ι × Int)}

/-- At first no store has done anything. -/
theorem course_nil (cache : ResultCache) (deposits : ι → Deposit) (disk : Disk)
    (nodes : String → Option Node) (text : String) :
    Course cache deposits disk [] nodes text := by
  -- Every store is about to begin.
  have none : ∀ stage : StorePhase → Prop, ¬stage .ensure →
      ¬Reached deposits (cache.race deposits disk []).phase text stage := by
    rintro stage later ⟨i, -, here⟩
    exact later here
  have drafted : ¬StorePhase.ensure.Drafted := by simp [StorePhase.Drafted, StorePhase.Beyond]
  refine ⟨⟨fun reached => absurd reached (none _ drafted),
    fun reached => absurd reached (none _ (by simp [StorePhase.Beyond]))⟩,
    fun _ => ⟨fun reached => absurd reached (none _ (by simp)),
      none _ (by simp [StorePhase.Fails])⟩, ?_⟩
  rintro ⟨earlier, before, i, j, -, ⟨-, here⟩, -⟩
  rw [List.suffix_nil.mp before] at here
  cases here

/-- The calls of stores cross once two of them have both written the draft, or did before. -/
theorem crosses_cons {i : ι} {now : Int} : Crosses cache deposits disk ((i, now) :: calls) text ↔
    Crowded deposits (cache.race deposits disk ((i, now) :: calls)).phase text ∨
      Crosses cache deposits disk calls text := by
  constructor
  · rintro ⟨earlier, before, crowded⟩
    -- The time at which they crossed is now or was earlier.
    rcases List.suffix_cons_iff.mp before with rfl | before
    · exact .inl crowded
    · exact .inr ⟨earlier, before, crowded⟩
  · rintro (crowded | ⟨earlier, before, crowded⟩)
    · exact ⟨_, List.suffix_rfl, crowded⟩
    · exact ⟨earlier, before.trans (List.suffix_cons ..), crowded⟩

/-- A call goes on with what there is to the stores. -/
theorem Course.call (course : Course cache deposits disk calls nodes text) {i : ι} {now : Int}
    (onward : (cache.race deposits disk ((i, now) :: calls)).phase =
      Function.update (cache.race deposits disk calls).phase i after)
    (call : StoreCall (deposits i) nodes ((cache.race deposits disk calls).phase i) after nodes') :
    Course cache deposits disk ((i, now) :: calls) nodes' text := by
  obtain ⟨kept, smooth, doomed⟩ := course
  -- Each of the three is carried on by the call of one store.
  refine ⟨?_, fun apart => ?_, fun crosses => ?_⟩
  · rw [onward]
    exact kept.call call
  · -- They had not crossed before the call, either.
    rw [crosses_cons, not_or] at apart
    rw [onward]
    exact (smooth apart.2).call (fun crowded => apart.2 ⟨calls, List.suffix_rfl, crowded⟩) call
  · rcases crosses_cons.mp crosses with crowded | before
    · exact .inr (.inl crowded)
    · rw [onward]
      exact (doomed before).call call

end

/-- Stores in a directory where entries can be put, with their calls in any order: those of a text
all succeed exactly if at no time two of them have both written the draft, which they share, without
one having moved it. Whether or not they do, once all are done the file of each entry has all of an
entry that was stored under its digest. -/
theorem outcomes_of_race (cache : ResultCache) (deposits : ι → Deposit) (disk : Disk)
    (writable : ∀ i, cache.Writable disk (deposits i).text) (calls : List (ι × Int))
    (finished : ∀ i, ∃ outcome, (cache.race deposits disk calls).phase i = .done outcome) :
    (∀ text, (∀ i, (deposits i).key = Sha256.hex text →
        (cache.race deposits disk calls).phase i = .done (.ok ())) ↔
      ¬Crosses cache deposits disk calls text) ∧
    ∀ i, ∃ j, (deposits j).key = (deposits i).key ∧
      (cache.race deposits disk calls).disk.read (cache.entryPath (deposits i).text) =
        .ok (deposits j).entry.render := by
  rcases isEmpty_or_nonempty ι with none | ⟨⟨first⟩⟩
  · -- Without stores there is nothing to show.
    refine ⟨fun text => ⟨?_, fun _ i => none.elim i⟩, fun i => none.elim i⟩
    rintro - ⟨-, -, i, -⟩
    exact none.elim i
  obtain ⟨trail, nodes, grants, -⟩ := (writable first).grants
  -- All of them find the same directory.
  have fit : ∀ i file, file ≠ CacheFile.marker →
      (pathOf cache.directory).Takes (file.name (deposits i).text) ∧
        ∀ old ∈ nodes (file.name (deposits i).text), ¬old.IsDirectory := by
    intro i
    obtain ⟨trail', nodes', grants', fit⟩ := (writable i).grants
    obtain ⟨rfl, rfl⟩ := grants.holds.unique grants'.holds
    exact fit
  obtain ⟨nodes', grants', course⟩ := race_induction
    (P := fun calls nodes => ∀ text, Course cache deposits disk calls nodes text) grants
    (fun i file other => (fit i file other).1) (fun i file other => (fit i file other).2)
    (fun text => course_nil cache deposits disk nodes text)
    (fun _ _ _ _ _ _ onward call before text => (before text).call onward call) calls
  constructor
  · intro text
    constructor
    · -- A store that is bound to fail has not succeeded.
      intro all crosses
      have excluded : ∀ stage : StorePhase → Prop, ¬stage (.done (.ok ())) →
          ¬Reached deposits (cache.race deposits disk calls).phase text stage := by
        rintro stage later ⟨i, key, here⟩
        rw [all i key] at here
        exact later here
      rcases (course text).doomed crosses with failed | ⟨i, -, -, first, -⟩ | ⟨reached, -⟩
      · exact excluded _ (by simp [StorePhase.Fails]) failed
      · exact excluded (· = .publish) (by simp) ⟨i, first⟩
      · exact excluded _ (by simp) reached
    · -- Where none has failed, a store that is done has succeeded.
      intro apart i key
      obtain ⟨outcome, done⟩ := finished i
      have well := ((course text).smooth apart).fails
      cases outcome with
      | ok _ => exact done
      | error failure => exact absurd ⟨i, key, by rw [done]; trivial⟩ well
  · -- The store has come past the move, so that the entry of one of them is in its place.
    intro i
    obtain ⟨outcome, done⟩ := finished i
    obtain ⟨j, written, key, there⟩ := (course (deposits i).text).kept.entered
      ⟨i, rfl, by rw [done]; trivial⟩
    refine ⟨j, key, ?_⟩
    have content := grants'.readBytes (fit i .entry (by decide)).1 there
    rw [CacheFile.entry_name] at content
    exact Disk.read_of_readBytes content

end

/-- Entries can be put into a directory without directories that has room for them. -/
theorem Keeps.writable {cache : ResultCache} {disk : Disk} {trail : List String}
    {nodes : String → Option Node} (keeps : cache.Keeps disk trail nodes) (text : String) :
    cache.Writable disk text := by
  -- There are only files under the names of the directory.
  have noDirectory : ∀ file : CacheFile,
      disk.isDirectory (cache.pathTo (file.name text)) = false := by
    intro file
    have said := keeps.grants.stat (keeps.takes file text)
    rw [Disk.isDirectory, pathTo, said]
    cases here : nodes (file.name text) with
    | none => rfl
    | some old =>
      cases old with
      | directory made entries => exact absurd trivial (keeps.only _ _ here)
      | file content written => rfl
  refine ⟨?_, (keeps.takes .draft text).fits, noDirectory .draft, ?_, keeps.grants.spare⟩
  · obtain ⟨made, entries, located, -⟩ := keeps.grants.holds
    rw [Disk.isDirectory, Disk.stat, keeps.grants.allow_self, Disk.find, located]
    rfl
  · have entry := noDirectory .entry
    rwa [CacheFile.entry_name] at entry

/-- A disk with an empty directory. -/
def bareDisk : Disk :=
  { root := .directory 0 ⟨[("c", .directory 0 .empty)]⟩ }

/-- A cache in the empty directory. -/
def bareCache : ResultCache :=
  ⟨"/c", .ofSeconds 1⟩

/-- Two entries for one text. -/
def rivals (second : Bool) : Deposit :=
  ⟨"a", ⟨[], [], 0, if second then 2 else 1, none, true, 0⟩⟩

/-- Either entry can be put into the empty directory. -/
theorem writable_rivals (second : Bool) : bareCache.Writable bareDisk (rivals second).text := by
  -- The directory is empty and below the root, and nothing is in the way.
  have keeps : bareCache.Keeps bareDisk ["c"] fun _ => none :=
    ⟨⟨⟨0, .empty, rfl, rfl⟩, Hindrances.spare_free _⟩, nofun, by decide⟩
  exact keeps.writable _

/-- Calls of two stores that take turns: the second one writes the draft as soon as the first one
has moved it, and before the first one drops the marker. -/
def turns : List (Bool × Int) :=
  [(true, 8), (false, 7), (true, 6), (true, 5), (false, 4), (true, 3), (false, 2), (false, 1)]

/-- Two stores of one text that take turns are both done, and leave one of their entries. -/
theorem outcomes_of_race_of_turns :
    (∀ second, bareCache.Writable bareDisk (rivals second).text) ∧
      (∀ second, (bareCache.race rivals bareDisk turns).phase second = .done (.ok ())) ∧
      ¬Crosses bareCache rivals bareDisk turns "a" ∧
      ∃ second, (bareCache.race rivals bareDisk turns).disk.read (bareCache.entryPath "a") =
        .ok (rivals second).entry.render := by
  -- The calls are played through, and the rest is told by the outcomes of any race.
  have done : ∀ second, (bareCache.race rivals bareDisk turns).phase second = .done (.ok ()) := by
    decide +kernel
  obtain ⟨all, complete⟩ :=
    outcomes_of_race bareCache rivals bareDisk writable_rivals turns fun second => ⟨_, done second⟩
  obtain ⟨second, -, there⟩ := complete false
  exact ⟨writable_rivals, done, (all "a").mp fun second _ => done second, second, there⟩

/-- Of two stores of one text that have both written the draft the second one finds none to move: it
fails, although nothing was in its way. -/
theorem fails_of_crossing :
    (∀ second, bareCache.Writable bareDisk (rivals second).text) ∧
      (bareCache.race rivals bareDisk [(true, 8), (false, 7), (true, 6), (false, 5), (true, 4),
        (false, 3), (true, 2), (false, 1)]).phase true =
          .done (.error (.cache "No such file or directory (os error 2)")) :=
  ⟨writable_rivals, by decide +kernel⟩

end ResultCache

end Querent
