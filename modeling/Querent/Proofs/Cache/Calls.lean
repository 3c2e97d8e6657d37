import Querent.Cache.Store

/-! Calls to a cache, each with its answer, and what the answers should be by the calls before. -/

namespace Querent

/-- A call to a cache about a text, at some time. -/
inductive CacheCall
  | store (now : Int) (text : String) (entry : CacheEntry)
  | lookup (now : Int) (text : String)

/-- What a cache gives back to a call that does not fail. -/
inductive CacheAnswer
  | stored
  | found (lookup : Lookup)

/-- A call with what it got for an answer. -/
structure Exchange where
  call : CacheCall
  answer : Except Failure CacheAnswer

namespace CacheCall

/-- The text that a call is about. -/
def text : CacheCall → String
  | store _ text _ => text
  | lookup _ text => text

/-- The entry that a call stores. -/
def entry? : CacheCall → Option CacheEntry
  | store _ _ entry => some entry
  | lookup _ _ => none

end CacheCall

namespace ResultCache

/-- A call is made on a disk. -/
def serve (cache : ResultCache) (disk : Disk) : CacheCall → Except Failure CacheAnswer × Disk
  | .store now text entry =>
    let done := cache.store now text entry disk
    (done.1.map fun _ => .stored, done.2)
  | .lookup now text =>
    let found := cache.lookup now text disk
    (found.1.map .found, found.2)

/-- Calls are made one after another on a disk; the latest is the first of the list, and of the
exchanges. -/
def play (cache : ResultCache) (disk : Disk) : List CacheCall → List Exchange × Disk
  | [] => ([], disk)
  | call :: earlier =>
    let before := cache.play disk earlier
    let served := cache.serve before.2 call
    (⟨call, served.1⟩ :: before.1, served.2)

/-- The latest call is made on the disk that the others left. -/
theorem play_cons (cache : ResultCache) (disk : Disk) (call : CacheCall)
    (earlier : List CacheCall) :
    (cache.play disk (call :: earlier)).1 =
      ⟨call, (cache.serve (cache.play disk earlier).2 call).1⟩ :: (cache.play disk earlier).1 :=
  rfl

end ResultCache

namespace Exchange

/-- The entry that an exchange stored under a text, and when. -/
def stored? (text : String) (exchange : Exchange) : Option (CacheEntry × Int) :=
  match exchange.call with
  | .store now other entry => if other = text then some (entry, now) else none
  | .lookup _ _ => none

/-- When an exchange gave a text out for renewal. -/
def refreshed? (text : String) (exchange : Exchange) : Option Int :=
  match exchange.call, exchange.answer with
  | .lookup now other, .ok (.found .refresh) => if other = text then some now else none
  | _, _ => none

/-- The latest entry of a text, and when it was stored. -/
def latestStore? (text : String) (past : List Exchange) : Option (CacheEntry × Int) :=
  past.findSome? (stored? text)

/-- When a text was given out for renewal the last time since its latest entry was stored. -/
def latestRefresh? (text : String) (past : List Exchange) : Option Int :=
  (past.takeWhile fun exchange => (exchange.stored? text).isNone).findSome? (refreshed? text)

/-- Whether a text was given out for renewal in the minute before a time, and not stored since. -/
def isUnderway (past : List Exchange) (text : String) (now : Int) : Bool :=
  (latestRefresh? text past).any fun refreshed => now - refreshed < 60 * nanosPerSecond

/-- What is to be found under a text at some time: its latest entry as long as this is fresh or a
renewal is under way, and else the order to renew it. -/
def awaited (ttl : Duration) (past : List Exchange) (text : String) (now : Int) : Lookup :=
  match latestStore? text past with
  | none => .miss
  | some (entry, stored) =>
    if now - stored ≤ ttl.toNanos ∨ isUnderway past text now then .hit entry else .refresh

/-- What a call is to get for an answer. -/
def answerTo (ttl : Duration) (past : List Exchange) : CacheCall → CacheAnswer
  | .store _ _ _ => .stored
  | .lookup now text => .found (awaited ttl past text now)

/-- Whether each call got the answer that the calls before it ask for. -/
def Explained (ttl : Duration) : List Exchange → Prop
  | [] => True
  | exchange :: past => exchange.answer = .ok (answerTo ttl past exchange.call) ∧ Explained ttl past

variable {ttl : Duration} {text : String} {exchange : Exchange} {past : List Exchange}

/-- An exchange without a store of a text leaves its latest entry. -/
theorem latestStore?_cons (kept : exchange.stored? text = none) :
    latestStore? text (exchange :: past) = latestStore? text past := by
  rw [latestStore?, List.findSome?_cons, kept]
  rfl

/-- An exchange without a store of a text is its latest renewal or leaves the one before. -/
theorem latestRefresh?_cons (kept : exchange.stored? text = none) :
    latestRefresh? text (exchange :: past) =
      (exchange.refreshed? text).or (latestRefresh? text past) := by
  -- The exchange ends no run of renewals, so that it is the first to be asked for one.
  rw [latestRefresh?, List.takeWhile_cons, kept]
  dsimp only [Option.isNone]
  rw [if_pos rfl, List.findSome?_cons]
  cases exchange.refreshed? text <;> rfl

/-- An exchange about another text neither stores a text nor gives it out for renewal. -/
theorem other_text (other : exchange.call.text ≠ text) :
    exchange.stored? text = none ∧ exchange.refreshed? text = none := by
  obtain ⟨call, answer⟩ := exchange
  -- A store never gives out for renewal, and a lookup never stores.
  cases call with
  | store now given entry => exact ⟨if_neg other, rfl⟩
  | lookup now given =>
    refine ⟨rfl, ?_⟩
    unfold refreshed?
    -- Only a lookup that found a renewal is one, and this one is of the other text.
    split
    · next same _ =>
      cases same
      exact if_neg other
    · rfl

/-- A store is the latest of its text, and of no other. -/
theorem latestStore?_store (now : Int) (given : String) (entry : CacheEntry)
    (answer : Except Failure CacheAnswer) :
    latestStore? text (⟨.store now given entry, answer⟩ :: past) =
      if given = text then some (entry, now) else latestStore? text past := by
  split
  · -- The search for a store ends with this one.
    next same =>
    have here : stored? text ⟨.store now given entry, answer⟩ = some (entry, now) := if_pos same
    rw [latestStore?, List.findSome?_cons, here]
  · next other =>
    have differs : (⟨.store now given entry, answer⟩ : Exchange).call.text ≠ text := other
    exact latestStore?_cons (other_text differs).1

/-- Behind a store of a text there is no renewal of it, and those of other texts stay. -/
theorem latestRefresh?_store (now : Int) (given : String) (entry : CacheEntry)
    (answer : Except Failure CacheAnswer) :
    latestRefresh? text (⟨.store now given entry, answer⟩ :: past) =
      if given = text then none else latestRefresh? text past := by
  split
  · -- Renewals are only counted since the latest store, and here nothing is since.
    next same =>
    have here : stored? text ⟨.store now given entry, answer⟩ = some (entry, now) := if_pos same
    rw [latestRefresh?, List.takeWhile_cons, here]
    rfl
  · next other =>
    have differs : (⟨.store now given entry, answer⟩ : Exchange).call.text ≠ text := other
    obtain ⟨kept, idle⟩ := other_text differs
    rw [latestRefresh?_cons kept, idle, Option.none_or]

/-- A renewal is the latest of its text, and of no other. -/
theorem latestRefresh?_refresh (now : Int) (given : String) :
    latestRefresh? text (⟨.lookup now given, .ok (.found .refresh)⟩ :: past) =
      if given = text then some now else latestRefresh? text past := by
  have kept : stored? text ⟨.lookup now given, .ok (.found .refresh)⟩ = none := rfl
  have here : refreshed? text ⟨.lookup now given, .ok (.found .refresh)⟩ =
      if given = text then some now else none := rfl
  rw [latestRefresh?_cons kept, here]
  split <;> rfl

/-- Whether an exchange is about a text. -/
def about (text : String) (exchange : Exchange) : Bool :=
  exchange.call.text = text

/-- The latest entry of a text is told by the exchanges about it. -/
theorem latestStore?_filter (text : String) (past : List Exchange) :
    latestStore? text (past.filter (about text)) = latestStore? text past := by
  -- An exchange about another text is passed over by the search as by the filter.
  induction past with
  | nil => rfl
  | cons exchange past ih =>
    by_cases same : exchange.call.text = text
    · rw [List.filter_cons_of_pos (by simpa [about] using same), latestStore?, List.findSome?_cons,
        latestStore?, List.findSome?_cons]
      cases exchange.stored? text with
      | none => exact ih
      | some entry => rfl
    · rw [List.filter_cons_of_neg (by simpa [about] using same), ih,
        latestStore?_cons (other_text same).1]

/-- The latest renewal of a text is told by the exchanges about it. -/
theorem latestRefresh?_filter (text : String) (past : List Exchange) :
    latestRefresh? text (past.filter (about text)) = latestRefresh? text past := by
  induction past with
  | nil => rfl
  | cons exchange past ih =>
    by_cases same : exchange.call.text = text
    · rw [List.filter_cons_of_pos (by simpa [about] using same)]
      -- A store of the text ends the run in which renewals are looked for, on both sides.
      cases stored : exchange.stored? text with
      | none => rw [latestRefresh?_cons stored, latestRefresh?_cons stored, ih]
      | some entry => simp [latestRefresh?, stored]
    · obtain ⟨kept, idle⟩ := other_text same
      rw [List.filter_cons_of_neg (by simpa [about] using same), ih, latestRefresh?_cons kept, idle,
        Option.none_or]

/-- What is to be found under a text is told by the exchanges about it. -/
theorem awaited_filter (ttl : Duration) (past : List Exchange) (text : String) (now : Int) :
    awaited ttl (past.filter (about text)) text now = awaited ttl past text now := by
  unfold awaited isUnderway
  rw [latestStore?_filter, latestRefresh?_filter]

/-- What a call is to get is told by the exchanges about its text. -/
theorem answerTo_filter (ttl : Duration) (past : List Exchange) (call : CacheCall) :
    answerTo ttl (past.filter (about call.text)) call = answerTo ttl past call := by
  cases call with
  | store now text entry => rfl
  | lookup now text => exact congrArg CacheAnswer.found (awaited_filter ttl past text now)

/-- A text is given out for renewal a minute after the latest renewal at the earliest. -/
theorem minute_of_awaited {now latest : Int} (given : awaited ttl past text now = .refresh)
    (renewal : latestRefresh? text past = some latest) :
    latest + 60 * nanosPerSecond ≤ now := by
  unfold awaited at given
  -- An order to renew is only given behind an entry, where no renewal is under way.
  split at given
  · cases given
  · split at given
    · cases given
    · next old =>
      have idle := (not_or.mp old).2
      rw [isUnderway, renewal, Option.any_some, decide_eq_true_iff] at idle
      omega

/-- An exchange that gives a text out for renewal does not store it. -/
theorem stored?_of_refreshed {now : Int} (given : exchange.refreshed? text = some now) :
    exchange.stored? text = none := by
  unfold refreshed? at given
  split at given
  · next asked _ =>
    unfold stored?
    rw [asked]
  · cases given

/-- An exchange that gives a text out for renewal asked for it. -/
theorem awaited_of_refreshed {now : Int}
    (explained : exchange.answer = .ok (answerTo ttl past exchange.call))
    (given : exchange.refreshed? text = some now) : awaited ttl past text now = .refresh := by
  unfold refreshed? at given
  split at given
  · -- The answer is the one that was asked for, and it was an order to renew.
    next time other asked answered =>
    split at given
    · next same =>
      subst same
      obtain rfl := Option.some.inj given
      rw [answered, asked] at explained
      exact (CacheAnswer.found.inj (Except.ok.inj explained)).symm
    · cases given
  · cases given

/-- What is explained was so at any time. -/
theorem Explained.of_append {later : List Exchange} (explained : Explained ttl (later ++ past)) :
    Explained ttl past := by
  induction later with
  | nil => exact explained
  | cons exchange later ih => exact ih explained.2

/-- Until a text is stored again, its latest renewal is no earlier than any before. -/
theorem le_latestRefresh? {between : List Exchange} {first : Exchange} {now : Int}
    (explained : Explained ttl (between ++ first :: past))
    (given : first.refreshed? text = some now)
    (kept : ∀ exchange ∈ between, exchange.stored? text = none) :
    ∃ latest, latestRefresh? text (between ++ first :: past) = some latest ∧ now ≤ latest := by
  -- Each renewal in between is later than the ones before it, and none of them was undone.
  induction between with
  | nil =>
    refine ⟨now, ?_, Int.le_refl now⟩
    rw [List.nil_append, latestRefresh?_cons (stored?_of_refreshed given), given]
    rfl
  | cons exchange between ih =>
    obtain ⟨answered, before⟩ := explained
    obtain ⟨latest, renewal, ordered⟩ := ih before fun x mem => kept x (List.mem_cons_of_mem _ mem)
    rw [List.cons_append, latestRefresh?_cons (kept exchange List.mem_cons_self)]
    cases again : exchange.refreshed? text with
    | none => exact ⟨latest, renewal, ordered⟩
    | some time =>
      -- Another renewal was a minute after that one.
      have minute := minute_of_awaited (awaited_of_refreshed answered again) renewal
      exact ⟨time, rfl, by omega⟩

/-- Two renewals of a text are a minute apart if it is not stored between them. -/
theorem minute_of_explained {between : List Exchange} {first second : Exchange}
    {earlier later : Int}
    (explained : Explained ttl (second :: (between ++ first :: past)))
    (given : first.refreshed? text = some earlier) (again : second.refreshed? text = some later)
    (kept : ∀ exchange ∈ between, exchange.stored? text = none) :
    earlier + 60 * nanosPerSecond ≤ later := by
  obtain ⟨answered, before⟩ := explained
  obtain ⟨latest, renewal, ordered⟩ := le_latestRefresh? before given kept
  -- The second renewal is a minute behind the latest one, which is no earlier than the first.
  have minute := minute_of_awaited (awaited_of_refreshed answered again) renewal
  omega

end Exchange

end Querent
