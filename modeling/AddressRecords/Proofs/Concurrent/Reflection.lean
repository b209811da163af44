import AddressRecords.Proofs.Concurrent.Order
import AddressRecords.Proofs.Remote.Lone

/-!
No change that succeeded is lost. Whenever no operation on a key is under way its remembered
records are those of the remote, and a listing that starts after a change has succeeded reflects
it.
-/

namespace AddressRecords.Interleaving

variable {σ : Type} {remote : Remote σ} {run : Interleaving σ} {time given index other : Nat}
  {operation second : Operation} {answer reply : Answer} {change : Change}

/-! The moment of a change. -/

/-- An answer is true in the turn in which it is given, and nothing else happens in that turn. -/
theorem Answered.tells (h : run.Answered time index operation answer)
    (passes : run.Passes remote time) :
    (∀ other, other ≠ index → run.job? (time + 1) other = run.job? time other) ∧
    (∀ key id address?, operation.tells? answer key id = some address? →
      remote.Shows (run.holdings remote (time + 1)) key id address?) := by
  cases passes with
  | calm jobs => exact absurd ((jobs index operation answer).mp h.entering) h.not_entering
  | gives other second reply answered others tells =>
    by_cases own : index = other
    · subst own
      have same := answered.entering
      rw [h.entering] at same
      cases same
      exact ⟨others, tells⟩
    · exact absurd ((others index own).symm.trans h.entering) h.not_entering
  | enters other second reply _ entering _ others =>
    by_cases own : index = other
    · subst own
      exact absurd entering h.not_entering
    · exact absurd ((others index own).symm.trans h.entering) h.not_entering

/-- One turn makes one change. -/
theorem Applied.index_eq (passes : run.Passes remote time) {newer : Change}
    (one : run.Applied time index change) (two : run.Applied time other newer) : other = index := by
  obtain ⟨_, _, first, _⟩ := one
  obtain ⟨_, _, again, _⟩ := two
  by_contra apart
  have same := (first.tells passes).1 other apart
  exact again.not_entering (same.symm.trans again.entering)

/-- Until the record is changed again, the remote shows the change. -/
theorem Applied.shows (passes : ∀ time, run.Passes remote time)
    (applied : run.Applied given index change) (after : given + 1 ≤ time)
    (latest : ∀ moment second newer, given < moment → moment < time →
      run.Applied moment second newer → ¬ (newer.key = change.key ∧ newer.id = change.id)) :
    remote.Shows (run.holdings remote time) change.key change.id change.address? := by
  induction time, after using Nat.le_induction with
  | base =>
    obtain ⟨operation, answer, answered, made⟩ := applied
    refine (answered.tells (passes given)).2 change.key change.id change.address? ?_
    rw [Operation.tells?_of_change made, if_pos ⟨rfl, rfl⟩]
  | succ time after ih =>
    have before := ih fun moment second newer since within =>
      latest moment second newer since (Nat.lt_succ_of_lt within)
    cases passes time with
    | calm _ _ holdings => exact holdings ▸ before
    | enters _ _ _ _ _ _ _ _ holdings => exact holdings ▸ before
    | gives other second reply answered _ _ keeps _ =>
      refine keeps change.key change.id change.address? ?_ before
      intro newer made
      exact latest time other newer after (Nat.lt_succ_self time) ⟨second, reply, answered, made⟩

/-! The moment at which it is entered. -/

/-- An answer is on its way until it is entered. -/
theorem Pending.stays_or_entered (passes : ∀ time, run.Passes remote time)
    (pending : run.Pending time given index operation answer) {later : Nat}
    (after : time ≤ later) : run.Pending later given index operation answer ∨
    ∃ moment < later, run.Pending moment given index operation answer ∧
      run.turns[moment]? = some (.step index) := by
  induction later, after using Nat.le_induction with
  | base => exact .inl pending
  | succ later _ ih =>
    rcases ih with still | ⟨moment, before, rest⟩
    · cases passes later with
      | calm jobs =>
        exact .inl (still.succ ((jobs index operation answer).mpr still.job?))
      | gives other second _ answered others =>
        have apart : index ≠ other := by
          rintro rfl
          exact answered.not_entering still.job?
        exact .inl (still.succ ((others index apart).trans still.job?))
      | enters other _ _ turn _ _ others =>
        by_cases own : index = other
        · exact .inr ⟨later, Nat.lt_succ_self later, still, own ▸ turn⟩
        · exact .inl (still.succ ((others index own).trans still.job?))
    · exact .inr ⟨moment, Nat.lt_succ_of_lt before, rest⟩

/-- Once a change is entered, no earlier answer about its record is on its way. -/
theorem Answered.not_tells_of_entered (h : run.Answered given index operation answer)
    (passes : ∀ time, run.Passes remote time) (ordered : run.InOrder)
    (made : operation.change? answer = some change) (after : given < time)
    (entered : run.job? time index ≠ some ⟨operation, .entering answer⟩) {earlier : Nat}
    (pending : run.Pending time earlier other second reply)
    (told : second.tells? reply change.key change.id ≠ none) : ¬ earlier < given := by
  intro before
  rcases (Pending.of_answered h).stays_or_entered passes after with
    still | ⟨moment, within, came, turn⟩
  · exact entered still.job?
  · have already := pending.mono (Nat.lt_trans before came.before) (Nat.le_of_lt within)
    exact ordered moment index turn given operation answer change came made earlier other second
      reply already told before

/-! Listings. -/

/-- What a listing gives was remembered or shown while it was under way. -/
theorem exists_listed (moves : ∀ time, run.Moves remote time) {key : RecordKey}
    {records : RecordMap} (absent : run.job? time index = none) {later : Nat}
    (listed : run.job? later index = some ⟨.list key, .done (.ok (.records records))⟩) :
    ∃ moment, time ≤ moment ∧ moment ≤ later ∧
      ((run.records moment).get key = some records ∨
        ∀ id, remote.Shows (run.holdings remote moment) key id (records.find? id)) := by
  obtain ⟨origin, before, _, _, held, _, unanswered, answered, advances⟩ :=
    exists_origin moves listed rfl
  have started : time ≤ origin := by
    by_contra early
    obtain ⟨_, there⟩ := exists_stage moves held (Nat.le_of_not_le early)
    rw [absent] at there
    cases there
  rcases advances.listed unanswered answered with warm | shown
  · exact ⟨origin, started, Nat.le_of_lt before, .inl warm⟩
  · exact ⟨origin + 1, Nat.le_succ_of_le started, before, .inr shown⟩

/-- A change that succeeded was made in some turn. -/
theorem exists_answered (moves : ∀ time, run.Moves remote time)
    (found : run.job? time index = some ⟨operation, .done (.ok answer)⟩)
    (made : operation.change? answer = some change) :
    ∃ given < time, run.Answered given index operation answer := by
  obtain ⟨origin, before, _, _, held, reached, unanswered, answered, advances⟩ :=
    exists_origin moves found rfl
  obtain ⟨⟨zone, rfl⟩, rfl⟩ := advances.changed unanswered answered made
  exact ⟨origin, before, ⟨zone, held⟩, reached⟩

/-- What concurrent operations keep of each other's changes. -/
structure Reflects (run : Interleaving σ) (remote : Remote σ) : Prop where
  /-- While no operation on a key is under way, a warm entry is what the owner's zone holds. -/
  mirrors : ∀ time key,
    (∀ index job, run.job? time index = some job → job.operation.key? = some key →
      job.stage.isDone) →
    ∀ records, (run.records time).get key = some records →
      ∃ zone, remote.owner? key.domain = some zone ∧
        (run.holdings remote time).Mirrors zone key records
  /-- A listing that starts after a change has succeeded reflects it, unless the record was changed
  again in the meantime. -/
  lists : ∀ time index operation answer change,
    run.job? time index = some ⟨operation, .done (.ok answer)⟩ →
    operation.change? answer = some change →
    ∃ given < time, run.Applied given index change ∧
      ∀ other later records, run.job? time other = none →
        run.job? later other = some ⟨.list change.key, .done (.ok (.records records))⟩ →
        records.find? change.id = change.address? ∨
        ∃ moment second newer, given < moment ∧ moment < later ∧
          run.Applied moment second newer ∧ newer.key = change.key ∧ newer.id = change.id

/-- A warm entry shows every change that has succeeded. -/
theorem Answered.find?_of_warm (h : run.Answered given index operation answer)
    (passes : ∀ time, run.Passes remote time) (ordered : run.InOrder)
    (made : operation.change? answer = some change) (after : given < time)
    (entered : run.job? time index ≠ some ⟨operation, .entering answer⟩)
    (latest : ∀ moment second newer, given < moment → moment < time →
      run.Applied moment second newer → ¬ (newer.key = change.key ∧ newer.id = change.id))
    {records : RecordMap} (warm : (run.records time).get change.key = some records) :
    records.find? change.id = change.address? := by
  have applied : run.Applied given index change := ⟨operation, answer, h, made⟩
  refine Remote.Shows.unique ?_ (applied.shows passes after latest)
  refine (truthful ordered passes time).entries change.key records warm change.id ?_
  rintro moment other ⟨second, reply, newer, pending, changed, about⟩
  rcases Nat.lt_trichotomy moment given with early | rfl | late
  · have told : second.tells? reply change.key change.id ≠ none := by
      rw [Operation.tells?_of_change changed, if_pos about]
      exact Option.some_ne_none _
    exact h.not_tells_of_entered passes ordered made after entered pending told early
  · -- One turn makes one change, and this one has been entered.
    obtain rfl := applied.index_eq (passes moment) (pending.applied changed)
    have same := pending.answered.entering
    rw [h.entering] at same
    cases same
    exact entered pending.job?
  · exact latest moment other newer late pending.before (pending.applied changed) about

/-- No change that succeeded is lost as long as changes are entered in order. -/
theorem reflects_of_inOrder (faithful : Faithful run.handle remote)
    (names : run.NamesHeld remote) (ordered : run.InOrder) : run.Reflects remote := by
  have moves := moves faithful names
  have passes (time : Nat) := (moves time).passes
  constructor
  case mirrors =>
    intro time key idle records warm
    refine (Remote.exists_mirrors_iff records).mpr fun id => ?_
    refine (truthful ordered passes time).entries key records warm id ?_
    rintro moment index ⟨operation, answer, change, pending, made, rfl, _⟩
    have finished := idle index _ pending.job? (Operation.key?_of_change made)
    cases finished
  case lists =>
    intro time index operation answer change found made
    obtain ⟨given, before, answered⟩ := exists_answered moves found made
    have applied : run.Applied given index change := ⟨operation, answer, answered, made⟩
    refine ⟨given, before, applied, ?_⟩
    intro other later records absent listed
    by_contra lost
    obtain ⟨stale, unchanged⟩ := not_or.mp lost
    obtain ⟨moment, started, ended, read⟩ := exists_listed moves absent listed
    have after : given < moment := Nat.lt_of_lt_of_le before started
    have latest (turn second : Nat) (newer : Change) (since : given < turn) (within : turn < moment)
        (again : run.Applied turn second newer) :
        ¬ (newer.key = change.key ∧ newer.id = change.id) := fun about =>
      unchanged ⟨turn, second, newer, since, Nat.lt_of_lt_of_le within ended, again, about⟩
    apply stale
    rcases read with warm | shown
    · have finished := job?_of_done moves found started
      refine answered.find?_of_warm passes ordered made after ?_ latest warm
      rw [finished]
      exact fun same => nomatch same
    · exact (shown change.id).unique (applied.shows passes after latest)

/-! Runs that can be told to be in order. -/

/-- Operations of which no two on one key are ever under way enter their changes in order. -/
theorem inOrder_of_apart (apart : run.Apart) : run.InOrder := by
  intro time index _ given operation answer change pending made earlier other second reply spoken
    told before
  obtain ⟨address?, told⟩ := Option.ne_none_iff_exists'.mp told
  have key := Operation.key?_of_change made
  have same : operation.key? = second.key? := key.trans (Operation.key?_of_tells told).symm
  have keyed : operation.key? ≠ none := by
    rw [key]
    exact Option.some_ne_none _
  obtain rfl := apart time index other _ _ pending.job? spoken.job? rfl rfl keyed same
  exact Nat.ne_of_lt before (spoken.unique pending)

/-- The job whose turn it is. -/
def next? (run : Interleaving σ) (time : Nat) : Option (Nat × Job) :=
  match run.turns[time]? with
  | some (.step index) => (run.job? time index).map (index, ·)
  | _ => none

/-- Whether the turn enters no change, or all other answers have been entered. -/
def isClear (run : Interleaving σ) (time : Nat) : Bool :=
  (run.next? time).all fun (index, job) =>
    match job.stage with
    | .entering answer => (job.operation.change? answer).isNone ||
      (List.range (run.reached time).1.length).all fun other =>
        other = index || (run.job? time other).all fun second => !second.stage.isEntering
    | _ => true

theorem next?_of_step (turn : run.turns[time]? = some (.step index)) {job : Job}
    (found : run.job? time index = some job) : run.next? time = some (index, job) := by
  simp [next?, turn, found]

theorem inOrder_of_isClear (clear : (List.range run.turns.length).all run.isClear) :
    run.InOrder := by
  intro time index turn given operation answer change pending made earlier other second reply
    spoken _ before
  have inside := (List.getElem?_eq_some_iff.mp turn).1
  have now := List.all_eq_true.mp clear time (List.mem_range.mpr inside)
  have there := (List.getElem?_eq_some_iff.mp spoken.job?).1
  rw [isClear, next?_of_step turn pending.job?] at now
  simp only [Option.all_some, made, Option.isNone_some, Bool.false_or, List.all_eq_true,
    List.mem_range] at now
  have alone := now other there
  simp only [spoken.job?, Option.all_some, Stage.isEntering, Bool.not_true, Bool.or_false,
    decide_eq_true_eq] at alone
  subst alone
  exact Nat.ne_of_lt before (spoken.unique pending)

end AddressRecords.Interleaving

namespace AddressRecords.Lone

theorem owner?_key : remote.owner? key.domain = some zone := by decide +kernel

theorem content?_key {run : Interleaving Phase} {time : Nat} {content : String}
    (held : content? (run.reached time).2.2.2 = some content) :
    (run.holdings remote time).content? zone key id = some content := by
  apply Holdings.content?_of_find
  have stored := find?_holdings (run.reached time).2.2.2 zone id
  rwa [if_pos ⟨rfl, rfl⟩, held] at stored

/-- The lone record may be named once it is there. -/
theorem namesHeld (run : Interleaving Phase) (since : Nat)
    (there : (content? (run.reached since).2.2.2).isSome)
    (own : (List.range run.turns.length).all fun time => (run.next? time).all fun (_, job) =>
      job.operation.target?.all fun target => target = (key, id) && since ≤ time) :
    run.NamesHeld remote := by
  intro time index operation place turn asking other identifier target
  have inside := (List.getElem?_eq_some_iff.mp turn).1
  have now := List.all_eq_true.mp own time (List.mem_range.mpr inside)
  rw [Interleaving.next?_of_step turn asking] at now
  simp only [Option.all_some, target, Bool.and_eq_true, decide_eq_true_eq, Prod.mk.injEq] at now
  obtain ⟨⟨rfl, rfl⟩, within⟩ := now
  obtain ⟨content, held⟩ := Option.isSome_iff_exists.mp there
  refine ⟨since, within, zone, owner?_key, ?_⟩
  rw [content?_key held]
  exact Option.some_ne_none content

/-- A change crosses a listing, and another listing a change. -/
def crossing : Interleaving Phase where
  handle := handle
  start := .fresh
  turns := [.start (.list key), .step 0, .step 0, .start opening, .step 1, .step 1, .step 0, .step 1,
    .step 0, .step 1, .start (.update key id second), .step 2, .step 2, .step 2, .start (.list key),
    .step 3, .step 2]

theorem reflects_crossing : Faithful crossing.handle remote ∧ crossing.NamesHeld remote ∧
    crossing.InOrder ∧ crossing.Reflects remote := by
  have names : crossing.NamesHeld remote := namesHeld crossing 8 (by decide +kernel)
    (by decide +kernel)
  have ordered : crossing.InOrder := Interleaving.inOrder_of_isClear (by decide +kernel)
  exact ⟨faithful, names, ordered, Interleaving.reflects_of_inOrder faithful names ordered⟩

/-- A record is created between the answer to a listing and its entry. -/
def overtaken : Interleaving Phase where
  handle := handle
  start := .fresh
  turns := [.start (.list key), .step 0, .step 0, .step 0, .start opening, .step 1, .step 1, .step 1,
    .step 1, .step 0]

/-- Once all is over the entry is empty, and the remote has the record. -/
theorem not_reflects_overtaken : Faithful overtaken.handle remote ∧ overtaken.NamesHeld remote ∧
    (∀ index job, overtaken.job? 10 index = some job → job.stage.isDone) ∧
    ∃ records, (overtaken.records 10).get key = some records ∧
      ¬ ∃ zone, remote.owner? key.domain = some zone ∧
        (overtaken.holdings remote 10).Mirrors zone key records := by
  have names : overtaken.NamesHeld remote := namesHeld overtaken 8 (by decide +kernel)
    (by decide +kernel)
  have ended : ((overtaken.reached 10).1.all (·.stage.isDone) &&
      ((overtaken.records 10).get key).any (·.find? id = none) &&
      (overtaken.reached 10).2.2.2 = .created) = true := by decide +kernel
  simp only [Bool.and_eq_true, decide_eq_true_eq] at ended
  obtain ⟨⟨finished, warm⟩, created⟩ := ended
  obtain ⟨records, held, empty⟩ := (Option.any_eq_true ..).mp warm
  refine ⟨faithful, names, ?_, records, held, ?_⟩
  · intro index job found
    exact List.all_eq_true.mp finished job (List.mem_of_getElem? found)
  · rintro ⟨place, owned, mirrors⟩
    obtain rfl := Option.some.inj (owner?_key.symm.trans owned)
    have there : content? (overtaken.reached 10).2.2.2 = some newRecord.content := by
      rw [created]
      rfl
    have shown := mirrors id
    rw [of_decide_eq_true empty, content?_key there] at shown
    cases shown

end AddressRecords.Lone
