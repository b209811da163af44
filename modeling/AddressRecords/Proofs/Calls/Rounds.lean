import AddressRecords.Proofs.Calls.Apart
import AddressRecords.Proofs.Calls.Listing
import Mathlib.Data.List.Chain
import Mathlib.Data.List.Nodup

/-!
The loop over the pages of a list, round by round. The remote may tell another number of pages in
every round, so only the range of page numbers bounds the loop: a round is followed by another just
where its page number is below one that it was told, and such a number can be raised.
-/

namespace AddressRecords.Api.Client

variable {σ α : Type}

/-- Where the loop stands before it asks for a page. -/
structure Round (σ α : Type) where
  page : UInt32
  items : List α
  state : σ

namespace Round

/-- The first round of a list. -/
def first (state : σ) : Round σ α := ⟨1, [], state⟩

section

variable (fetch : UInt32 → Act σ (Except Failure (Page α)))

/-- What asking for the page of the round comes to. -/
def fetched (round : Round σ α) : Outcome σ (Except Failure (Page α)) :=
  fetch round.page round.state

/-- How many pages there are by the account of the round's page, if it comes. -/
def total? (round : Round σ α) : Option UInt32 :=
  (round.fetched fetch).value.toOption.map (·.total)

/-- What the list is if the round is the last one. -/
def closed (round : Round σ α) : Except Failure (List α) :=
  (round.fetched fetch).value.map (round.items ++ ·.items)

/-- The most pages that these rounds were told of, and one at least. -/
def mostTold : List (Round σ α) → Nat
  | [] => 1
  | round :: rounds => max ((round.total? fetch).elim 0 (·.toNat)) (mostTold rounds)

/-- A round whose page is not the last one by its own account is followed by another. -/
inductive GoesOn : Round σ α → Round σ α → Prop
  | next {round : Round σ α} {shown : Page α} (given : (round.fetched fetch).value = .ok shown)
      (below : round.page < shown.total) :
      GoesOn round ⟨round.page + 1, round.items ++ shown.items, (round.fetched fetch).state⟩

/-- The rounds of the loop from one of them on. -/
inductive Runs : Round σ α → List (Round σ α) → Prop
  | last {round : Round σ α} (ends : ∀ later, ¬ GoesOn fetch round later) : Runs round [round]
  | cons {round later : Round σ α} {rounds : List (Round σ α)} (step : GoesOn fetch round later)
      (rest : Runs later rounds) : Runs round (round :: rounds)

end

variable {fetch : UInt32 → Act σ (Except Failure (Page α))} {round later : Round σ α}
  {rounds : List (Round σ α)}

/-! One round. -/

/-- The number that the round was told is in the range, so there is room for the next page's. -/
theorem GoesOn.raises (step : GoesOn fetch round later) :
    round.page.toNat + 1 < UInt32.size ∧ later.page.toNat = round.page.toNat + 1 := by
  cases step with
  | @next shown given below =>
    have told := UInt32.lt_iff_toNat_lt.mp below
    have inside := shown.total.toNat_lt_size
    exact ⟨by omega, toNat_succ_of_lt below⟩

theorem GoesOn.covers (step : GoesOn fetch round later) :
    ∃ total, round.total? fetch = some total ∧ later.page.toNat ≤ total.toNat := by
  cases step with
  | @next shown given below =>
    refine ⟨shown.total, ?_, ?_⟩
    · rw [total?, given]
      rfl
    · rw [toNat_succ_of_lt below]
      exact UInt32.lt_iff_toNat_lt.mp below

/-- Every round brings the page number closer to the end of its range, whatever the remote tells. -/
theorem goesOn_terminating (fetch : UInt32 → Act σ (Except Failure (Page α))) :
    WellFounded fun later round => GoesOn fetch round later := by
  refine Subrelation.wf (r := InvImage (· < ·) fun round : Round σ α => pagesAfter round.page) ?_
    (InvImage.wf _ Nat.lt_wfRel.wf)
  rintro later round ⟨-, below⟩
  exact pagesAfter_succ_lt below

theorem collectFrom_of_goesOn (step : GoesOn fetch round later) :
    let rest := collectFrom fetch later.page later.items later.state
    let done := collectFrom fetch round.page round.items round.state
    done.value = rest.value ∧ done.state = rest.state ∧
      done.calls = (round.fetched fetch).calls ++ rest.calls := by
  obtain ⟨given, below⟩ := step
  dsimp only
  rw [fetched] at given
  rw [collectFrom, Act.value_bind, Act.state_bind, Act.calls_bind, given]
  dsimp only
  rw [dif_pos below]
  exact ⟨rfl, rfl, rfl⟩

theorem collectFrom_of_last (ends : ∀ later, ¬ GoesOn fetch round later) :
    let done := collectFrom fetch round.page round.items round.state
    done.value = round.closed fetch ∧ done.state = (round.fetched fetch).state ∧
      done.calls = (round.fetched fetch).calls := by
  dsimp only
  rw [collectFrom, Act.value_bind, Act.state_bind, Act.calls_bind, closed]
  cases given : (round.fetched fetch).value with
  | error failure =>
    rw [fetched] at given
    rw [given]
    exact ⟨rfl, rfl, List.append_nil _⟩
  | ok shown =>
    have last : ¬ round.page < shown.total := fun below => ends _ (.next given below)
    rw [fetched] at given
    rw [given]
    dsimp only
    rw [dif_neg last]
    exact ⟨rfl, rfl, List.append_nil _⟩

/-! What the rounds were told. -/

theorem le_mostTold {total : UInt32} (told : round.total? fetch = some total)
    (mem : round ∈ rounds) : total.toNat ≤ mostTold fetch rounds := by
  induction rounds with
  | nil => cases mem
  | cons other rounds ih =>
    rw [mostTold]
    rcases List.mem_cons.mp mem with rfl | among
    · rw [told]
      exact Nat.le_max_left _ _
    · exact Nat.le_trans (ih among) (Nat.le_max_right _ _)

theorem one_le_mostTold (rounds : List (Round σ α)) : 1 ≤ mostTold fetch rounds := by
  induction rounds with
  | nil => exact Nat.le_refl 1
  | cons round rounds ih => exact Nat.le_trans ih (Nat.le_max_right _ _)

theorem mostTold_le {most : Nat}
    (within : ∀ round ∈ rounds, ∀ total, round.total? fetch = some total → total.toNat ≤ most) :
    mostTold fetch rounds ≤ max 1 most := by
  induction rounds with
  | nil => exact Nat.le_max_left 1 most
  | cons round rounds ih =>
    obtain ⟨here, later⟩ := List.forall_mem_cons.mp within
    refine Nat.max_le.mpr ⟨Nat.le_trans ?_ (Nat.le_max_right 1 most), ih later⟩
    cases told : round.total? fetch with
    | none => exact Nat.zero_le most
    | some total => exact here total told

/-! A whole run. -/

theorem exists_runs (fetch : UInt32 → Act σ (Except Failure (Page α))) (round : Round σ α) :
    ∃ rounds, Runs fetch round rounds := by
  induction round using (goesOn_terminating fetch).induction with
  | _ round ih =>
    by_cases further : ∃ later, GoesOn fetch round later
    · obtain ⟨later, step⟩ := further
      obtain ⟨rounds, runs⟩ := ih later step
      exact ⟨round :: rounds, .cons step runs⟩
    · exact ⟨[round], .last fun later step => further ⟨later, step⟩⟩

namespace Runs

theorem collects (runs : Runs fetch round rounds) :
    let done := collectFrom fetch round.page round.items round.state
    ∃ last, rounds.getLast? = some last ∧ done.value = last.closed fetch ∧
      done.state = (last.fetched fetch).state ∧
      done.calls = rounds.flatMap fun round => (round.fetched fetch).calls := by
  induction runs with
  | @last round ends =>
    obtain ⟨value, state, calls⟩ := collectFrom_of_last ends
    exact ⟨round, rfl, value, state, by rw [calls, List.flatMap_singleton]⟩
  | @cons round later rounds step rest ih =>
    obtain ⟨value, state, calls⟩ := collectFrom_of_goesOn step
    obtain ⟨last, final, laterValue, laterState, laterCalls⟩ := ih
    refine ⟨last, ?_, value.trans laterValue, state.trans laterState, ?_⟩
    · rw [List.getLast?_cons, final]
      rfl
    · rw [calls, laterCalls, List.flatMap_cons]

theorem isChain (runs : Runs fetch round rounds) : rounds.IsChain (GoesOn fetch) := by
  induction runs with
  | last => exact .singleton _
  | cons step rest ih => cases rest <;> exact .cons_cons step ih

/-- The page numbers count up by one. -/
theorem numbers (runs : Runs fetch round rounds) :
    rounds.map (·.page.toNat) = List.range' round.page.toNat rounds.length := by
  induction runs with
  | last => rfl
  | cons step rest ih =>
    rw [List.map_cons, ih, step.raises.2, List.length_cons, List.range'_succ]

theorem page_at {index : Nat} (runs : Runs fetch round rounds)
    (there : rounds[index]? = some later) : later.page.toNat = round.page.toNat + index := by
  have number : (rounds.map (·.page.toNat))[index]? = some later.page.toNat := by
    rw [List.getElem?_map, there, Option.map_some]
  have inside : index < rounds.length := (List.getElem?_eq_some_iff.mp there).1
  rw [runs.numbers, List.getElem?_range' inside, Nat.one_mul] at number
  exact (Option.some.inj number).symm

/-- A page number is never above what the round before was told. -/
theorem covered {state : σ} {index : Nat} (runs : Runs fetch (Round.first state) rounds)
    (there : rounds[index]? = some later) :
    later.page.toNat ≤ mostTold fetch (rounds.take index) := by
  cases index with
  | zero =>
    have first : later.page.toNat = 1 := runs.page_at there
    rw [first]
    exact one_le_mostTold _
  | succ index =>
    obtain ⟨inside, here⟩ := List.getElem?_eq_some_iff.mp there
    have step : GoesOn fetch rounds[index] later := here ▸ runs.isChain.getElem index inside
    obtain ⟨total, told, within⟩ := step.covers
    have among : rounds[index] ∈ rounds.take (index + 1) :=
      List.mem_take_iff_getElem.mpr ⟨index, by omega, rfl⟩
    exact Nat.le_trans within (le_mostTold told among)

theorem nodup_pages (runs : Runs fetch round rounds) : (rounds.map (·.page)).Nodup := by
  have numbers : ((rounds.map (·.page)).map UInt32.toNat).Nodup := by
    rw [List.map_map]
    exact runs.numbers ▸ List.nodup_range'
  exact List.Nodup.of_map _ numbers

/-- The last page number is how many rounds there are. -/
theorem exists_last {state : σ} (runs : Runs fetch (Round.first state) rounds) :
    ∃ last, rounds.getLast? = some last ∧ last.page.toNat = rounds.length := by
  obtain ⟨last, final, -⟩ := runs.collects
  have some_round : 0 < rounds.length := List.length_pos_of_mem (List.mem_of_getLast? final)
  refine ⟨last, final, ?_⟩
  rw [List.getLast?_eq_getElem?] at final
  have number : last.page.toNat = 1 + (rounds.length - 1) := runs.page_at final
  omega

theorem length_le {state : σ} {most : Nat} (runs : Runs fetch (Round.first state) rounds)
    (within : ∀ round ∈ rounds, ∀ total, round.total? fetch = some total → total.toNat ≤ most) :
    rounds.length ≤ max 1 most := by
  obtain ⟨last, final, number⟩ := runs.exists_last
  rw [List.getLast?_eq_getElem?] at final
  calc rounds.length
      = last.page.toNat := number.symm
    _ ≤ mostTold fetch (rounds.take (rounds.length - 1)) := runs.covered final
    _ ≤ max 1 most := mostTold_le fun round mem => within round (List.mem_of_mem_take mem)

/-- The pages of the rounds are the first ones, in their order. -/
theorem commands_eq {state : σ} (runs : Runs fetch (Round.first state) rounds)
    (command : UInt32 → Command) :
    rounds.map (fun round => command round.page) = Command.pages command rounds.length := by
  have pages : rounds.map (·.page) = (rounds.map (·.page.toNat)).map UInt32.ofNat := by
    rw [List.map_map]
    exact List.map_congr_left fun round _ => (UInt32.ofNat_toNat).symm
  calc rounds.map (fun round => command round.page)
      = (rounds.map (·.page)).map command := by rw [List.map_map]; rfl
    _ = Command.pages command rounds.length := by
      rw [pages, runs.numbers, List.map_map]
      rfl

end Runs

/-! Lists. -/

/-- What it takes to fetch the list whose pages `command` asks for: these rounds. -/
structure Collects (fetch : UInt32 → Act σ (Except Failure (Page α))) (client : Client)
    (command : UInt32 → Command) (state : σ) (done : Outcome σ (Except Failure (List α)))
    (rounds : List (Round σ α)) : Prop where
  runs : Runs fetch (.first state) rounds
  closes : ∃ last, rounds.getLast? = some last ∧ done.value = last.closed fetch ∧
    done.state = (last.fetched fetch).state
  calls : done.calls = rounds.map fun round => (command round.page).call client
  /-- However far the remote tells the loop to go, it comes to its end. -/
  terminating : WellFounded fun later round => GoesOn fetch round later
  numbers : rounds.map (·.page.toNat) = List.range' 1 done.calls.length
  covered : ∀ index round, rounds[index]? = some round →
    1 ≤ round.page.toNat ∧ round.page.toNat ≤ mostTold fetch (rounds.take index)
  raises : ∀ round later, GoesOn fetch round later →
    round.page.toNat + 1 < UInt32.size ∧ later.page.toNat = round.page.toNat + 1
  once : (rounds.map (·.page)).Nodup
  apart : (rounds.map fun round => command round.page).Pairwise (Command.Apart client)
  bounded : ∀ most : Nat,
    (∀ round ∈ rounds, ∀ total, round.total? fetch = some total → total.toNat ≤ most) →
    done.calls.length ≤ max 1 most

/-- Fetching a whole list is such a loop. -/
theorem exists_collects {api : Service σ} {client : Client} {reader : Json.Reader α}
    {path : String} {query : UInt32 → List (String × String)} {command : UInt32 → Command}
    (asks : ∀ page, (command page).call client = ⟨.get, path, query page, none⟩)
    (apart : ∀ page next, 1 ≤ page → page < next → (command page).Apart client (command next))
    (state : σ) :
    ∃ rounds, Collects (fetchPage api client reader path query) client command state
      (fetchAll api client reader path query state) rounds := by
  obtain ⟨rounds, runs⟩ := exists_runs (fetchPage api client reader path query) (first state)
  obtain ⟨last, final, value, after, calls⟩ := runs.collects
  have one (round : Round σ α) :
      (round.fetched (fetchPage api client reader path query)).calls =
        [(command round.page).call client] := by
    rw [asks]
    exact calls_send_of_quiet api client _ _ _ (fun _ => .pure _) round.state
  have calls : (fetchAll api client reader path query state).calls =
      rounds.map fun round => (command round.page).call client := by
    rw [fetchAll]
    refine calls.trans ?_
    simp only [one]
    exact List.flatMap_pure_eq_map _ _
  have length : (fetchAll api client reader path query state).calls.length = rounds.length := by
    rw [calls, List.length_map]
  have inside : rounds.length < UInt32.size := by
    obtain ⟨last, -, number⟩ := runs.exists_last
    exact number ▸ last.page.toNat_lt_size
  refine ⟨rounds, ?_⟩
  constructor
  case runs => exact runs
  case closes => exact ⟨last, final, value, after⟩
  case calls => exact calls
  case terminating => exact goesOn_terminating _
  case numbers => exact length ▸ runs.numbers
  case covered =>
    intro index round there
    refine ⟨?_, runs.covered there⟩
    rw [runs.page_at there]
    exact Nat.le_add_right 1 index
  case raises => exact fun _ _ step => step.raises
  case once => exact runs.nodup_pages
  case apart => exact runs.commands_eq command ▸ Command.pairwise_pages apart inside
  case bounded =>
    intro most within
    rw [length]
    exact runs.length_le within

/-- Whatever the remote answers, and however many pages it tells of, the loops over the pages of
zones and over those of records come to their ends. -/
theorem collects_lists (api : Service σ) (client : Client) (state : σ) :
    (∀ name, ∃ rounds, Collects
      (fetchPage api client RawZone.reader "/zones" (client.zoneQuery name)) client (.zones name)
      state (client.listZones api name state) rounds) ∧
    ∀ zone name recordType, ∃ rounds, Collects
      (fetchPage api client RawRecord.reader (recordsPath zone) (recordQuery name recordType)) client
      (.records zone name recordType) state (client.listRecords api zone name recordType state)
      rounds := by
  constructor
  · intro name
    exact exists_collects (fun _ => rfl)
      (fun _ _ numbered later => Command.zones_apart_of_page client name numbered later) state
  · intro zone name recordType
    exact exists_collects (fun _ => rfl)
      (fun _ _ _ later => Command.records_apart_of_page client zone name recordType later) state

end Round

end AddressRecords.Api.Client
