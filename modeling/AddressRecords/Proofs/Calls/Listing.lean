import AddressRecords.Proofs.Calls.Pages

/-!
Lists, page by page: which pages came and what became of them. The pages are asked for in their
order, each once, until one fails or is the last by its own account. Only if they all came is there
a list, and then it is all they hold.
-/

namespace AddressRecords

open Api (Call RawZone Service)
open Api.Client (Page)

variable {σ α : Type}

namespace Api

/-- The pages of a list that came, and the failure of the one after them if they are not all. -/
structure Listing (α : Type) where
  pages : List (Page α)
  failure? : Option Failure

namespace Listing

/-- How many pages were asked for. -/
def asked (listing : Listing α) : Nat := listing.pages.length + listing.failure?.toList.length

/-- The whole list, or why it is not there. -/
def list (listing : Listing α) : Except Failure (List α) :=
  match listing.failure? with
  | none => .ok (listing.pages.flatMap (·.items))
  | some failure => .error failure

/-- The listing with a page in front of it. -/
def behind (page : Page α) (listing : Listing α) : Listing α :=
  { listing with pages := page :: listing.pages }

theorem asked_behind (page : Page α) (listing : Listing α) :
    (listing.behind page).asked = listing.asked + 1 := by
  simp only [asked, behind, List.length_cons]
  omega

theorem list_behind (page : Page α) (listing : Listing α) :
    (listing.behind page).list = listing.list.map (page.items ++ ·) := by
  obtain ⟨pages, failure?⟩ := listing
  cases failure? with
  | none => simp [list, behind, Except.map]
  | some failure => rfl

end Listing

namespace Client

/-- What asking for the pages from `page` on comes to, and the state in which it leaves the API. -/
inductive Gathers (fetch : UInt32 → Act σ (Except Failure (Page α))) :
    UInt32 → σ → Listing α → σ → Prop
  | fails {page : UInt32} {state : σ} {failure : Failure}
      (given : (fetch page state).value = .error failure) :
      Gathers fetch page state ⟨[], some failure⟩ (fetch page state).state
  | ends {page : UInt32} {state : σ} {shown : Page α}
      (given : (fetch page state).value = .ok shown) (last : shown.total ≤ page) :
      Gathers fetch page state ⟨[shown], none⟩ (fetch page state).state
  | goes_on {page : UInt32} {state after : σ} {shown : Page α} {later : Listing α}
      (given : (fetch page state).value = .ok shown) (below : page < shown.total)
      (rest : Gathers fetch (page + 1) (fetch page state).state later after) :
      Gathers fetch page state (later.behind shown) after

variable {fetch : UInt32 → Act σ (Except Failure (Page α))}

/-- Collecting pages is asking for them, and gives the whole list or the failure of a page. -/
theorem exists_gathers {call : UInt32 → Call}
    (one : ∀ page state, (fetch page state).calls = [call page]) (page : UInt32) (items : List α)
    (state : σ) :
    let done := collectFrom fetch page items state
    ∃ listing, Gathers fetch page state listing done.state ∧
      done.value = listing.list.map (items ++ ·) ∧
      done.calls =
        (List.range' page.toNat listing.asked).map fun number => call (UInt32.ofNat number) := by
  induction left : pagesAfter page using Nat.strongRecOn generalizing page items state with
  | ind left ih =>
    have alone : [call page] =
        (List.range' page.toNat 1).map fun number => call (UInt32.ofNat number) := by
      rw [List.range'_one, List.map_singleton, UInt32.ofNat_toNat]
    dsimp only
    rw [collectFrom, Act.calls_bind, one, Act.value_bind, Act.state_bind]
    cases given : (fetch page state).value with
    | error failure => exact ⟨_, .fails given, rfl, alone⟩
    | ok shown =>
      dsimp only
      split
      · rename_i below
        obtain ⟨later, rest, value, calls⟩ := ih _ (left ▸ pagesAfter_succ_lt below) (page + 1)
          (items ++ shown.items) (fetch page state).state rfl
        refine ⟨later.behind shown, .goes_on given below rest, ?_, ?_⟩
        · rw [value, Listing.list_behind]
          cases later.list with
          | error failure => rfl
          | ok all => simp [Except.map]
        · rw [calls, toNat_succ_of_lt below, Listing.asked_behind, List.range'_succ, List.map_cons,
            UInt32.ofNat_toNat]
          rfl
      · rename_i last
        exact ⟨⟨[shown], none⟩, .ends given (UInt32.not_lt.mp last),
          by simp [Listing.list, Except.map], alone⟩

/-- Fetching a list asks for its pages from the first one on. -/
theorem fetchAll_gathers (api : Service σ) (client : Client) (reader : Json.Reader α)
    (path : String) (query : UInt32 → List (String × String)) {command : UInt32 → Command}
    (asks : ∀ page, (command page).call client = ⟨.get, path, query page, none⟩) (state : σ) :
    let done := fetchAll api client reader path query state
    ∃ listing, Gathers (fetchPage api client reader path query) 1 state listing done.state ∧
      done.value = listing.list ∧
      done.calls = (Command.pages command listing.asked).map (·.call client) := by
  have one : ∀ page state, (fetchPage api client reader path query page state).calls =
      [⟨.get, path, query page, none⟩] :=
    fun page state => calls_send_of_quiet api client _ _ _ (fun _ => .pure _) state
  obtain ⟨listing, gathers, value, calls⟩ := exists_gathers one 1 [] state
  refine ⟨listing, gathers, ?_, ?_⟩
  · rw [fetchAll, value]
    cases listing.list <;> rfl
  · rw [fetchAll, calls, Command.pages, List.map_map]
    exact List.map_congr_left fun page _ => (asks _).symm

theorem listZones_gathers (api : Service σ) (client : Client) (name : String) (state : σ) :
    let done := client.listZones api name state
    ∃ listing, Gathers (fetchPage api client RawZone.reader "/zones" (client.zoneQuery name)) 1
        state listing done.state ∧
      done.value = listing.list ∧
      done.calls = (Command.pages (.zones name) listing.asked).map (·.call client) :=
  fetchAll_gathers api client _ _ _ (fun _ => rfl) state

end Client

end Api

/-! Zones. -/

/-- The zones that a listing comes to, if it is whole. -/
def Api.Listing.zones? (listing : Listing RawZone) : Option (List Zone) :=
  listing.list.toOption.map fun zones => zones.map fun zone => ⟨zone.id, .ofText zone.status⟩

/-- Lists of zones, asked for by name one after the other. -/
inductive Api.Client.ListsZones (api : Service σ) (client : Client) :
    σ → List (String × Listing RawZone) → σ → Prop
  | nil (state : σ) : ListsZones api client state [] state
  | cons {name : String} {state between after : σ} {listing : Listing RawZone}
      {later : List (String × Listing RawZone)}
      (first : Gathers (fetchPage api client RawZone.reader "/zones" (client.zoneQuery name)) 1
        state listing between) (rest : ListsZones api client between later after) :
      ListsZones api client state ((name, listing) :: later) after

/-- The commands that ask for the pages of these lists. -/
def Command.zoneLists (asked : List (String × Api.Listing RawZone)) : List Command :=
  asked.flatMap fun (name, listing) => Command.pages (.zones name) listing.asked

end AddressRecords
