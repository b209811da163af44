import AddressRecords.Proofs.Calls.Listing
import AddressRecords.Proofs.Calls.Protocol

/-!
Which lists of zones a resolution leaves behind: those that were there, and those of the candidates
it asked for that came whole. A list that broke off leaves nothing.
-/

namespace AddressRecords

open Api (Client Listing RawZone Service)

variable {σ : Type}

namespace ZoneCache

theorem calls_lookupEach_cons (source : ZoneSource σ) (name : String) (names : List String)
    (state : ZoneCache × σ) :
    (lookupEach source (name :: names) state).calls =
      (lookup source name state).calls ++
        (lookupEach source names (lookup source name state).state).calls := by
  rw [lookupEach, List.mapM_cons, Act.calls_bind]
  exact congrArg _ (Act.calls_bind_of_quiet (.pure _))

/-- What look-ups of `names` add to a cache by asking for the lists `asked`. -/
structure Files (api : Service σ) (client : Client) (names : List String)
    (before : ZoneCache × σ) (asked : List (String × Listing RawZone)) (after : ZoneCache × σ) :
    Prop where
  names : asked.map (·.1) = names.filter fun name => (before.1.find? name).isNone
  lists : client.ListsZones api before.2 asked after.2
  zones : ∀ name zones, after.1.find? name = some zones ↔
    before.1.find? name = some zones ∨ ∃ listing, (name, listing) ∈ asked ∧
      listing.zones? = some zones

variable {api : Service σ} {client : Client} {name : String} {names : List String}

namespace Files

theorem nil (state : ZoneCache × σ) : Files api client [] state [] state where
  names := rfl
  lists := .nil _
  zones _ _ := ⟨.inl, fun h => h.resolve_right fun ⟨_, impossible, _⟩ => nomatch impossible⟩

/-- Nothing is asked for a name with a list. -/
theorem known {before after : ZoneCache × σ} {asked : List (String × Listing RawZone)}
    {zones : List Zone} (h : before.1.find? name = some zones)
    (later : Files api client names before asked after) :
    Files api client (name :: names) before asked after where
  names := by
    rw [later.names, List.filter_cons_of_neg]
    simp [h]
  lists := later.lists
  zones := later.zones

/-- The list of another name is asked for and filed, if it is whole. -/
theorem missing {cache : ZoneCache} {state between : σ} {listing : Listing RawZone}
    {after : ZoneCache × σ} {asked : List (String × Listing RawZone)} (new : name ∉ names)
    (h : cache.find? name = none)
    (gathers : Client.Gathers (Client.fetchPage api client Api.RawZone.reader "/zones"
      (client.zoneQuery name)) 1 state listing between)
    (later : Files api client names (cache.set name listing.zones?, between) asked after) :
    Files api client (name :: names) (cache, state) ((name, listing) :: asked) after where
  names := by
    have others : names.filter (fun other => ((cache.set name listing.zones?).find? other).isNone) =
        names.filter fun other => (cache.find? other).isNone := by
      refine List.filter_congr fun other mem => ?_
      rw [find?_set_of_ne (fun same : other = name => new (same ▸ mem))]
    rw [List.map_cons, later.names, others, List.filter_cons_of_pos]
    simp [h]
  lists := .cons gathers later.lists
  zones := by
    intro other zones
    rw [later.zones]
    by_cases own : other = name
    · subst own
      dsimp only
      rw [find?_set_self]
      constructor
      · rintro (whole | ⟨same, mem, whole⟩)
        · exact .inr ⟨listing, List.mem_cons_self, whole⟩
        · exact .inr ⟨same, List.mem_cons_of_mem _ mem, whole⟩
      · rintro (held | ⟨same, mem, whole⟩)
        · rw [h] at held
          cases held
        · rcases List.mem_cons.mp mem with first | rest
          · cases first
            exact .inl whole
          · exact .inr ⟨same, rest, whole⟩
    · have foreign (same : Listing RawZone) :
          (other, same) ∈ (name, listing) :: asked ↔ (other, same) ∈ asked := by
        simp [own]
      dsimp only
      rw [find?_set_of_ne own]
      simp only [foreign]

end Files

/-- Look-ups ask for the lists that are missing, and file those that come whole. -/
theorem lookupEach_files (api : Service σ) (client : Client) (distinct : names.Nodup)
    (named : ∀ name ∈ names, name ≠ "") (state : ZoneCache × σ) :
    let done := lookupEach (client.zoneSource api) names state
    ∃ asked, Files api client names state asked done.state ∧
      done.calls = (Command.zoneLists asked).map (·.call client) := by
  let source := client.zoneSource api
  induction names generalizing state with
  | nil => exact ⟨[], .nil state, rfl⟩
  | cons name rest ih =>
    obtain ⟨new, distinctRest⟩ := List.nodup_cons.mp distinct
    obtain ⟨first, namedRest⟩ := List.forall_mem_cons.mp named
    dsimp only
    rw [lookupEach_cons_state, calls_lookupEach_cons]
    cases known : state.1.find? name with
    | some zones =>
      obtain ⟨asked, files, calls⟩ := ih distinctRest namedRest state
      rw [(lookup_hit source first known).2, calls_lookup_hit source known, List.nil_append]
      exact ⟨asked, files.known known, calls⟩
    | none =>
      obtain ⟨listing, gathers, value, calls⟩ := client.listZones_gathers api name state.2
      have content : (source name state.2).value.toOption = listing.zones? := by
        change (((client.listZones api name state.2).value).map _).toOption = _
        rw [value, Listing.zones?]
        cases listing.list <;> rfl
      have asks : (lookup source name state).calls =
          (Command.pages (.zones name) listing.asked).map (·.call client) := by
        rw [calls_lookup_miss source first known, ← calls]
        exact Act.calls_bind_of_quiet (.pure _)
      obtain ⟨asked, files, later⟩ := ih distinctRest namedRest (lookup source name state).state
      rw [(lookup_miss source first known).2, content] at files
      refine ⟨(name, listing) :: asked, ?_, ?_⟩
      · rw [(lookup_miss source first known).2, content]
        exact files.missing new known gathers
      · rw [asks, later, Command.zoneLists, Command.zoneLists, List.flatMap_cons, List.map_append]

end ZoneCache

namespace Resolver

/-- A resolution makes the calls of its look-ups, and its state is theirs. -/
theorem exists_looked (source : ZoneSource σ) (domain : Domain) (candidates : List String)
    (state : ZoneCache × σ) :
    let done := resolveAmong source domain candidates state
    ∃ looked, looked <+: candidates ∧
      done.state = (ZoneCache.lookupEach source looked state).state ∧
      done.calls = (ZoneCache.lookupEach source looked state).calls := by
  induction candidates generalizing state with
  | nil =>
    refine ⟨[], List.prefix_rfl, rfl, ?_⟩
    exact Act.IsQuiet.calls (.bind (.emit rfl) fun _ => .pure _) state
  | cons candidate rest ih =>
    dsimp only
    rcases decides_or_passes candidate (ZoneCache.lookup source candidate state).value with
      passes | ⟨result, decides⟩
    · obtain ⟨looked, inOrder, same, calls⟩ := ih (ZoneCache.lookup source candidate state).state
      refine ⟨candidate :: looked, List.cons_prefix_cons.mpr ⟨rfl, inOrder⟩, ?_, ?_⟩
      · rw [(resolveAmong_of_passes source domain rest passes).2, same,
          ZoneCache.lookupEach_cons_state]
      · rw [calls_resolveAmong_of_passes source domain rest passes, calls,
          ZoneCache.calls_lookupEach_cons]
    · refine ⟨[candidate], by simp, ?_, ?_⟩
      · rw [(resolveAmong_of_decides source domain rest decides).2,
          ZoneCache.lookupEach_cons_state, ZoneCache.lookupEach_nil]
      · rw [calls_resolveAmong_of_decides source domain rest decides,
          ZoneCache.calls_lookupEach_cons, ZoneCache.lookupEach_nil]
        exact (List.append_nil _).symm

/-- A resolution asks for the lists of its first candidates that are missing, and files those that
come whole. -/
theorem exists_files (api : Service σ) (client : Client) (domain : Domain)
    (state : ZoneCache × σ) :
    let done := resolve (client.zoneSource api) domain state
    ∃ looked asked, looked <+: domain.zoneCandidates ∧
      ZoneCache.Files api client looked state asked done.state ∧
      done.calls = (Command.zoneLists asked).map (·.call client) := by
  obtain ⟨looked, inOrder, same, calls⟩ :=
    exists_looked (client.zoneSource api) domain domain.zoneCandidates state
  have distinct : looked.Nodup := inOrder.sublist.nodup domain.nodup_zoneCandidates
  have named : ∀ name ∈ looked, name ≠ "" := by
    intro name mem
    exact Domain.ne_empty_of_mem_zoneCandidates (inOrder.subset mem)
  obtain ⟨asked, files, asks⟩ := ZoneCache.lookupEach_files api client distinct named state
  dsimp only
  rw [resolve, same, calls]
  exact ⟨looked, asked, inOrder, files, asks⟩

end Resolver

end AddressRecords
