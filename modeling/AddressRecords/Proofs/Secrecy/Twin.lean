import AddressRecords.Handle.Operation
import AddressRecords.Proofs.Remote.Faithful

/-!
Two clients side by side. If they get the same from their APIs for every call, nothing that is built
on calls tells them apart: it gives the same, and lets others see the same events.
-/

namespace AddressRecords

open Api (Call Client NewRecord RecordPatch Service)
open Api.Client (Page)

variable {σ τ ρ α β : Type}

namespace Act

/-- From related states both actions give the same and let others see the same, and the states stay
related. -/
def Agree (related : σ → τ → Prop) (one : Act σ α) (two : Act τ α) : Prop :=
  ∀ first second, related first second → (one first).value = (two second).value ∧
    (one first).events = (two second).events ∧ related (one first).state (two second).state

/-- The same beside states that are related. -/
def Along (related : σ → τ → Prop) (first : ρ × σ) (second : ρ × τ) : Prop :=
  first.1 = second.1 ∧ related first.2 second.2

namespace Agree

variable {related : σ → τ → Prop}

theorem pure (value : α) :
    Agree related (Pure.pure value : Act σ α) (Pure.pure value : Act τ α) :=
  fun _ _ same => ⟨rfl, rfl, same⟩

theorem emit (event : Event) : Agree related (Act.emit event) (Act.emit event) :=
  fun _ _ same => ⟨rfl, rfl, same⟩

theorem modify {change : σ → σ} {other : τ → τ}
    (keeps : ∀ first second, related first second → related (change first) (other second)) :
    Agree related (Act.modify change) (Act.modify other) :=
  fun first second same => ⟨rfl, rfl, keeps first second same⟩

theorem bind {one : Act σ α} {two : Act τ α} {next : α → Act σ β} {other : α → Act τ β}
    (h : Agree related one two) (rest : ∀ value, Agree related (next value) (other value)) :
    Agree related (one >>= next) (two >>= other) := by
  intro first second same
  obtain ⟨value, events, later⟩ := h first second same
  obtain ⟨given, seen, after⟩ := rest (two second).value _ _ later
  rw [value_bind, value_bind, events_bind, events_bind, state_bind, state_bind, value]
  exact ⟨given, by rw [events, seen], after⟩

theorem map {one : Act σ α} {two : Act τ α} (h : Agree related one two) (f : α → β) :
    Agree related (f <$> one) (f <$> two) := by
  intro first second same
  obtain ⟨value, events, later⟩ := h first second same
  rw [value_map, value_map, events_map, events_map, state_map, state_map, value]
  exact ⟨rfl, events, later⟩

/-- What is read of related states may be used where it leads to the same. -/
theorem read {next : σ → Act σ α} {other : τ → Act τ α}
    (h : ∀ first second, related first second → Agree related (next first) (other second)) :
    Agree related (Act.get >>= next) (Act.get >>= other) :=
  fun first second same => h first second same first second same

theorem onSecond {one : Act σ α} {two : Act τ α} (h : Agree related one two) :
    Agree (Along related) (one.onSecond : Act (ρ × σ) α) (two.onSecond : Act (ρ × τ) α) := by
  intro first second same
  obtain ⟨value, events, later⟩ := h first.2 second.2 same.2
  exact ⟨value, events, same.1, later⟩

theorem mapM {one : β → Act σ α} {two : β → Act τ α}
    (h : ∀ item, Agree related (one item) (two item)) (items : List β) :
    Agree related (items.mapM one) (items.mapM two) := by
  induction items with
  | nil => exact .pure _
  | cons item rest ih =>
    rw [List.mapM_cons, List.mapM_cons]
    exact .bind (h item) fun _ => .bind ih fun _ => .pure _

end Agree

end Act

open Act (Agree Along)

/-! Clients. -/

namespace Api

/-- Clients whose calls have the same outcome, each at its own API. -/
structure Twins (api : Service σ) (client : Client) (other : Service τ) (twin : Client)
    (related : σ → τ → Prop) : Prop where
  account : client.accountId = twin.accountId
  attempt : ∀ call, Agree related (Client.attempt api client call) (Client.attempt other twin call)

namespace Client

variable {related : σ → τ → Prop}

theorem agree_collectFrom {fetch : UInt32 → Act σ (Except Failure (Page α))}
    {other : UInt32 → Act τ (Except Failure (Page α))}
    (h : ∀ page, Agree related (fetch page) (other page)) (page : UInt32) (items : List α) :
    Agree related (collectFrom fetch page items) (collectFrom other page items) := by
  -- Both go on to the same page or both stop, so the pages left bound the two at once.
  induction left : pagesAfter page using Nat.strongRecOn generalizing page items with
  | ind left ih =>
    rw [collectFrom, collectFrom]
    refine .bind (h page) fun answer => ?_
    cases answer with
    | error failure => exact .pure _
    | ok fetched =>
      dsimp only
      split
      · exact ih _ (left ▸ pagesAfter_succ_lt ‹_›) _ _ rfl
      · exact .pure _

end Client

namespace Twins

variable {api : Service σ} {client : Client} {other : Service τ} {twin : Client}
variable {related : σ → τ → Prop} (same : Twins api client other twin related)

include same

theorem send (reader : Json.Reader α) (call : Call) :
    Agree related (Client.send api client reader call) (Client.send other twin reader call) :=
  (same.attempt call).map _

theorem fetchAll (reader : Json.Reader α) (path : String)
    (query : UInt32 → List (String × String)) :
    Agree related (Client.fetchAll api client reader path query)
      (Client.fetchAll other twin reader path query) := by
  refine Client.agree_collectFrom (fun page => ?_) 1 []
  exact .bind (.emit _) fun _ => .bind (same.send _ _) fun _ => .pure _

theorem listZones (name : String) :
    Agree related (client.listZones api name) (twin.listZones other name) := by
  have query : client.zoneQuery name = twin.zoneQuery name := by
    funext page
    rw [Client.zoneQuery, Client.zoneQuery, same.account]
  rw [Client.listZones, Client.listZones, query]
  exact same.fetchAll _ _ _

theorem createRecord (zone : String) (record : NewRecord) :
    Agree related (client.createRecord api zone record) (twin.createRecord other zone record) := by
  refine .bind (.emit _) fun _ => .bind (same.send _ _) fun answer => ?_
  cases answer with
  | error failure => exact .pure _
  | ok envelope =>
    dsimp only
    split
    · split <;> exact .pure _
    · exact .pure _

theorem updateRecord (zone id : String) (patch : RecordPatch) :
    Agree related (client.updateRecord api zone id patch)
      (twin.updateRecord other zone id patch) := by
  refine .bind (.emit _) fun _ => .bind (same.send _ _) fun answer => ?_
  cases answer <;> exact .pure _

theorem deleteRecord (zone id : String) :
    Agree related (client.deleteRecord api zone id) (twin.deleteRecord other zone id) := by
  refine .bind (.emit _) fun _ => .bind (same.send _ _) fun answer => ?_
  cases answer <;> exact .pure _

theorem verifyToken : Agree related (client.verifyToken api) (twin.verifyToken other) := by
  refine .bind (.emit _) fun _ => .bind (same.send _ _) fun answer => ?_
  cases answer with
  | error failure => exact .pure _
  | ok envelope =>
    dsimp only
    split <;> exact .pure _

end Twins

end Api

/-! Zones. -/

section

variable {related : σ → τ → Prop} {source : ZoneSource σ} {other : ZoneSource τ}

theorem Api.Twins.zoneSource {api : Service σ} {client : Client} {remote : Service τ}
    {twin : Client} (same : Twins api client remote twin related) (name : String) :
    Agree related (client.zoneSource api name) (twin.zoneSource remote name) :=
  .bind (same.listZones name) fun _ => .pure _

theorem ZoneCache.agree_flush :
    Agree (Along related) (ZoneCache.flush : Act (ZoneCache × σ) Unit) ZoneCache.flush := by
  refine .read ?_
  rintro ⟨cache, first⟩ ⟨_, second⟩ ⟨rfl, -⟩
  exact .bind (.emit _) fun _ => .modify fun _ _ alike => ⟨rfl, alike.2⟩

variable (same : ∀ name, Agree related (source name) (other name))

include same

theorem ZoneCache.agree_lookup (name : String) :
    Agree (Along related) (lookup source name) (lookup other name) := by
  unfold lookup
  split
  · exact .pure _
  · refine .read ?_
    rintro ⟨cache, first⟩ ⟨_, second⟩ ⟨rfl, -⟩
    dsimp only
    split
    · exact .bind (.emit _) fun _ => .pure _
    · refine .bind (.emit _) fun _ => .bind (same name).onSecond fun answer => ?_
      refine .bind (.modify ?_) fun _ => .pure _
      rintro ⟨cache, first⟩ ⟨_, second⟩ ⟨rfl, alike⟩
      exact ⟨rfl, alike⟩

namespace Resolver

omit same

theorem agree_tellSkipped (name : String) (zones : List Zone) :
    Agree related (tellSkipped name zones) (tellSkipped name zones) := by
  induction zones with
  | nil => exact .pure _
  | cons zone rest ih =>
    unfold tellSkipped
    split
    · exact .bind (.emit _) fun _ => ih
    · exact ih

theorem agree_tellStatus (name : String) (status : ZoneStatus) :
    Agree related (tellStatus name status) (tellStatus name status) := by
  cases status with
  | active | removed => exact .pure _
  | degraded raw | undocumented raw => exact .bind (.emit _) fun _ => .emit _

include same

theorem agree_resolveAmong (domain : Domain) (candidates : List String) :
    Agree (Along related) (resolveAmong source domain candidates)
      (resolveAmong other domain candidates) := by
  induction candidates with
  | nil => exact .bind (.emit _) fun _ => .pure _
  | cons candidate rest ih =>
    refine .bind (ZoneCache.agree_lookup same candidate) fun answer => ?_
    cases answer with
    | error failure => exact .bind (.emit _) fun _ => .pure _
    | ok zones =>
      refine .bind (agree_tellSkipped candidate zones) fun _ => ?_
      split
      · exact ih
      · refine .bind (agree_tellStatus candidate _) fun _ => ?_
        exact .bind (.emit _) fun _ => .pure _
      · exact .bind (.emit _) fun _ => .pure _

end Resolver

end

/-! Handles. -/

namespace Handle

/-- Two states of handles with the same memory. -/
abbrev Remember (related : σ → τ → Prop) : HandleState σ → HandleState τ → Prop :=
  Along (Along related)

variable {related : σ → τ → Prop}

theorem agree_onRemote {one : Act σ α} {two : Act τ α} (h : Agree related one two) :
    Agree (Remember related) (onRemote one) (onRemote two) :=
  h.onSecond.onSecond

theorem agree_remember (change : RecordStore → RecordStore) :
    Agree (Remember related) (remember change) (remember change) := by
  refine .modify ?_
  rintro ⟨records, first⟩ ⟨_, second⟩ ⟨rfl, alike⟩
  exact ⟨rfl, alike⟩

theorem agree_reportUnchanged (mutation : Mutation) (key : RecordKey) (id : String)
    (failure : Api.Failure) :
    Agree related (reportUnchanged mutation key id failure)
      (reportUnchanged mutation key id failure) := by
  unfold reportUnchanged
  dsimp only
  split <;> exact .bind (.emit _) fun _ => .pure _

theorem agree_withOwn (family : Family) (address : Address) {one : Act σ (Except Failure α)}
    {two : Act τ (Except Failure α)} (h : Agree related one two) :
    Agree related (withOwn family address one) (withOwn family address two) := by
  unfold withOwn
  split
  · exact h
  · exact .bind (.emit _) fun _ => .pure _

variable {handle : Handle σ} {twin : Handle τ}
variable (same : Api.Twins handle.api handle.client twin.api twin.client related)

include same

theorem agree_resolve (domain : Domain) :
    Agree (Remember related) (handle.resolve domain) (twin.resolve domain) :=
  (Resolver.agree_resolveAmong same.zoneSource domain _).onSecond

theorem agree_inZone (domain : Domain) {one : String → Act (HandleState σ) (Except Failure α)}
    {two : String → Act (HandleState τ) (Except Failure α)}
    (h : ∀ zone, Agree (Remember related) (one zone) (two zone)) :
    Agree (Remember related) (handle.inZone domain one) (twin.inZone domain two) := by
  refine .bind (agree_resolve same domain) fun answer => ?_
  cases answer with
  | error failure => exact .pure _
  | ok zone => exact h zone

theorem agree_relist (key : RecordKey) (zone : String) :
    Agree (Remember related) (handle.relist key zone) (twin.relist key zone) := by
  have fetched : Agree (Remember related) (handle.fetch key zone) (twin.fetch key zone) := by
    refine .bind (agree_onRemote (same.fetchAll _ _ _)) fun answer => ?_
    cases answer with
    | error failure => exact .bind (.emit _) fun _ => .pure _
    | ok listed =>
      dsimp only
      split
      · exact .bind (.emit _) fun _ => .pure _
      · exact .pure _
  refine .bind fetched fun answer => ?_
  cases answer with
  | error failure => exact .pure _
  | ok records => exact .bind (.emit _) fun _ => .bind (agree_remember _) fun _ => .pure _

theorem agree_list (key : RecordKey) :
    Agree (Remember related) (handle.list key) (twin.list key) := by
  refine .read ?_
  rintro ⟨records, first⟩ ⟨_, second⟩ ⟨rfl, -⟩
  dsimp only
  split
  · exact .bind (.emit _) fun _ => .pure _
  · exact agree_inZone same key.domain (agree_relist same key)

theorem agree_createIn (key : RecordKey) (address : Address) (ttl : Ttl) (proxied : Bool)
    (zone : String) :
    Agree (Remember related) (handle.createIn key address ttl proxied zone)
      (twin.createIn key address ttl proxied zone) := by
  refine .bind (agree_onRemote (same.createRecord _ _)) fun answer => ?_
  cases answer with
  | error failure => exact .bind (.emit _) fun _ => .pure _
  | ok created =>
    refine .read ?_
    rintro ⟨records, first⟩ ⟨_, second⟩ ⟨rfl, -⟩
    exact .bind (agree_remember _) fun _ => .bind (.emit _) fun _ => .pure _

theorem agree_updateIn (key : RecordKey) (id : String) (address : Address) (zone : String) :
    Agree (Remember related) (handle.updateIn key id address zone)
      (twin.updateIn key id address zone) := by
  refine .bind (agree_onRemote (same.updateRecord _ _ _)) fun answer => ?_
  cases answer with
  | error failure => exact .bind (agree_reportUnchanged _ _ _ _) fun _ => .pure _
  | ok _ => exact .bind (agree_remember _) fun _ => .bind (.emit _) fun _ => .pure _

theorem agree_deleteIn (key : RecordKey) (id : String) (zone : String) :
    Agree (Remember related) (handle.deleteIn key id zone) (twin.deleteIn key id zone) := by
  refine .bind (agree_onRemote (same.deleteRecord _ _)) fun answer => ?_
  cases answer with
  | error failure => exact .bind (agree_reportUnchanged _ _ _ _) fun _ => .pure _
  | ok _ => exact .bind (agree_remember _) fun _ => .bind (.emit _) fun _ => .pure _

/-- Whatever is done with the one handle, done with the other it comes to the same. -/
theorem agree_perform (operation : Operation) :
    Agree (Remember related) (handle.perform operation) (twin.perform operation) := by
  cases operation with
  | list key => exact .bind (agree_list same key) fun _ => .pure _
  | create key address ttl proxied =>
    have created := agree_inZone same key.domain (agree_createIn same key address ttl proxied)
    exact .bind (agree_withOwn key.family address created) fun _ => .pure _
  | update key id address =>
    have updated := agree_inZone same key.domain (agree_updateIn same key id address)
    exact .bind (agree_withOwn key.family address updated) fun _ => .pure _
  | delete key id =>
    have deleted := agree_inZone same key.domain (agree_deleteIn same key id)
    exact .bind deleted fun _ => .pure _
  | resolve domain => exact .bind (agree_resolve same domain) fun _ => .pure _
  | flush => exact .bind ZoneCache.agree_flush.onSecond fun _ => .pure _

theorem agree_performAll (operations : List Operation) :
    Agree (Remember related) (handle.performAll operations) (twin.performAll operations) :=
  .mapM (agree_perform same) operations

end Handle

end AddressRecords
