import AddressRecords.Proofs.Calls.Commands
import AddressRecords.Proofs.Record.History
import AddressRecords.Proofs.Remote.Exchange
import AddressRecords.Proofs.Zone.Walk

/-!
Which calls an operation attempts, in any state and whatever the API answers. Zones that are not
remembered are asked for first, page by page and candidate by candidate; only in a zone that was
found is the operation's own work done. A change is one call, the last one, and it succeeded only if
that very call was answered with a success.
-/

namespace AddressRecords

open Api (Client Envelope NewRecord RawRecord RecordPatch Service)

variable {σ α β : Type}

/-! Zones. -/

namespace ZoneCache

variable (source : ZoneSource σ) {name : String} {state : ZoneCache × σ}

theorem calls_lookup_hit {zones : List Zone} (known : state.1.find? name = some zones) :
    (lookup source name state).calls = [] := by
  by_cases root : name = ""
  · subst root
    rfl
  · rw [lookup, if_neg root, Act.IsQuiet.calls_bind .get]
    dsimp only [Act.get_apply]
    rw [known]
    exact Act.IsQuiet.calls (.bind (.emit rfl) fun _ => .pure _) state

theorem calls_lookup_miss (named : name ≠ "") (unknown : state.1.find? name = none) :
    (lookup source name state).calls = (source name state.2).calls := by
  rw [lookup, if_neg named, Act.IsQuiet.calls_bind .get]
  dsimp only [Act.get_apply]
  rw [unknown]
  dsimp only
  rw [(Act.isQuiet_debug _).calls_bind]
  exact Act.calls_bind_of_quiet (.bind (.modify _) fun _ => .pure _)

end ZoneCache

namespace Resolver

theorem isQuiet_tellSkipped (name : String) (zones : List Zone) :
    (tellSkipped name zones : Act σ Unit).IsQuiet := by
  induction zones with
  | nil => exact .pure _
  | cons zone rest ih =>
    unfold tellSkipped
    split
    · exact .bind (.emit rfl) fun _ => ih
    · exact ih

theorem isQuiet_tellStatus (name : String) (status : ZoneStatus) :
    (tellStatus name status : Act σ Unit).IsQuiet := by
  cases status with
  | active | removed => exact .pure _
  | degraded raw | undocumented raw => exact .bind (.emit rfl) fun _ => .emit rfl

variable (source : ZoneSource σ) (domain : Domain) {candidate : String} {state : ZoneCache × σ}

theorem calls_resolveAmong_of_passes (rest : List String)
    (h : Passes (ZoneCache.lookup source candidate state).value) :
    let looked := ZoneCache.lookup source candidate state
    (resolveAmong source domain (candidate :: rest) state).calls =
      looked.calls ++ (resolveAmong source domain rest looked.state).calls := by
  obtain ⟨zones, answer, none⟩ := h
  rw [resolveAmong, Act.calls_bind, answer]
  dsimp only
  rw [(isQuiet_tellSkipped candidate zones).calls_bind, tellSkipped_state, eligible_eq_filter, none]

theorem calls_resolveAmong_of_decides (rest : List String) {result : Except Failure String}
    (h : Decides candidate (ZoneCache.lookup source candidate state).value result) :
    (resolveAmong source domain (candidate :: rest) state).calls =
      (ZoneCache.lookup source candidate state).calls := by
  generalize answer : (ZoneCache.lookup source candidate state).value = given at h
  refine Act.calls_bind_of_quiet ?_
  rw [answer]
  cases h with
  | failed failure => exact .bind (.emit rfl) fun _ => .pure _
  | owner only =>
    refine .bind (isQuiet_tellSkipped candidate _) fun _ => ?_
    rw [eligible_eq_filter, only]
    exact .bind (isQuiet_tellStatus candidate _) fun _ => .bind (.emit rfl) fun _ => .pure _
  | @ambiguous zones several =>
    refine .bind (isQuiet_tellSkipped candidate _) fun _ => ?_
    rw [eligible_eq_filter]
    match found : eligible zones, several with
    | _ :: _ :: _, _ => exact .bind (.emit rfl) fun _ => .pure _

/-- Candidates without a list are asked for in their order, until one decides. -/
theorem exists_asks_of_resolveAmong (api : Service σ) (client : Client) (domain : Domain)
    (candidates : List String) (distinct : candidates.Nodup)
    (named : ∀ name ∈ candidates, name ≠ "") (state : ZoneCache × σ) :
    ∃ asked, Command.AskZones (candidates.filter fun name => (state.1.find? name).isNone) asked ∧
      (resolveAmong (client.zoneSource api) domain candidates state).calls =
        asked.map (·.call client) := by
  let source := client.zoneSource api
  induction candidates generalizing state with
  | nil => exact ⟨[], .stop _, Act.IsQuiet.calls (.bind (.emit rfl) fun _ => .pure _) state⟩
  | cons candidate rest ih =>
    obtain ⟨new, distinctRest⟩ := List.nodup_cons.mp distinct
    obtain ⟨first, namedRest⟩ := List.forall_mem_cons.mp named
    let looked := ZoneCache.lookup source candidate state
    have unchanged : rest.filter (fun name => (looked.state.1.find? name).isNone) =
        rest.filter fun name => (state.1.find? name).isNone := by
      refine List.filter_congr fun other mem => ?_
      rw [ZoneCache.find?_lookup_of_ne source (fun same : other = candidate => new (same ▸ mem))]
    obtain ⟨later, asks, calls⟩ := ih distinctRest namedRest looked.state
    rw [unchanged] at asks
    have total : (resolveAmong source domain (candidate :: rest) state).calls = looked.calls ∨
        (resolveAmong source domain (candidate :: rest) state).calls =
          looked.calls ++ later.map (·.call client) := by
      rcases decides_or_passes candidate looked.value with passes | ⟨result, decides⟩
      · exact .inr (calls ▸ calls_resolveAmong_of_passes source domain rest passes)
      · exact .inl (calls_resolveAmong_of_decides source domain rest decides)
    cases known : state.1.find? candidate with
    | some zones =>
      have none : looked.calls = [] := ZoneCache.calls_lookup_hit source known
      rw [List.filter_cons_of_neg (by simp [known])]
      rcases total with alone | further
      · exact ⟨[], .stop _, alone.trans none⟩
      · exact ⟨later, asks, by rw [further, none, List.nil_append]⟩
    | none =>
      have pages : ∃ count, 0 < count ∧ count < UInt32.size ∧
          looked.calls = (Command.pages (.zones candidate) count).map (·.call client) := by
        obtain ⟨count, some_pages, bounded, calls⟩ :=
          client.calls_listZones api candidate state.2
        refine ⟨count, some_pages, bounded, calls ▸ ?_⟩
        exact (ZoneCache.calls_lookup_miss source first known).trans
          (Act.calls_bind_of_quiet (.pure _))
      obtain ⟨count, some_pages, bounded, calls⟩ := pages
      rw [List.filter_cons_of_pos (by simp [known])]
      rcases total with alone | further
      · exact ⟨_, .ask some_pages bounded (.stop _), by rw [alone, calls, List.append_nil]⟩
      · exact ⟨_, .ask some_pages bounded asks, by rw [further, calls, List.map_append]⟩

end Resolver

/-! Confirmations. -/

namespace Api.Client

variable {api : Service σ} {client : Client} {state : σ}

/-- A call gives an envelope only if its request was answered with it. -/
theorem exists_confirms_of_send {reader : Json.Reader α} {call : Call} {envelope : Envelope α}
    (h : (send api client reader call state).value = .ok envelope) :
    ∃ request, client.request call = .ok request ∧
      Confirms reader (api.answer request state).1 envelope := by
  have ended := sent api client reader call state
  rw [h] at ended
  generalize (send api client reader call state).state = after at ended
  cases ended with
  | confirmed written confirms => exact ⟨_, written, confirms⟩

theorem createRecord_of_ok {zone : String} {record : NewRecord} {created : RawRecord}
    (h : (client.createRecord api zone record state).value = .ok created) :
    ∃ envelope, (send api client RawRecord.reader ((Command.create zone record).call client)
      state).value = .ok envelope ∧ envelope.result = some created ∧ created.id ≠ "" := by
  cases answer : (send api client RawRecord.reader ((Command.create zone record).call client)
      state).value with
  | error failure =>
    simp only [Command.call] at answer
    simp [createRecord, recordsPath, answer] at h
  | ok envelope =>
    refine ⟨envelope, rfl, ?_⟩
    simp only [Command.call] at answer
    cases given : envelope.result with
    | none => simp [createRecord, recordsPath, answer, given] at h
    | some made =>
      by_cases unnamed : made.id = ""
      · simp [createRecord, recordsPath, answer, given, unnamed] at h
      · simp only [createRecord, recordsPath, Act.value_bind, Act.debug_apply, answer, given,
          if_neg unnamed, Act.pure_apply, Except.ok.injEq] at h
        exact h ▸ ⟨rfl, unnamed⟩

theorem value_updateRecord (api : Service σ) (client : Client) (zone id : String)
    (patch : RecordPatch) (state : σ) :
    (client.updateRecord api zone id patch state).value =
      (send api client Json.Reader.value ((Command.update zone id patch).call client)
        state).value.map fun _ => () := by
  simp only [updateRecord, recordPath, Act.value_bind, Act.debug_apply, Command.call]
  generalize send api client Json.Reader.value _ state = done
  cases done.value <;> rfl

theorem value_deleteRecord (api : Service σ) (client : Client) (zone id : String) (state : σ) :
    (client.deleteRecord api zone id state).value =
      (send api client Json.Reader.value ((Command.delete zone id).call client)
        state).value.map fun _ => () := by
  simp only [deleteRecord, recordPath, Act.value_bind, Act.debug_apply, Command.call]
  generalize send api client Json.Reader.value _ state = done
  cases done.value <;> rfl

theorem updateRecord_of_ok {zone id : String} {patch : RecordPatch}
    (h : (client.updateRecord api zone id patch state).value = .ok ()) :
    ∃ envelope, (send api client Json.Reader.value ((Command.update zone id patch).call client)
      state).value = .ok envelope := by
  rw [value_updateRecord] at h
  generalize (send api client Json.Reader.value _ state).value = answer at h ⊢
  cases answer with
  | error failure => cases h
  | ok envelope => exact ⟨envelope, rfl⟩

theorem deleteRecord_of_ok {zone id : String}
    (h : (client.deleteRecord api zone id state).value = .ok ()) :
    ∃ envelope, (send api client Json.Reader.value ((Command.delete zone id).call client)
      state).value = .ok envelope := by
  rw [value_deleteRecord] at h
  generalize (send api client Json.Reader.value _ state).value = answer at h ⊢
  cases answer with
  | error failure => cases h
  | ok envelope => exact ⟨envelope, rfl⟩

end Api.Client

/-! Operations. -/

namespace Handle

variable (handle : Handle σ)

theorem calls_onRemote (act : Act σ α) (state : HandleState σ) :
    (onRemote act state).calls = (act state.2.2).calls := rfl

theorem calls_relist (key : RecordKey) (zone : String) (state : HandleState σ) :
    ∃ work, (Operation.list key).Work zone work ∧
      (handle.relist key zone state).calls = work.map (·.call handle.client) := by
  obtain ⟨count, some_pages, bounded, calls⟩ := handle.client.calls_listRecords handle.api zone
    key.domain.wireName key.family.recordType state.2.2
  rw [← calls_onRemote] at calls
  refine ⟨_, .list key zone some_pages bounded, calls ▸ ?_⟩
  refine (Act.calls_bind_of_quiet ?_).trans (Act.calls_bind_of_quiet ?_)
  · cases (handle.fetch key zone state).value with
    | error failure => exact .pure _
    | ok records => exact .bind (.emit rfl) fun _ => .bind (.modify _) fun _ => .pure _
  · cases (onRemote (handle.client.listRecords handle.api zone key.domain.wireName
        key.family.recordType) state).value with
    | error failure => exact .bind (.emit rfl) fun _ => .pure _
    | ok listed =>
      dsimp only
      split
      · exact .bind (.emit rfl) fun _ => .pure _
      · exact .pure _

theorem isQuiet_reportUnchanged (mutation : Mutation) (key : RecordKey) (id : String)
    (failure : Api.Failure) : (reportUnchanged mutation key id failure : Act α Failure).IsQuiet := by
  unfold reportUnchanged
  dsimp only
  split <;> exact .bind (.emit rfl) fun _ => .pure _

theorem calls_createIn (key : RecordKey) (address : Address) (ttl : Ttl) (proxied : Bool)
    (zone : String) (state : HandleState σ) :
    (handle.createIn key address ttl proxied zone state).calls =
      [(Command.create zone (newRecord key address ttl proxied)).call handle.client] := by
  rw [← handle.client.calls_createRecord handle.api zone _ state.2.2, ← calls_onRemote]
  refine Act.calls_bind_of_quiet ?_
  cases (onRemote (handle.client.createRecord handle.api zone (newRecord key address ttl proxied))
      state).value with
  | error failure => exact .bind (.emit rfl) fun _ => .pure _
  | ok created =>
    exact .bind .get fun _ => .bind (.modify _) fun _ => .bind (.emit rfl) fun _ => .pure _

theorem calls_updateIn (key : RecordKey) (id : String) (address : Address) (zone : String)
    (state : HandleState σ) :
    (handle.updateIn key id address zone state).calls =
      [(Command.update zone id (recordPatch key address)).call handle.client] := by
  rw [← handle.client.calls_updateRecord handle.api zone id _ state.2.2, ← calls_onRemote]
  refine Act.calls_bind_of_quiet ?_
  cases (onRemote (handle.client.updateRecord handle.api zone id (recordPatch key address))
      state).value with
  | error failure => exact .bind (isQuiet_reportUnchanged _ _ _ _) fun _ => .pure _
  | ok _ => exact .bind (.modify _) fun _ => .bind (.emit rfl) fun _ => .pure _

theorem calls_deleteIn (key : RecordKey) (id zone : String) (state : HandleState σ) :
    (handle.deleteIn key id zone state).calls =
      [(Command.delete zone id).call handle.client] := by
  rw [← handle.client.calls_deleteRecord handle.api zone id state.2.2, ← calls_onRemote]
  refine Act.calls_bind_of_quiet ?_
  cases (onRemote (handle.client.deleteRecord handle.api zone id) state).value with
  | error failure => exact .bind (isQuiet_reportUnchanged _ _ _ _) fun _ => .pure _
  | ok _ => exact .bind (.modify _) fun _ => .bind (.emit rfl) fun _ => .pure _

/-- The zone is looked for, and the work is done where it is found. -/
theorem exists_calls_of_inZone {operation : Operation} {domain : Domain} {state : HandleState σ}
    {act : String → Act (HandleState σ) (Except Failure α)}
    (located : operation.domain? = some domain)
    (same : (handle.perform operation state).calls = (handle.inZone domain act state).calls)
    (works : ∀ zone state, ∃ work, operation.Work zone work ∧
      (act zone state).calls = work.map (·.call handle.client)) :
    ∃ domain asked work, operation.domain? = some domain ∧
      Command.AskZones (domain.zoneCandidates.filter fun name => (state.2.1.find? name).isNone)
        asked ∧
      (handle.perform operation state).calls = (asked ++ work).map (·.call handle.client) ∧
      (∀ zone, (handle.resolve domain state).value = .ok zone → operation.Work zone work) ∧
      (∀ failure, (handle.resolve domain state).value = .error failure → work = []) := by
  obtain ⟨asked, asks, calls⟩ := Resolver.exists_asks_of_resolveAmong handle.api handle.client
    domain domain.zoneCandidates domain.nodup_zoneCandidates
    (fun name mem => Domain.ne_empty_of_mem_zoneCandidates mem) state.2
  have looked : (handle.resolve domain state).calls = asked.map (·.call handle.client) := calls
  rw [inZone, Act.calls_bind, looked] at same
  cases found : (handle.resolve domain state).value with
  | error failure =>
    have still : (pure (.error failure) : Act (HandleState σ) (Except Failure α)).IsQuiet := .pure _
    refine ⟨domain, asked, [], located, asks, ?_, ?_, fun _ _ => rfl⟩
    · rw [same, found, still.calls, List.map_append, List.map_nil]
    · intro zone impossible
      rw [found] at impossible
      cases impossible
  | ok zone =>
    obtain ⟨work, works, done⟩ := works zone (handle.resolve domain state).state
    refine ⟨domain, asked, work, located, asks, ?_, ?_, ?_⟩
    · rw [same, found, List.map_append, ← done]
    · intro other there
      rw [found] at there
      cases there
      exact works
    · intro failure impossible
      rw [found] at impossible
      cases impossible

theorem ok_of_toOption {ε : Type} {answer : Except ε α} {value : α}
    (h : answer.toOption = some value) : answer = .ok value := by
  cases answer with
  | error failure => cases h
  | ok given => exact congrArg Except.ok (Option.some.inj h)

theorem ok_of_map {f : α → β} {act : Act σ (Except Failure α)} {state : σ} {value : β}
    (h : ((do return (← act).map f : Act σ (Except Failure β)) state).value = .ok value) :
    ∃ given, (act state).value = .ok given ∧ f given = value := by
  rw [Act.value_bind, Act.pure_apply] at h
  cases answer : (act state).value with
  | error failure =>
    rw [answer] at h
    cases h
  | ok given =>
    rw [answer] at h
    exact ⟨given, rfl, Except.ok.inj h⟩

theorem ok_of_withOwn {family : Family} {address : Address} {act : Act σ (Except Failure α)}
    {state : σ} {value : α} (h : (withOwn family address act state).value = .ok value) :
    family.owns address ∧ (act state).value = .ok value := by
  unfold withOwn at h
  split at h
  · exact ⟨‹_›, h⟩
  · cases h

theorem ok_of_inZone {domain : Domain} {act : String → Act (HandleState σ) (Except Failure α)}
    {state : HandleState σ} {value : α}
    (h : (handle.inZone domain act state).value = .ok value) :
    ∃ zone, (handle.resolve domain state).value = .ok zone ∧
      (act zone (handle.resolve domain state).state).value = .ok value := by
  rw [inZone, Act.value_bind] at h
  cases found : (handle.resolve domain state).value with
  | error failure =>
    rw [found] at h
    cases h
  | ok zone =>
    rw [found] at h
    exact ⟨zone, rfl, h⟩

/-! Changes that succeed were confirmed. -/

section

variable {handle} {key : RecordKey} {address : Address} {zone id : String} {state : HandleState σ}

theorem confirmed_of_createIn {ttl : Ttl} {proxied : Bool}
    (h : (handle.createIn key address ttl proxied zone state).value = .ok id) :
    Command.Confirmed handle state.2.2 (.create zone (newRecord key address ttl proxied))
      (.id id) := by
  cases made : (handle.client.createRecord handle.api zone (newRecord key address ttl proxied)
      state.2.2).value with
  | error failure =>
    obtain ⟨⟨reason, value⟩, -⟩ := handle.createIn_of_error made
    rw [value] at h
    cases h
  | ok created =>
    rw [(handle.createIn_of_ok made).1] at h
    cases h
    obtain ⟨envelope, answered, result, named⟩ := Client.createRecord_of_ok made
    obtain ⟨request, written, confirms⟩ := Client.exists_confirms_of_send answered
    exact .create written confirms result named

theorem confirmed_of_updateIn (h : (handle.updateIn key id address zone state).value = .ok ()) :
    Command.Confirmed handle state.2.2 (.update zone id (recordPatch key address)) .done := by
  cases made : (handle.client.updateRecord handle.api zone id (recordPatch key address)
      state.2.2).value with
  | error failure =>
    obtain ⟨⟨reason, value⟩, -⟩ := handle.updateIn_of_error made
    rw [value] at h
    cases h
  | ok _ =>
    obtain ⟨envelope, answered⟩ := Client.updateRecord_of_ok made
    obtain ⟨request, written, confirms⟩ := Client.exists_confirms_of_send answered
    exact .update written confirms

theorem confirmed_of_deleteIn (h : (handle.deleteIn key id zone state).value = .ok ()) :
    Command.Confirmed handle state.2.2 (.delete zone id) .done := by
  cases made : (handle.client.deleteRecord handle.api zone id state.2.2).value with
  | error failure =>
    obtain ⟨⟨reason, value⟩, -⟩ := handle.deleteIn_of_error key made
    rw [value] at h
    cases h
  | ok _ =>
    obtain ⟨envelope, answered⟩ := Client.deleteRecord_of_ok made
    obtain ⟨request, written, confirms⟩ := Client.exists_confirms_of_send answered
    exact .delete written confirms

end

/-- A change gives an answer only if its one command was confirmed with it. -/
theorem exists_confirmed {operation : Operation} (changes : operation.IsChange)
    {state : HandleState σ} {answer : Answer}
    (h : (handle.perform operation state).value = .ok answer) :
    ∃ domain zone command, operation.domain? = some domain ∧
      (handle.resolve domain state).value = .ok zone ∧ operation.Work zone [command] ∧
      command.Confirmed handle (handle.resolve domain state).state.2.2 answer := by
  cases operation with
  | list | resolve | flush => cases changes
  | create key address ttl proxied =>
    obtain ⟨id, made, rfl⟩ := ok_of_map h
    obtain ⟨zone, found, inside⟩ := handle.ok_of_inZone (ok_of_withOwn made).2
    exact ⟨_, zone, _, rfl, found, .create .., confirmed_of_createIn inside⟩
  | update key id address =>
    obtain ⟨_, made, rfl⟩ := ok_of_map h
    obtain ⟨zone, found, inside⟩ := handle.ok_of_inZone (ok_of_withOwn made).2
    exact ⟨_, zone, _, rfl, found, .update .., confirmed_of_updateIn inside⟩
  | delete key id =>
    obtain ⟨_, made, rfl⟩ := ok_of_map h
    obtain ⟨zone, found, inside⟩ := handle.ok_of_inZone made
    exact ⟨_, zone, _, rfl, found, .delete .., confirmed_of_deleteIn inside⟩

/-- A change that succeeds needed the API. -/
theorem busy_of_change {operation : Operation} (changes : operation.IsChange)
    {state : HandleState σ} {answer : Answer}
    (h : (handle.perform operation state).value = .ok answer) : ¬ operation.IsIdle state.1 := by
  cases operation with
  | list | resolve | flush => cases changes
  | create | update =>
    obtain ⟨_, made, -⟩ := ok_of_map h
    exact not_not_intro (ok_of_withOwn made).1
  | delete => exact id

/-! The order of the calls. -/

theorem isQuiet_of_isIdle {operation : Operation} {state : HandleState σ}
    (idle : operation.IsIdle state.1) : (handle.perform operation state).calls = [] := by
  cases operation with
  | list key =>
    obtain ⟨records, warm⟩ := Option.isSome_iff_exists.mp idle
    obtain ⟨-, -, line, only⟩ := handle.list_of_warm warm
    refine (Act.calls_bind_of_quiet (.pure _)).trans ?_
    rw [Outcome.calls, only]
    rfl
  | create key address ttl proxied =>
    refine (Act.calls_bind_of_quiet (.pure _)).trans ?_
    rw [create, withOwn, if_neg idle]
    exact Act.IsQuiet.calls (.bind (.emit rfl) fun _ => .pure _) state
  | update key id address =>
    refine (Act.calls_bind_of_quiet (.pure _)).trans ?_
    rw [update, withOwn, if_neg idle]
    exact Act.IsQuiet.calls (.bind (.emit rfl) fun _ => .pure _) state
  | flush => rfl
  | delete | resolve => cases idle

/-- An operation that needs the API looks for its zone and works there. -/
theorem exists_calls {operation : Operation} {state : HandleState σ}
    (busy : ¬ operation.IsIdle state.1) :
    ∃ domain asked work, operation.domain? = some domain ∧
      Command.AskZones (domain.zoneCandidates.filter fun name => (state.2.1.find? name).isNone)
        asked ∧
      (handle.perform operation state).calls = (asked ++ work).map (·.call handle.client) ∧
      (∀ zone, (handle.resolve domain state).value = .ok zone → operation.Work zone work) ∧
      (∀ failure, (handle.resolve domain state).value = .error failure → work = []) := by
  cases operation with
  | list key =>
    have cold : state.1.get key = none := Option.not_isSome_iff_eq_none.mp busy
    refine handle.exists_calls_of_inZone rfl ?_ fun zone state => handle.calls_relist key zone state
    refine (Act.calls_bind_of_quiet (.pure _)).trans ?_
    rw [list, Act.IsQuiet.calls_bind .get]
    dsimp only [Act.get_apply]
    rw [cold]
  | create key address ttl proxied =>
    refine handle.exists_calls_of_inZone rfl ?_ fun zone state =>
      ⟨_, .create key address ttl proxied zone, handle.calls_createIn key address ttl proxied zone state⟩
    refine (Act.calls_bind_of_quiet (.pure _)).trans ?_
    rw [handle.create_of_own (Decidable.not_not.mp busy)]
  | update key id address =>
    refine handle.exists_calls_of_inZone rfl ?_ fun zone state =>
      ⟨_, .update key id address zone, handle.calls_updateIn key id address zone state⟩
    refine (Act.calls_bind_of_quiet (.pure _)).trans ?_
    rw [handle.update_of_own (Decidable.not_not.mp busy)]
  | delete key id =>
    refine handle.exists_calls_of_inZone rfl ?_ fun zone state =>
      ⟨_, .delete key id zone, handle.calls_deleteIn key id zone state⟩
    exact Act.calls_bind_of_quiet (.pure _)
  | resolve domain =>
    refine handle.exists_calls_of_inZone rfl ?_ fun zone state =>
      ⟨[], .resolve domain zone, Act.IsQuiet.calls (.pure (Except.ok zone)) state⟩
    refine (Act.calls_bind_of_quiet (.pure _)).trans (Act.calls_bind_of_quiet ?_).symm
    cases (handle.resolve domain state).value <;> exact .pure _
  | flush => exact absurd trivial busy

/-- The calls of one operation, in two parts. -/
structure Orderly (operation : Operation) (state : HandleState σ) (asked work : List Command) :
    Prop where
  calls : (handle.perform operation state).calls = (asked ++ work).map (·.call handle.client)
  /-- Zones are asked for only for candidates that nothing is remembered of. -/
  asks : ∀ domain, operation.domain? = some domain →
    Command.AskZones (domain.zoneCandidates.filter fun name => (state.2.1.find? name).isNone) asked
  works : ∀ domain zone, operation.domain? = some domain →
    (handle.resolve domain state).value = .ok zone → ¬ operation.IsIdle state.1 →
    operation.Work zone work
  unresolved : ∀ domain failure, operation.domain? = some domain →
    (handle.resolve domain state).value = .error failure → work = []
  idle : operation.IsIdle state.1 → asked = [] ∧ work = []
  /-- A change is the last call. -/
  last : ∀ call ∈ (handle.perform operation state).calls.dropLast, call.method = .get
  /-- Nothing is attempted twice. -/
  once : (handle.perform operation state).calls.Nodup
  /-- Nothing is sent twice, whatever the base URL makes of the calls. -/
  sent_once : ((handle.perform operation state).calls.filterMap fun call =>
    (handle.client.request call).toOption).Nodup
  confirmed : operation.IsChange → ∀ answer, (handle.perform operation state).value = .ok answer →
    ∃ domain zone command, operation.domain? = some domain ∧
      (handle.resolve domain state).value = .ok zone ∧ work = [command] ∧
      command.Confirmed handle (handle.resolve domain state).state.2.2 answer

/-- Whatever the state and the API, the calls of an operation come in this order. -/
theorem orderly (operation : Operation) (state : HandleState σ) :
    ∃ asked work, handle.Orderly operation state asked work := by
  by_cases idle : operation.IsIdle state.1
  · have none := handle.isQuiet_of_isIdle idle
    refine ⟨[], [], ?_⟩
    constructor
    case calls => exact none
    case asks => exact fun _ _ => .stop _
    case works => exact fun _ _ _ _ busy => absurd idle busy
    case unresolved => exact fun _ _ _ _ => rfl
    case idle => exact fun _ => ⟨rfl, rfl⟩
    case last => simp [none]
    case once => simp [none]
    case sent_once => simp [none]
    case confirmed =>
      exact fun changes answer given => absurd idle (handle.busy_of_change changes given)
  · obtain ⟨domain, asked, work, located, asks, calls, works, unresolved⟩ := handle.exists_calls idle
    have here {other : Domain} (also : operation.domain? = some other) : other = domain :=
      Option.some.inj (also.symm.trans located)
    have working : work = [] ∨ ∃ zone, operation.Work zone work := by
      cases found : (handle.resolve domain state).value with
      | error failure => exact .inl (unresolved failure found)
      | ok zone => exact .inr ⟨zone, works zone found⟩
    have distinct := domain.pairwise_zoneCandidates.filter
      fun name => (state.2.1.find? name).isNone
    have apart := asks.pairwise_append handle.client working distinct
    refine ⟨asked, work, ?_⟩
    constructor
    case calls => exact calls
    case asks =>
      intro other also
      exact here also ▸ asks
    case works =>
      intro other zone also found _
      obtain rfl := here also
      exact works zone found
    case unresolved =>
      intro other failure also
      obtain rfl := here also
      exact unresolved failure
    case idle => exact fun impossible => absurd impossible idle
    case last =>
      rw [calls, ← List.map_dropLast]
      intro call mem
      obtain ⟨command, before, rfl⟩ := List.mem_map.mp mem
      exact asks.get_of_mem_dropLast handle.client working command before
    case once =>
      rw [calls]
      exact List.pairwise_map.mpr (apart.imp fun h => h.ne)
    case sent_once =>
      rw [calls]
      refine List.pairwise_filterMap.mpr (List.pairwise_map.mpr (apart.imp ?_))
      rintro command other h request written _ also rfl
      exact h.request_ne (ok_of_toOption written) (ok_of_toOption also)
    case confirmed =>
      intro changes answer given
      obtain ⟨other, zone, command, also, found, inside, confirmed⟩ :=
        handle.exists_confirmed changes given
      obtain rfl := here also
      exact ⟨other, zone, command, also, found, (works zone found).eq_of_isChange changes inside,
        confirmed⟩

/-! Runs. -/

theorem calls_performAll_append (before after : List Operation) (state : HandleState σ) :
    (handle.performAll (before ++ after) state).calls = (handle.performAll before state).calls ++
      (handle.performAll after (handle.performAll before state).state).calls := by
  rw [performAll_append, Act.calls_bind]
  exact congrArg _ (Act.calls_bind_of_quiet (.pure _))

theorem calls_performAll_cons (operation : Operation) (after : List Operation)
    (state : HandleState σ) :
    (handle.performAll (operation :: after) state).calls = (handle.perform operation state).calls ++
      (handle.performAll after (handle.perform operation state).state).calls := by
  rw [performAll, List.mapM_cons, Act.calls_bind]
  exact congrArg _ (Act.calls_bind_of_quiet (.pure _))

end Handle

end AddressRecords
